import Lingo.Codec.DomainName
import Lingo.Codec.Multibyte
import Lingo.Codec.Names
import Lingo.Codec.Tables
import Lingo.Codec.Utf7
import Lingo.Text.Quoted

/-!
# Encoding text

`encodeText name text` encodes text with the codec `name` names, giving its bytes or the reason
it cannot. The name must be writable as UTF-8 and hold no null character; it is looked up as
`Lingo.Codec.Names` says, and a name that finds no codec, or finds one that turns bytes into
bytes rather than text into bytes, is refused.

Each codec follows a scheme (`Scheme`):

* ASCII and Latin-1 write each code point below 128 or 256 as one byte;
* UTF-8, UTF-16 and UTF-32 write every code point but a lone surrogate, the last two in a chosen
  byte order or with a byte-order mark before little-endian units, and UTF-8 optionally after a
  signature;
* the escape codecs write everything, code points past ASCII (or past Latin-1, for the raw form)
  as backslash escapes;
* single-byte codecs write what their table holds (`Lingo.Codec.Tables`);
* multibyte codecs write the characters of their sets (`Lingo.Codec.Multibyte`);
* UTF-7 and Punycode write everything, and the domain name codec writes each label in ASCII
  (`Lingo.Codec.DomainName`).

A run of characters a codec cannot write is reported from the first such character; a multibyte
codec and UTF-16 and UTF-32 report that character alone.
-/

namespace Lingo.Codec

-- Powers are the core library's, `Nat.pow` and `Int.pow`, whatever else is imported, so these
-- definitions read the same in every context.
attribute [local instance (high)] instPowNat

/-- The order of the units of UTF-16 and UTF-32: a byte-order mark and then little-endian
units, or a fixed order without a mark. -/
inductive ByteOrder where
  | marked
  | little
  | big
  deriving DecidableEq

/-- How a codec writes text. -/
inductive Scheme where
  /-- A codec that turns bytes into bytes, not text into bytes. -/
  | binary
  | ascii
  | latin1
  | utf8 (signed : Bool)
  | utf16 (order : ByteOrder)
  | utf32 (order : ByteOrder)
  | utf7
  | unicodeEscape (raw : Bool)
  | singleByte (table : String)
  | multibyte (m : Multibyte)
  | punycode
  | domainName
  | undefined

/-- The scheme of the codec with a given name, if there is one. -/
def schemeOf? (codec : String) : Option Scheme :=
  match codec with
  | "ascii" => some .ascii
  | "latin_1" | "charmap" => some .latin1
  | "utf_8" => some (.utf8 false)
  | "utf_8_sig" => some (.utf8 true)
  | "utf_16" => some (.utf16 .marked)
  | "utf_16_le" => some (.utf16 .little)
  | "utf_16_be" => some (.utf16 .big)
  | "utf_32" => some (.utf32 .marked)
  | "utf_32_le" => some (.utf32 .little)
  | "utf_32_be" => some (.utf32 .big)
  | "utf_7" => some .utf7
  | "unicode_escape" => some (.unicodeEscape false)
  | "raw_unicode_escape" => some (.unicodeEscape true)
  | "punycode" => some .punycode
  | "idna" => some .domainName
  | "undefined" => some .undefined
  | "base64_codec" | "bz2_codec" | "hex_codec" | "quopri_codec" | "rot_13" | "uu_codec"
  | "zlib_codec" => some .binary
  | m => ((singleByteTable? m).map .singleByte).or ((Multibyte.ofName? m).map .multibyte)

/-- The scheme of the codec a name finds: the first candidate that names a codec. -/
def lookup? (name : String) : Option Scheme :=
  (candidates (normalizeName name)).findSome? fun m => if isCandidate m then schemeOf? m else none

/-- Why text cannot be encoded. -/
inductive EncodeError where
  /-- Code points from `start` up to `stop` of `text` cannot be written by codec `codec`. -/
  | unencodable (codec : String) (text : List Nat) (start stop : Nat) (reason : String)
  /-- The codec asked for by the name `codec` failed for the reason given. -/
  | failed (codec reason : String)
  /-- No codec has this name. -/
  | unknown (name : String)
  /-- The codec of this name turns bytes into bytes. -/
  | notText (name : String)
  /-- The name holds a null character. -/
  | nullInName

namespace EncodeError

/-- The class name of a failure. -/
def kind : EncodeError → String
  | unencodable .. => "UnicodeEncodeError"
  | failed .. => "UnicodeError"
  | unknown _ | notText _ => "LookupError"
  | nullInName => "ValueError"

/-- The message of a failure. -/
def message : EncodeError → String
  | unencodable codec text start stop reason =>
      let head := "\x27" ++ codec ++ "\x27 codec can\x27t encode "
      if stop = start + 1 then
        head ++ "character \x27" ++ Text.hexEscape (text.getD start 0) ++ "\x27 in position " ++
          toString start ++ ": " ++ reason
      else
        head ++ "characters in position " ++ toString start ++ "-" ++ toString (stop - 1) ++ ": " ++
          reason
  | failed codec reason => "encoding with \x27" ++ codec ++ "\x27 codec failed (UnicodeError: " ++ reason ++ ")"
  | unknown name => "unknown encoding: " ++ name
  | notText name => "\x27" ++ name ++ "\x27 is not a text encoding; use codecs.encode() to handle arbitrary codecs"
  | nullInName => "embedded null character"

end EncodeError

/-- The position of the first code point that `ok` refuses, and the end of the run of refused
code points starting there. -/
def firstRun (ok : Nat → Bool) (cps : List Nat) : Option (Nat × Nat) :=
  match cps.findIdx? (!ok ·) with
  | some i => some (i, i + ((cps.drop i).takeWhile (!ok ·)).length)
  | none => none

/-- Refuses the first run of code points that `ok` refuses, or the first such code point alone
when `single` is set. -/
def checkAll (codec reason : String) (single : Bool) (ok : Nat → Bool) (cps : List Nat) :
    Except EncodeError Unit :=
  match firstRun ok cps with
  | some (i, j) => throw (.unencodable codec cps i (if single then i + 1 else j) reason)
  | none => pure ()

/-- The UTF-8 bytes of a code point. -/
def utf8Bytes (n : Nat) : List Nat :=
  if n < 0x80 then [n]
  else if n < 0x800 then [0xC0 + n / 0x40, 0x80 + n % 0x40]
  else if n < 0x10000 then [0xE0 + n / 0x1000, 0x80 + n / 0x40 % 0x40, 0x80 + n % 0x40]
  else [0xF0 + n / 0x40000, 0x80 + n / 0x1000 % 0x40, 0x80 + n / 0x40 % 0x40, 0x80 + n % 0x40]

/-- The bytes of a unit of `width` bytes in a byte order; a marked order is little-endian. -/
def unitBytes (order : ByteOrder) (width n : Nat) : List Nat :=
  let little := (List.range width).map fun k => n / 256 ^ k % 256
  if order = .big then little.reverse else little

/-- The UTF-16 units of a code point. -/
def utf16Units (n : Nat) : List Nat :=
  if n < 0x10000 then [n]
  else [0xD800 + (n - 0x10000) / 0x400, 0xDC00 + (n - 0x10000) % 0x400]

/-- The byte-order mark written before marked units of `width` bytes. -/
def orderMark (order : ByteOrder) (width : Nat) : List Nat :=
  if order = .marked then unitBytes .little width 0xFEFF else []

/-- The ASCII bytes of a text. -/
def asciiOf (s : String) : List Nat := s.toList.map Char.toNat

/-- The escape of a code point in the escape codecs: hexadecimal of two, four or eight digits. -/
def escapeOf (n : Nat) : List Nat := asciiOf (Text.hexEscape n)

/-- How the escape codec writes one code point; the raw form writes Latin-1 as it is. -/
def escapeBytes (raw : Bool) (n : Nat) : List Nat :=
  if raw then (if n < 0x100 then [n] else escapeOf n)
  else if n = 0x5C then asciiOf "\\\\"
  else if n = 0x09 then asciiOf "\\t"
  else if n = 0x0A then asciiOf "\\n"
  else if n = 0x0D then asciiOf "\\r"
  else if n < 0x20 ∨ 0x7F ≤ n then escapeOf n
  else [n]

/-- The byte a single-byte table writes for a code point: the last byte that stands for it. -/
def tableByte? (table : String) (n : Nat) : Option Nat :=
  if n = 0xFFFE then none
  else
    let hits := (table.toList.zipIdx).filterMap fun (c, i) => if c.toNat = n then some i else none
    hits.getLast?

/-- Encodes code points by a scheme. -/
def Scheme.encode (cps : List Nat) : Scheme → Except EncodeError (List Nat)
  | .binary => pure []
  | .ascii => do
      checkAll "ascii" "ordinal not in range(128)" false (· < 0x80) cps
      pure cps
  | .latin1 => do
      checkAll "latin-1" "ordinal not in range(256)" false (· < 0x100) cps
      pure cps
  | .utf8 signed => do
      checkAll "utf-8" "surrogates not allowed" false (!Text.isSurrogate ·) cps
      pure ((if signed then [0xEF, 0xBB, 0xBF] else []) ++ cps.flatMap utf8Bytes)
  | .utf16 order => do
      let name := match order with
        | .marked => "utf-16" | .little => "utf-16-le" | .big => "utf-16-be"
      checkAll name "surrogates not allowed" true (!Text.isSurrogate ·) cps
      pure (orderMark order 2 ++ (cps.flatMap utf16Units).flatMap (unitBytes order 2))
  | .utf32 order => do
      let name := match order with
        | .marked => "utf-32" | .little => "utf-32-le" | .big => "utf-32-be"
      checkAll name "surrogates not allowed" true (!Text.isSurrogate ·) cps
      pure (orderMark order 4 ++ cps.flatMap (unitBytes order 4))
  | .unicodeEscape raw => pure (cps.flatMap (escapeBytes raw))
  | .singleByte table => do
      checkAll "charmap" "character maps to <undefined>" false (fun n => (tableByte? table n).isSome) cps
      pure (cps.filterMap (tableByte? table))
  | .multibyte m =>
      match m.encode cps with
      | .ok bytes => pure bytes
      | .error i => throw (.unencodable m.name cps i (i + 1) "illegal multibyte sequence")
  | .utf7 => pure (Utf7.encode cps)
  | .punycode => pure (Punycode.encode cps)
  | .domainName => (DomainName.encode cps).mapError (.failed "idna")
  | .undefined => throw (.failed "undefined" "undefined encoding")

/-- The error as reported to a caller who asked for the codec by `name`: a failure of the codec
is reported under that name, while a character the codec cannot write is reported under the
codec's own name. -/
def EncodeError.askedAs (name : String) : EncodeError → EncodeError
  | .failed _ reason => .failed name reason
  | e => e

/-- Encodes `text` with the codec named `name`. -/
def encodeText (name text : String) : Except EncodeError (List Nat) := do
  let nameCps := Text.codePoints name
  checkAll "utf-8" "surrogates not allowed" false (!Text.isSurrogate ·) nameCps
  if nameCps.contains 0 then throw .nullInName
  match lookup? name with
  | none => throw (.unknown name)
  | some .binary => throw (.notText name)
  | some s => (s.encode (Text.codePoints text)).mapError (·.askedAs name)

theorem encode_ascii_of_lt (cps : List Nat) (h : ∀ n ∈ cps, n < 0x80) :
    Scheme.ascii.encode cps = .ok cps := by
  have hf : firstRun (· < 0x80) cps = none := by
    simp only [firstRun]
    rw [List.findIdx?_eq_none_iff.mpr (by intro n hn; simp [h n hn])]
  simp [Scheme.encode, checkAll, hf, bind, Except.bind, pure, Except.pure]

end Lingo.Codec
