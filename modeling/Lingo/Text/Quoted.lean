import Lingo.Text.Printable
import Lingo.Text.CodePoint

/-!
# Quoted string literals

`quote s` writes `s` as a string literal of the emitted code. The literal is delimited by single
quotes, or by double quotes when `s` holds a single quote and no double quote. Inside it a
backslash and the delimiter are escaped, tab, line feed and carriage return take their short
escapes, other control characters and non-printable characters take hexadecimal escapes of two,
four or eight lowercase digits, and every other character stands as it is.

The literal is written code point by code point (`Lingo.Text.CodePoint`), so a lone surrogate,
which is never printable, takes a four-digit escape.

`quoteBytes` writes a byte string the same way, after a `b`: bytes outside printable ASCII take
two-digit escapes.
-/

namespace Lingo.Text

/-- The lowercase hexadecimal digits of `n`, padded with zeros to `width`. -/
def hexPadded (width n : Nat) : String :=
  let ds := Nat.toDigits 16 n
  String.ofList (List.replicate (width - ds.length) '0' ++ ds)

/-- The escape of a code point that is not written as it is, by its size. -/
def hexEscape (n : Nat) : String :=
  if n < 0x100 then "\\x" ++ hexPadded 2 n
  else if n < 0x10000 then "\\u" ++ hexPadded 4 n
  else "\\U" ++ hexPadded 8 n

/-- How one code point of a literal delimited by `delim` is written. -/
def quotePoint (delim : Char) (n : Nat) : String :=
  if isSurrogate n ∨ escapePoint ≤ n then hexEscape n
  else
    let c := Char.ofNat n
    if c = delim ∨ c = '\\' then String.ofList ['\\', c]
    else if c = '\t' then "\\t"
    else if c = '\n' then "\\n"
    else if c = '\r' then "\\r"
    else if n < 0x20 ∨ n = 0x7f then hexEscape n
    else if n < 0x7f then String.singleton c
    else if isPrintable c then String.singleton c
    else hexEscape n

/-- The delimiter of the literal for `s`: a double quote only when `s` holds a single quote and
no double quote. -/
def delimiterFor (s : String) : Char :=
  if s.contains '\x27' && !s.contains '"' then '"' else '\x27'

/-- The string literal that denotes `s`. -/
def quote (s : String) : String :=
  let d := delimiterFor s
  String.singleton d ++ String.join ((codePoints s).map (quotePoint d)) ++ String.singleton d

/-- How one byte of a byte literal delimited by `delim` is written. -/
def quoteByte (delim : Char) (b : Nat) : String :=
  let c := Char.ofNat b
  if c = delim ∨ c = '\\' then String.ofList ['\\', c]
  else if c = '\t' then "\\t"
  else if c = '\n' then "\\n"
  else if c = '\r' then "\\r"
  else if b < 0x20 ∨ 0x7f ≤ b then "\\x" ++ hexPadded 2 b
  else String.singleton c

/-- The byte literal that denotes a byte string, delimited as `quote` delimits text. -/
def quoteBytes (data : List Nat) : String :=
  let d := if data.contains 0x27 && !data.contains 0x22 then '"' else '\x27'
  "b" ++ String.singleton d ++ String.join (data.map (quoteByte d)) ++ String.singleton d

end Lingo.Text
