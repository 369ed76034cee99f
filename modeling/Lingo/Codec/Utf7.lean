/-!
# UTF-7

UTF-7 (RFC 2152) writes the printable ASCII characters but `+`, `\` and `~`, and the space, tab,
carriage return and line feed, as themselves, and `+` as `+-`. Any other character starts a run
after `+` in which UTF-16 units are written in modified base64, sixteen bits each. The run ends
before the next directly written character: the bits left are written as one more digit, padded
with zeros, and a `-` follows when that character is a base64 digit or `-` itself. At the end of
the text an open run is closed the same way and followed by `-`.
-/

namespace Lingo.Codec.Utf7

-- Powers are the core library's, `Nat.pow` and `Int.pow`, whatever else is imported, so these
-- definitions read the same in every context.
attribute [local instance (high)] instPowNat

/-- The base64 digit of a value below 64. -/
def digit (v : Nat) : Nat :=
  if v < 26 then 0x41 + v else if v < 52 then 0x61 + (v - 26) else if v < 62 then 0x30 + (v - 52)
  else if v = 62 then 0x2B else 0x2F

/-- Whether a character is a base64 digit. -/
def isDigit (c : Nat) : Bool :=
  (0x41 ≤ c && c ≤ 0x5A) || (0x61 ≤ c && c ≤ 0x7A) || (0x30 ≤ c && c ≤ 0x39) || c = 0x2B ||
    c = 0x2F

/-- Whether a character is written as itself. -/
def isDirect (c : Nat) : Bool :=
  ((0x20 ≤ c && c < 0x7F) && c ≠ 0x2B && c ≠ 0x5C && c ≠ 0x7E) || c = 0x09 || c = 0x0A ||
    c = 0x0D

/-- The state of UTF-7: whether a run is open, and the bits of it not yet written. -/
structure State where
  inRun : Bool
  bits : Nat
  pending : Nat

/-- Writes a sixteen-bit unit in an open run: the digits of all whole sextets. -/
def putUnit (st : State) (u : Nat) : List Nat × State :=
  let bits := st.bits + 16
  let pending := st.pending * 0x10000 + u
  ((List.range (bits / 6)).map fun k => digit (pending / 2 ^ (bits - 6 * (k + 1)) % 64),
    { st with bits := bits % 6, pending := pending % 2 ^ (bits % 6) })

/-- Writes a character in an open run, as one unit or as two surrogates. -/
def putChar (st : State) (c : Nat) : List Nat × State :=
  if c < 0x10000 then putUnit st c
  else
    let (out, st) := putUnit st (0xD800 + (c - 0x10000) / 0x400)
    let (more, st) := putUnit st (0xDC00 + (c - 0x10000) % 0x400)
    (out ++ more, st)

/-- The last digit of an open run, if bits are left. -/
def flush (st : State) : List Nat :=
  if st.bits = 0 then [] else [digit (st.pending * 2 ^ (6 - st.bits) % 64)]

/-- UTF-7 reads one character. -/
def step (st : State) (c : Nat) : List Nat × State :=
  if st.inRun then
    if isDirect c then
      (flush st ++ (if isDigit c || c = 0x2D then [0x2D] else []) ++ [c], ⟨false, 0, 0⟩)
    else putChar st c
  else if c = 0x2B then ([0x2B, 0x2D], st)
  else if isDirect c then ([c], st)
  else
    let (out, st) := putChar ⟨true, 0, 0⟩ c
    (0x2B :: out, st)

/-- The UTF-7 bytes of code points. -/
def encode (cps : List Nat) : List Nat :=
  let (out, st) := cps.foldl (fun (acc : List Nat × State) c =>
    let (more, st) := step acc.2 c
    (acc.1 ++ more, st)) ([], ⟨false, 0, 0⟩)
  out ++ flush st ++ (if st.inRun then [0x2D] else [])

theorem encode_nil : encode [] = [] := rfl

end Lingo.Codec.Utf7
