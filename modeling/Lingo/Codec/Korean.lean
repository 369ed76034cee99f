import Lingo.Codec.Grids.KsX1001

/-!
# Korean codecs

EUC-KR writes KS X 1001 in two bytes with the high bit set. A Hangul syllable that KS X 1001
lacks is written as the make-up sequence of its annex: the filler and the three jamo of the
syllable, each a code of the jamo row 0xA4 (the filler stands for a missing final). The Windows
code page instead gives those 8822 syllables codes of their own, in code point order, under lead
bytes 0x81 to 0xC6. Johab writes every syllable by the indexes of its three jamo in five bits
each, and moves the symbols and hanja of KS X 1001 to lead bytes 0xD9 to 0xF9.
-/

namespace Lingo.Codec.Korean

open Grids

/-- The cells of KS X 1001. -/
def ksIndex : Std.HashMap Nat Nat := ksX1001.index

/-- The initial consonants of the Hangul syllables, as compatibility jamo counted from U+3130. -/
def initials : List Nat := [1, 2, 4, 7, 8, 9, 17, 18, 19, 21, 22, 23, 24, 25, 26, 27, 28, 29, 30]

/-- The final consonants of the Hangul syllables, as compatibility jamo counted from U+3130; the
first stands for none. -/
def finals : List Nat :=
  [0, 1, 2, 3, 4, 5, 6, 7, 9, 10, 11, 12, 13, 14, 15, 16, 17, 18, 20, 21, 22, 23, 24, 26, 27, 28,
   29, 30]

/-- Whether a code point is a Hangul syllable. -/
def isSyllable (c : Nat) : Bool := 0xAC00 ≤ c && c ≤ 0xD7A3

/-- The make-up sequence of syllable number `s`: the filler, then the initial, the medial and the
final, each in the jamo row. -/
def makeUp (s : Nat) : List Nat :=
  let final := if s % 28 = 0 then 0xD4 else 0xA0 + finals.getD (s % 28) 0
  [0xA4, 0xD4, 0xA4, 0xA0 + initials.getD (s / 588) 0, 0xA4, 0xBF + s / 28 % 21, 0xA4, final]

/-- EUC-KR. -/
def eucKr (c : Nat) : Option (List Nat) :=
  if c < 0x80 then some [c]
  else
    match ksIndex[c]? with
    | some k => some (eucPair k)
    | none => if isSyllable c then some (makeUp (c - 0xAC00)) else none

/-- The trail bytes of the syllables of the Windows code page: 0x41 to 0x5A, 0x61 to 0x7A and 0x81
to 0xFE. -/
def extensionTrail (t : Nat) : Nat :=
  if t < 26 then 0x41 + t else if t < 52 then 0x47 + t else 0x4D + t

/-- The codes of the syllables of the Windows code page in code order: lead bytes 0x81 to 0xA0
with 178 trail bytes, then lead bytes 0xA1 to 0xC6 with the first 84. -/
def extensionCodes : List Nat :=
  ((List.range 32).flatMap fun l => (List.range 178).map fun t => (0x81 + l) * 256 + extensionTrail t) ++
  ((List.range 38).flatMap fun l => (List.range 84).map fun t => (0xA1 + l) * 256 + extensionTrail t)

/-- The codes of the syllables KS X 1001 lacks, in the Windows code page. -/
def extensionIndex : Std.HashMap Nat Nat :=
  fillCodes {} (((List.range 11172).map (· + 0xAC00)).filter (!ksIndex.contains ·)) extensionCodes

/-- The Windows code page for Korean. -/
def cp949 (c : Nat) : Option (List Nat) :=
  if c < 0x80 then some [c]
  else
    match ksIndex[c]? with
    | some k => some (eucPair k)
    | none => extensionIndex[c]?.map codeBytes

/-- The five-bit index of a medial vowel in Johab. -/
def johabMedial (v : Nat) : Nat := v + 3 + 2 * ((v + 1) / 6)

/-- The five-bit index of a final consonant in Johab; index 1 stands for none. -/
def johabFinal (t : Nat) : Nat := if t < 17 then t + 1 else t + 2

/-- The Johab code of an initial, a medial and a final index. -/
def johabCode (initial medial final : Nat) : Nat :=
  0x8000 + initial * 0x400 + medial * 0x20 + final

/-- The Johab code of a character: the syllables and the compatibility jamo by their jamo, and
the rows of symbols and hanja of KS X 1001 moved two rows to a lead byte. -/
def johabCode? (c : Nat) : Option Nat :=
  if isSyllable c then
    let s := c - 0xAC00
    some (johabCode (s / 588 + 2) (johabMedial (s / 28 % 21)) (johabFinal (s % 28)))
  else if 0x3131 ≤ c ∧ c ≤ 0x3163 then
    let o := c - 0x3130
    if 0x1F ≤ o then some (johabCode 1 (johabMedial (o - 0x1F)) 1)
    else if initials.contains o then some (johabCode (initials.idxOf o + 2) 2 1)
    else some (johabCode 1 2 (johabFinal (finals.idxOf o)))
  else
    match ksIndex[c]? with
    | some k =>
      let r := k / 94
      if r < 12 ∨ (41 ≤ r ∧ r < 93) then
        let t1 := r + (if r < 41 then 0x1B2 else 0x197)
        let t2 := (if t1 % 2 = 1 then 0x5E else 0) + k % 94
        some ((t1 / 2) * 256 + (if t2 < 0x4E then t2 + 0x31 else t2 + 0x43))
      else none
    | none => none

/-- Johab. -/
def johab (c : Nat) : Option (List Nat) :=
  if c < 0x80 then some [c] else (johabCode? c).map codeBytes

theorem makeUp_length (s : Nat) : (makeUp s).length = 8 := by
  simp [makeUp]

end Lingo.Codec.Korean
