import Lingo.Codec.Grids.JisX0208
import Lingo.Codec.Grids.JisX0212
import Lingo.Codec.Grids.JisX0213

/-!
# Japanese codecs

EUC-JP writes JIS X 0208 in two bytes with the high bit set, the half-width katakana after the
byte 0x8E and JIS X 0212 after the byte 0x8F. Shift_JIS writes two rows of JIS X 0208 under one
lead byte and the half-width katakana in one byte; the Windows code page adds the NEC rows and
user-defined characters. The codecs of JIS X 0213 write its first plane where JIS X 0208 goes
and its second plane where JIS X 0212 goes (or, in Shift_JIS form, under the lead bytes 0xF0 to
0xFC); they come in the editions of 2000 and 2004.

JIS X 0213 writes some pairs of a letter and a combining mark in one cell. Its codecs compare
the character after a possible first letter by the low sixteen bits of its code point: a pair
is written as its cell, and a following character whose low sixteen bits are all zero is read
together with the letter, which is then written alone.
-/

namespace Lingo.Codec.Japanese

open Grids

/-- The cells of JIS X 0208. -/
def jisX0208Index : Std.HashMap Nat Nat := jisX0208.index

/-- The cells of JIS X 0212. -/
def jisX0212Index : Std.HashMap Nat Nat := jisX0212.index

/-- The cells of the first plane of JIS X 0213: those of JIS X 0208 and the additions. -/
def plane1Index : Std.HashMap Nat Nat := plane1Additions.addTo id jisX0208Index

/-- The cells of the second plane of JIS X 0213. -/
def plane2Index : Std.HashMap Nat Nat := plane2.index

/-- The cells of the NEC rows of the Windows code page. -/
def necIndex : Std.HashMap Nat Nat := necRows.index

/-- Whether a code point is a half-width katakana, written in one byte by JIS X 0201. -/
def isHalfwidthKatakana (c : Nat) : Bool := 0xFF61 ≤ c && c ≤ 0xFF9F

/-- The trail byte of Shift_JIS for cell `c` of a row, in the first or the second row of its lead
byte. -/
def shiftTrail (second : Bool) (c : Nat) : Nat :=
  if second then c + 0x9F else if c < 63 then c + 0x40 else c + 0x41

/-- The Shift_JIS bytes of a cell of JIS X 0208 or of the first plane of JIS X 0213. -/
def shiftBytes (cell : Nat) : List Nat :=
  let r := cell / 94
  [r / 2 + (if r < 62 then 0x81 else 0xC1), shiftTrail (r % 2 = 1) (cell % 94)]

/-- The rows of the second plane of JIS X 0213, counted from 0, in the order Shift_JIS-2004 gives
them lead bytes from 0xF0 on, two rows a lead byte. -/
def plane2ShiftRows : List Nat :=
  [0, 7, 2, 3, 4, 11, 12, 13, 14] ++ (List.range 17).map (· + 77)

/-- The Shift_JIS bytes of a cell of the second plane of JIS X 0213. -/
def shiftPlane2Bytes (cell : Nat) : List Nat :=
  let p := plane2ShiftRows.idxOf (cell / 94)
  [0xF0 + p / 2, shiftTrail (p % 2 = 1) (cell % 94)]

/-- An edition of JIS X 0213. -/
inductive Edition where
  | y2000
  | y2004
  deriving DecidableEq

/-- The characters that JIS X 0213 took in only in 2004. -/
def addedIn2004 : List Nat :=
  [0x4FF1, 0x525D, 0x541E, 0x5653, 0x59F8, 0x5C5B, 0x5E77, 0x7626, 0x7E6B, 0x9B1C, 0x20B9F]

/-- The cell of a character in JIS X 0213, with whether it lies in the second plane. In the
edition of 2000, U+9B1D lies in the second plane, where the edition of 2004 moved it from. -/
def jisX0213Cell? (ed : Edition) (c : Nat) : Option (Bool × Nat) :=
  if ed = .y2000 ∧ addedIn2004.contains c then none
  else if ed = .y2000 ∧ c = 0x9B1D then some (true, 8674)
  else
    match plane1Index[c]? with
    | some k => some (false, k)
    | none => plane2Index[c]?.map (true, ·)

/-- The pairs that JIS X 0213 writes in one cell of its first plane: the letter, the mark and
the cell. -/
def pairs : List (Nat × Nat × Nat) :=
  [(0x304B, 0x309A, 368), (0x304D, 0x309A, 369), (0x304F, 0x309A, 370), (0x3051, 0x309A, 371),
   (0x3053, 0x309A, 372), (0x30AB, 0x309A, 462), (0x30AD, 0x309A, 463), (0x30AF, 0x309A, 464),
   (0x30B1, 0x309A, 465), (0x30B3, 0x309A, 466), (0x30BB, 0x309A, 467), (0x30C4, 0x309A, 468),
   (0x30C8, 0x309A, 469), (0x31F7, 0x309A, 557), (0x00E6, 0x0300, 975), (0x0254, 0x0300, 979),
   (0x0254, 0x0301, 980), (0x028C, 0x0300, 981), (0x028C, 0x0301, 982), (0x0259, 0x0300, 983),
   (0x0259, 0x0301, 984), (0x025A, 0x0300, 985), (0x025A, 0x0301, 986), (0x02E9, 0x02E5, 1008),
   (0x02E5, 0x02E9, 1009)]

/-- Whether a character can begin a pair. -/
def beginsPair (c : Nat) : Bool := pairs.any (·.1 = c)

/-- The cell of the pair of `c` and `d`, if they make one. -/
def pairCell? (c d : Nat) : Option Nat :=
  (pairs.find? fun (a, b, _) => a = c ∧ b = d).map (·.2.2)

/-- The cell written for a character `c` that can begin a pair and whose own cell is `cell`,
given the character after it: the cell and whether the next character is read with it. -/
def pairStep (cell c : Nat) : Option Nat → Nat × Bool
  | some d =>
      match pairCell? c (d % 0x10000) with
      | some k => (k, true)
      | none => (cell, d % 0x10000 = 0)
  | none => (cell, false)

/-- EUC-JP. -/
def eucJp (c : Nat) : Option (List Nat) :=
  if c < 0x80 then some [c]
  else if isHalfwidthKatakana c then some [0x8E, c - 0xFEC0]
  else
    match jisX0208Index[c]? with
    | some k => some (eucPair k)
    | none =>
      match jisX0212Index[c]? with
      | some k => some (0x8F :: eucPair k)
      | none => if c = 0xA5 then some [0x5C] else if c = 0x203E then some [0x7E] else none

/-- Shift_JIS: the yen sign and the overline are written as the ASCII bytes JIS X 0201 puts them
at. -/
def shiftJis (c : Nat) : Option (List Nat) :=
  if c < 0x80 then some [c]
  else if c = 0xA5 then some [0x5C]
  else if c = 0x203E then some [0x7E]
  else if isHalfwidthKatakana c then some [c - 0xFEC0]
  else jisX0208Index[c]?.map shiftBytes

/-- The characters the Windows code page for Japanese writes in one byte past ASCII. -/
def windowsSingles : List (Nat × Nat) :=
  [(0x80, 0x80), (0xF8F0, 0xA0), (0xF8F1, 0xFD), (0xF8F2, 0xFE), (0xF8F3, 0xFF)]

/-- The characters the Windows code page for Japanese writes at other codes than JIS X 0208 has
for their look-alikes. -/
def windowsCodes : List (Nat × Nat) :=
  [(0x2225, 0x8161), (0xFF0D, 0x817C), (0xFF5E, 0x8160), (0xFFE0, 0x8191), (0xFFE1, 0x8192),
   (0xFFE2, 0x81CA)]

/-- The lead bytes of the NEC rows. -/
def necLeads : List Nat := [0x87, 0xED, 0xEE]

/-- The Windows code page for Japanese. The private use characters from U+E000 fill the cells of
lead bytes 0xF0 to 0xF9 in order. -/
def cp932 (c : Nat) : Option (List Nat) :=
  if c < 0x80 then some [c]
  else
    match List.lookup c windowsSingles with
    | some b => some [b]
    | none =>
      if isHalfwidthKatakana c then some [c - 0xFEC0]
      else
        match List.lookup c windowsCodes with
        | some k => some (codeBytes k)
        | none =>
          match jisX0208Index[c]? with
          | some k => some (shiftBytes k)
          | none =>
            match necIndex[c]? with
            | some k => some [necLeads.getD (k / 188) 0, shiftTrail false (k % 188)]
            | none =>
              if 0xE000 ≤ c ∧ c < 0xE758 then
                some [0xF0 + (c - 0xE000) / 188, shiftTrail false ((c - 0xE000) % 188)]
              else none

/-- EUC-JIS-2004 and EUC-JISX0213 for one character: JIS X 0213, then the half-width katakana,
then the rest of JIS X 0212. A character taken in only in 2004 is refused by the edition of
2000. -/
def eucJis (ed : Edition) (c : Nat) : Option (List Nat) :=
  if c < 0x80 then some [c]
  else if ed = .y2000 ∧ addedIn2004.contains c then none
  else
    match jisX0213Cell? ed c with
    | some (false, k) => some (eucPair k)
    | some (true, k) => some (0x8F :: eucPair k)
    | none =>
      if isHalfwidthKatakana c then some [0x8E, c - 0xFEC0]
      else jisX0212Index[c]?.map (0x8F :: eucPair ·)

/-- Shift_JIS-2004 and Shift_JISX0213 for one character. JIS X 0213 puts the backslash and the
tilde where JIS X 0208 has their full-width forms, so those full-width forms are refused. -/
def shiftJis2004 (ed : Edition) (c : Nat) : Option (List Nat) :=
  if c < 0x80 ∧ c ≠ 0x5C ∧ c ≠ 0x7E then some [c]
  else if c = 0xFF3C ∨ c = 0xFF5E then none
  else if c = 0xA5 then some [0x5C]
  else if c = 0x203E then some [0x7E]
  else if isHalfwidthKatakana c then some [c - 0xFEC0]
  else
    let c := if c = 0x5C then 0xFF3C else if c = 0x7E then 0xFF5E else c
    match jisX0213Cell? ed c with
    | some (false, k) => some (shiftBytes k)
    | some (true, k) => some (shiftPlane2Bytes k)
    | none => none

/-- The step of a JIS X 0213 codec, in Shift_JIS form or in EUC form. -/
def jisX0213Step (ed : Edition) (shift : Bool) (c : Nat) (next : Option Nat) :
    Option (List Nat × Bool) :=
  let single := if shift then shiftJis2004 ed c else eucJis ed c
  if beginsPair c then
    match jisX0213Cell? ed c with
    | some (_, cell) =>
        let (k, both) := pairStep cell c next
        some (if shift then shiftBytes k else eucPair k, both)
    | none => none
  else single.map (·, false)

theorem eucJp_ascii (c : Nat) (h : c < 0x80) : eucJp c = some [c] := by
  simp [eucJp, h]

theorem shiftJis_ascii (c : Nat) (h : c < 0x80) : shiftJis c = some [c] := by
  simp [shiftJis, h]

end Lingo.Codec.Japanese
