import Lingo.Codec.Grids.Gbk
import Lingo.Codec.Grids.Big5

/-!
# Chinese codecs

GB 2312 is written in two bytes with the high bit set, and HZ writes the same bytes without it
between the shifts `~{` and `~}`. GBK extends GB 2312 to lead bytes 0x81 to 0xFE and trail bytes
0x40 to 0xFE (but 0x7F). Its two extension areas hold the unified ideographs GB 2312 lacks, in
code point order, followed by 21 compatibility ideographs. GB 18030 fills every other two-byte
cell and writes the rest of Unicode in four bytes. The four-byte codes of the Basic Multilingual
Plane are numbered in code point order over the characters with no two-byte code, and those of
the other planes follow from 0x90308130 on.

Big5 and its Windows form are read from the Hong Kong grid where the three agree. Plain Big5
keeps its own rows 0xC6 to 0xC8 and writes the box-drawing characters in row 0xA2. Big5-HKSCS
writes four pairs of a letter and a combining mark in one code.
-/

namespace Lingo.Codec.Chinese

open Grids

/-- The trail byte of a cell of GBK: 0x40 to 0x7E, then 0x80 to 0xFE. -/
def gbkTrail (t : Nat) : Nat := if t < 63 then 0x40 + t else 0x41 + t

/-- The codes of the two extension areas of GBK in code order: lead bytes 0x81 to 0xA0 with all
their trail bytes, then lead bytes 0xAA to 0xFE with trail bytes 0x40 to 0xA0. -/
def extensionCodes : List Nat :=
  ((List.range 32).flatMap fun l => (List.range 190).map fun t => (0x81 + l) * 256 + gbkTrail t) ++
  ((List.range 85).flatMap fun l => (List.range 96).map fun t => (0xAA + l) * 256 + gbkTrail t)

/-- The compatibility ideographs that end the extension areas of GBK. -/
def compatibilityIdeographs : List Nat :=
  [0xF92C, 0xF979, 0xF995, 0xF9E7, 0xF9F1, 0xFA0C, 0xFA0D, 0xFA0E, 0xFA0F, 0xFA11, 0xFA13, 0xFA14,
   0xFA18, 0xFA1F, 0xFA20, 0xFA21, 0xFA23, 0xFA24, 0xFA27, 0xFA28, 0xFA29]

/-- The codes of the characters common to GB 2312 and GBK, as GB 2312 has them. -/
def commonIndex : Std.HashMap Nat Nat :=
  let base := gbkSymbols.addTo (fun k => (0xA8 + k / 96) * 256 + gbkTrail (k % 96))
    (gb2312Area.addTo (fun k => (0xA1 + k / 94) * 256 + 0xA1 + k % 94) {})
  let others := ((List.range 20902).map (· + 0x4E00)).filter (!base.contains ·)
  fillCodes base (others ++ compatibilityIdeographs) extensionCodes

/-- Whether a code lies in the rows GBK adds within the area of GB 2312. -/
def gbkAddition (k : Nat) : Bool :=
  (0xA2A1 ≤ k && k ≤ 0xA2AA) || (0xA6E0 ≤ k && k ≤ 0xA6F5) || (0xA8BB ≤ k && k ≤ 0xA8C0)

/-- The code of a character in GB 2312. -/
def gb2312Code? (c : Nat) : Option Nat :=
  match commonIndex[c]? with
  | some k => if 0xA1 ≤ k / 256 ∧ 0xA1 ≤ k % 256 ∧ !gbkAddition k then some k else none
  | none => none

/-- The codes of GBK: those of GB 2312 but that the em dash and the middle dot take the cells of
the horizontal bar and the katakana middle dot, which move or go. -/
def gbkIndex : Std.HashMap Nat Nat :=
  ((commonIndex.erase 0x30FB).insert 0x2014 0xA1AA).insert 0x2015 0xA844 |>.insert 0xB7 0xA1A4

/-- GB 2312. -/
def gb2312 (c : Nat) : Option (List Nat) :=
  if c < 0x80 then some [c] else (gb2312Code? c).map codeBytes

/-- GBK. -/
def gbk (c : Nat) : Option (List Nat) :=
  if c < 0x80 then some [c] else gbkIndex[c]?.map codeBytes

/-- All two-byte codes of GB 18030 in code order. -/
def twoByteCodes : List Nat :=
  (List.range 126).flatMap fun l => (List.range 190).map fun t => (0x81 + l) * 256 + gbkTrail t

/-- The codes of the user-defined areas of GB 18030, in the order of the private use characters
from U+E000 that fill them. -/
def userCodes : List Nat :=
  ((List.range 6).flatMap fun l => (List.range 94).map fun t => (0xAA + l) * 256 + 0xA1 + t) ++
  ((List.range 7).flatMap fun l => (List.range 94).map fun t => (0xF8 + l) * 256 + 0xA1 + t) ++
  ((List.range 7).flatMap fun l => (List.range 96).map fun t => (0xA1 + l) * 256 + gbkTrail t)

/-- The two-byte codes of GB 18030: those of GBK, the user-defined areas, and `gb18030Rest` in
the cells left. -/
def gb18030Index : Std.HashMap Nat Nat :=
  let withUser := fillCodes gbkIndex ((List.range userCodes.length).map (· + 0xE000)) userCodes
  let used := withUser.fold (fun (s : Std.HashMap Nat Unit) _ k => s.insert k ()) {}
  fillCodes withUser (pointsOf gb18030Rest) (twoByteCodes.filter (!used.contains ·))

/-- The characters with two-byte codes in GB 18030, in increasing order. -/
def twoByteChars : Array Nat :=
  gb18030Index.keys.toArray.qsort (· < ·)

/-- The number of elements of the increasing array `a` below `c`, searched between `lo` and
`hi`. -/
def countBelow (a : Array Nat) (c lo hi : Nat) : Nat :=
  if lo < hi then
    if a.getD ((lo + hi) / 2) 0 < c then countBelow a c ((lo + hi) / 2 + 1) hi
    else countBelow a c lo ((lo + hi) / 2)
  else lo
termination_by hi - lo

/-- The four bytes of the four-byte code numbered `n` from the first byte `first`. -/
def fourBytes (first n : Nat) : List Nat :=
  [first + n / 12600, 0x30 + n / 1260 % 10, 0x81 + n / 10 % 126, 0x30 + n % 10]

/-- GB 18030: every character but the surrogates. -/
def gb18030 (c : Nat) : Option (List Nat) :=
  if c < 0x80 then some [c]
  else if 0xD800 ≤ c ∧ c < 0xE000 then none
  else if 0x10000 ≤ c then some (fourBytes 0x90 (c - 0x10000))
  else
    match gb18030Index[c]? with
    | some k => some (codeBytes k)
    | none =>
      let surrogates := if 0xE000 ≤ c then 0x800 else 0
      some (fourBytes 0x81 (c - 0x80 - surrogates - countBelow twoByteChars c 0 twoByteChars.size))

/-- The trail byte of a cell of Big5: 0x40 to 0x7E, then 0xA1 to 0xFE. -/
def big5Trail (t : Nat) : Nat := if t < 63 then 0x40 + t else 0x62 + t

/-- The codes of the Hong Kong grid. -/
def hkscsIndex : Std.HashMap Nat Nat :=
  hkscs.addTo (fun k => (0x87 + k / 157) * 256 + big5Trail (k % 157)) {}

/-- The codes of the rows 0xC6 to 0xC8 of plain Big5. -/
def big5RowsIndex : Std.HashMap Nat Nat :=
  big5Rows.addTo (fun k => (0xC6 + k / 157) * 256 + big5Trail (k % 157)) {}

/-- The box-drawing characters that Big5 writes in row 0xA2. -/
def boxDrawing : List (Nat × Nat) :=
  [(0x2550, 0xA2A4), (0x255E, 0xA2A5), (0x2561, 0xA2A7), (0x256A, 0xA2A6), (0x256D, 0xA27E),
   (0x256E, 0xA2A1), (0x256F, 0xA2A3), (0x2570, 0xA2A2)]

/-- The code of a character in Big5 below the code `limit`: the box-drawing characters, the rows
0xC6 to 0xC8, and the Hong Kong grid between lead bytes 0xA1 and 0xF9. -/
def big5Code? (limit c : Nat) : Option Nat :=
  match List.lookup c boxDrawing with
  | some k => some k
  | none =>
    match big5RowsIndex[c]? with
    | some k => some k
    | none =>
      match hkscsIndex[c]? with
      | some k => if 0xA140 ≤ k ∧ k < limit ∧ ¬(0xC600 ≤ k ∧ k < 0xC900) then some k else none
      | none => none

/-- Big5, up to code 0xF9D5. -/
def big5 (c : Nat) : Option (List Nat) :=
  if c < 0x80 then some [c] else (big5Code? 0xF9D6 c).map codeBytes

/-- The characters the Windows form of Big5 writes at codes of its own. -/
def windowsCodes : List (Nat × Nat) :=
  [(0xAF, 0xA1C2), (0x2027, 0xA145), (0x20AC, 0xA3E1), (0x2215, 0xA241), (0x2295, 0xA1F2),
   (0x2299, 0xA1F3), (0x2593, 0xF9FE), (0xFE51, 0xA14E), (0xFE68, 0xA242), (0xFF0F, 0xA1FE),
   (0xFF3C, 0xA240), (0xFF5E, 0xA1E3), (0xFFE0, 0xA246), (0xFFE1, 0xA247), (0xFFE5, 0xA244)]

/-- The Windows form of Big5, up to code 0xF9FD. -/
def cp950 (c : Nat) : Option (List Nat) :=
  if c < 0x80 then some [c]
  else
    match List.lookup c windowsCodes with
    | some k => some (codeBytes k)
    | none => (big5Code? 0xF9FE c).map codeBytes

/-- The pairs Big5-HKSCS writes in one code: the letter, the mark and the code. -/
def hkscsPairs : List (Nat × Nat × Nat) :=
  [(0xCA, 0x304, 0x8862), (0xCA, 0x30C, 0x8864), (0xEA, 0x304, 0x88A3), (0xEA, 0x30C, 0x88A5)]

/-- The step of Big5-HKSCS. The character after a letter is compared by the low sixteen bits of
its code point. -/
def big5hkscsStep (c : Nat) (next : Option Nat) : Option (List Nat × Bool) :=
  if c < 0x80 then some ([c], false)
  else
    let pair := next.bind fun d =>
      (hkscsPairs.find? fun (a, b, _) => a = c ∧ b = d % 0x10000).map (·.2.2)
    match pair with
    | some k => some (codeBytes k, true)
    | none => hkscsIndex[c]?.map (codeBytes ·, false)

/-- One step of HZ, from whether the output is between `~{` and `~}`. -/
def hzStep (inGb : Bool) (c : Nat) (_ : Option Nat) : Option (List Nat × Bool × Bool) :=
  if c < 0x80 then
    some ((if inGb then [0x7E, 0x7D] else []) ++ (if c = 0x7E then [0x7E, 0x7E] else [c]),
      false, false)
  else
    (gb2312Code? c).map fun k =>
      ((if inGb then [] else [0x7E, 0x7B]) ++ [k / 256 - 0x80, k % 256 - 0x80], false, true)

/-- HZ: GB 2312 in seven bits between `~{` and `~}`, with `~` itself written `~~`. -/
def hz : Encoder Bool where
  start := false
  step := hzStep
  finish inGb := if inGb then [0x7E, 0x7D] else []

theorem fourBytes_zero (first : Nat) : fourBytes first 0 = [first, 0x30, 0x81, 0x30] := by
  simp [fourBytes]

end Lingo.Codec.Chinese
