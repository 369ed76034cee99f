import Lingo.Codec.Japanese
import Lingo.Codec.Korean
import Lingo.Codec.Chinese

/-!
# ISO-2022 codecs

An ISO-2022 codec switches between character sets with escape sequences, and starts in ASCII.
Each character past ASCII is written in the first character set of the codec's list that holds
it. A set for G0 is designated by its escape sequence unless it already is. The one set for G1,
used by the Korean codec, is designated once and invoked by shift out (SO); shift in (SI) returns
to G0. An ASCII character returns G0 to ASCII with `ESC ( B` and shifts in. The output ends
shifted in and in ASCII.

The codecs of JIS X 0213 write every character alone, also a letter and a mark that JIS X 0213
has as one pair.
-/

namespace Lingo.Codec.Iso2022

open Japanese

/-- The two bytes of a cell of a 94 by 94 grid with the high bit clear. -/
def sevenBit (cell : Nat) : List Nat := [0x21 + cell / 94, 0x21 + cell % 94]

/-- A character set an ISO-2022 codec can designate. -/
inductive CharacterSet where
  | jisX0208
  | jisX0212
  | ksX1001
  | gb2312
  /-- The Roman half of JIS X 0201, used only for the yen sign and the overline. -/
  | jisX0201Roman
  /-- The katakana half of JIS X 0201. -/
  | jisX0201Kana
  /-- A plane of JIS X 0213, the first or the second. -/
  | jisX0213 (ed : Edition) (second : Bool)

/-- The bytes of a character in a set, with the high bit clear. -/
def CharacterSet.code? : CharacterSet → Nat → Option (List Nat)
  | .jisX0208, c => jisX0208Index[c]?.map sevenBit
  | .jisX0212, c => jisX0212Index[c]?.map sevenBit
  | .ksX1001, c => Korean.ksIndex[c]?.map sevenBit
  | .gb2312, c => (Chinese.gb2312Code? c).map fun k => [k / 256 - 0x80, k % 256 - 0x80]
  | .jisX0201Roman, c => if c = 0xA5 then some [0x5C] else if c = 0x203E then some [0x7E] else none
  | .jisX0201Kana, c => if isHalfwidthKatakana c then some [c - 0xFF40] else none
  | .jisX0213 ed second, c =>
      if c = 0xFF3C ∨ c = 0xFF5E then none
      else
        match jisX0213Cell? ed c with
        | some (s, k) => if s = second then some (sevenBit k) else none
        | none => none

/-- A character set with the escape sequence that designates it, for G1 or for G0. -/
structure Designation where
  set : CharacterSet
  escape : List Nat
  forG1 : Bool

/-- The escape sequence `ESC` followed by the characters of a text. -/
def esc (s : String) : List Nat := 0x1B :: pointsOf s

/-- The designation of a set for G0. -/
def g0 (set : CharacterSet) (s : String) : Designation := ⟨set, esc s, false⟩

/-- The ISO-2022 codecs. -/
inductive Variant where
  | jp
  | jp1
  | jp2
  | jp2004
  | jp3
  | jpExt
  | kr
  deriving DecidableEq

/-- The sets a codec tries, in order. -/
def Variant.designations : Variant → List Designation
  | .jp => [g0 .jisX0208 "$B", g0 .jisX0201Roman "(J"]
  | .jp1 => [g0 .jisX0208 "$B", g0 .jisX0212 "$(D", g0 .jisX0201Roman "(J"]
  | .jp2 =>
      [g0 .jisX0208 "$B", g0 .jisX0212 "$(D", g0 .ksX1001 "$(C", g0 .gb2312 "$(A",
       g0 .jisX0201Roman "(J"]
  | .jp2004 =>
      [g0 .jisX0208 "$B", g0 (.jisX0213 .y2004 false) "$(Q", g0 (.jisX0213 .y2004 true) "$(P"]
  | .jp3 =>
      [g0 .jisX0208 "$B", g0 (.jisX0213 .y2000 false) "$(O", g0 (.jisX0213 .y2000 true) "$(P"]
  | .jpExt =>
      [g0 .jisX0208 "$B", g0 .jisX0212 "$(D", g0 .jisX0201Roman "(J", g0 .jisX0201Kana "(I"]
  | .kr => [⟨.ksX1001, esc "$)C", true⟩]

/-- The state of an ISO-2022 codec: the escape sequences of the sets in G0 and G1 (empty for ASCII
and for none), and whether G1 is invoked. -/
structure State where
  g0 : List Nat
  g1 : List Nat
  shiftedOut : Bool

/-- The bytes that write `bytes` in the set of `d`, designating and invoking it first as needed,
and the state after. -/
def put (st : State) (d : Designation) (bytes : List Nat) : List Nat × State :=
  if d.forG1 then
    ((if st.g1 = d.escape then [] else d.escape) ++ (if st.shiftedOut then [] else [0x0E]) ++
      bytes, { st with g1 := d.escape, shiftedOut := true })
  else
    ((if st.shiftedOut then [0x0F] else []) ++ (if st.g0 = d.escape then [] else d.escape) ++
      bytes, { st with g0 := d.escape, shiftedOut := false })

/-- One step of an ISO-2022 codec. -/
def Variant.step (v : Variant) (st : State) (c : Nat) (_ : Option Nat) :
    Option (List Nat × Bool × State) :=
  if c < 0x80 then
    some ((if st.g0 = [] then [] else esc "(B") ++ (if st.shiftedOut then [0x0F] else []) ++ [c],
      false, { st with g0 := [], shiftedOut := false })
  else
    match v.designations.findSome? fun d => (d.set.code? c).map (d, ·) with
    | some (d, bytes) =>
        let (out, st) := put st d bytes
        some (out, false, st)
    | none => none

/-- The bytes that end the output: shift in, and back to ASCII. -/
def finish (st : State) : List Nat :=
  (if st.shiftedOut then [0x0F] else []) ++ (if st.g0 = [] then [] else esc "(B")

/-- The encoder of an ISO-2022 codec. -/
def Variant.encoder (v : Variant) : Encoder State where
  start := ⟨[], [], false⟩
  step := v.step
  finish := finish

theorem finish_start : finish ⟨[], [], false⟩ = [] := rfl

end Lingo.Codec.Iso2022
