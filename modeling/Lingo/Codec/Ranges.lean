/-!
# Ranges of code points

Sets of code points are written as hexadecimal ranges `first-last`, separated by spaces, and read
once into a list of pairs.
-/

namespace Lingo.Codec

/-- The value of hexadecimal digits. -/
def hexValue? (s : String) : Option Nat :=
  s.toList.foldlM (fun acc c =>
    if c.isDigit then some (acc * 16 + (c.toNat - '0'.toNat))
    else if 'a' ≤ c ∧ c ≤ 'f' then some (acc * 16 + (c.toNat - 'a'.toNat + 10))
    else none) 0

/-- The ranges written `first-last`, separated by spaces. -/
def parseRanges (s : String) : List (Nat × Nat) :=
  (s.splitOn " ").filterMap fun piece =>
    match piece.splitOn "-" with
    | [a, b] => do pure (← hexValue? a, ← hexValue? b)
    | _ => none

/-- Whether one of the ranges holds code point `n`. -/
def inRanges (ranges : List (Nat × Nat)) (n : Nat) : Bool :=
  ranges.any fun (a, b) => a ≤ n && n ≤ b

/-- The code points of a text. -/
def pointsOf (s : String) : List Nat :=
  s.toList.map Char.toNat

/-- The entries of `width` code points each that a text holds one after another. -/
def entriesOf (width : Nat) (s : String) : List (List Nat) :=
  let cps := pointsOf s
  (List.range (cps.length / width)).map fun i => (cps.drop (i * width)).take width

theorem inRanges_nil (n : Nat) : inRanges [] n = false := rfl

end Lingo.Codec
