import Lingo.Decimal.Shortest

/-!
# Writing a double in decimal

A double is written from its shortest digits (`shortest`) under a `Style`: the decimal
exponents written positionally, whether a whole number keeps a point and a zero, and the form of
the exponent in scientific notation. The style is data, so one writer serves every format that
differs only in these decisions.
-/

namespace Lingo.Decimal

open Lingo.Binary64

/-- The decisions of a decimal format for doubles. -/
structure Style where
  /-- The least decimal exponent written positionally. -/
  minFixed : Int
  /-- The greatest decimal exponent written positionally. -/
  maxFixed : Int
  /-- Whether a positionally written whole number ends in a point and a zero. -/
  pointZero : Bool
  /-- The mark between significand and exponent. -/
  mark : String
  /-- Whether a non-negative exponent carries a plus sign. -/
  plusSign : Bool
  /-- The least number of exponent digits, zeros filling the rest. -/
  expDigits : Nat
  /-- The text of a NaN. -/
  nanText : String
  /-- The text of positive infinity. -/
  infText : String

/-- `n` copies of the digit zero. -/
def zeros (n : Nat) : String := String.ofList (List.replicate n '0')

/-- The digits `ds` of value `0.ds * 10 ^ (e + 1)`, written positionally. -/
def fixedText (st : Style) (ds : String) (e : Int) : String :=
  let n := ds.length
  if e < 0 then "0." ++ zeros ((-e).toNat - 1) ++ ds
  else if e.toNat + 1 < n then
    String.ofList (ds.toList.take (e.toNat + 1)) ++ "." ++ String.ofList (ds.toList.drop (e.toNat + 1))
  else ds ++ zeros (e.toNat + 1 - n) ++ (if st.pointZero then ".0" else "")

/-- The digits `ds` of value `d.ddd * 10 ^ e`, written in scientific notation. -/
def scientificText (st : Style) (ds : String) (e : Int) : String :=
  let lead := String.ofList (ds.toList.take 1)
  let rest := String.ofList (ds.toList.drop 1)
  let expDs := Nat.toDigits 10 e.natAbs
  let sign := if e < 0 then "-" else if st.plusSign then "+" else ""
  lead ++ (if rest.isEmpty then "" else "." ++ rest) ++ st.mark ++ sign ++
    zeros (st.expDigits - expDs.length) ++ String.ofList expDs

/-- The text of the positive decimal `c * 10 ^ j`, where `c` has no trailing zero. -/
def decimalText (st : Style) (c : Nat) (j : Int) : String :=
  let ds := String.ofList (Nat.toDigits 10 c)
  let e := j + ds.length - 1
  if st.minFixed ≤ e ∧ e ≤ st.maxFixed then fixedText st ds e else scientificText st ds e

/-- The text of a double in the style `st`, from its shortest digits. -/
def floatText (st : Style) (f : Float) : String :=
  let sign (neg : Bool) := if neg then "-" else ""
  match shape f with
  | .zero neg => sign neg ++ "0" ++ (if st.pointZero then ".0" else "")
  | .finite neg x =>
      let (c, j) := shortest x
      sign neg ++ decimalText st c j
  | .infinite neg => sign neg ++ st.infText
  | .nan => st.nanText

end Lingo.Decimal
