import Lingo.Decimal.Layout
import Lingo.Text.Quoted

/-!
# Scalars

A scalar is the value a literal of a template holds: nothing, a truth value, an integer of any
size, a double or a string. Truth values count as the integers zero and one wherever numbers meet,
so `true` equals `1` and `1.0`, and an integer equals a double only when their values are exactly
the same. Each scalar has a plain text (`Scalar.text`), the literal that denotes it in emitted code
(`Scalar.literal`), and the name of its kind used in messages (`Scalar.kindName`).
-/

namespace Lingo

/-- The value of a literal. -/
inductive Scalar where
  | none
  | bool (b : Bool)
  | int (i : Int)
  | float (x : Float)
  | str (s : String)
  deriving Inhabited

/-- A number as arithmetic sees it: truth values are integers. -/
inductive Num where
  | int (i : Int)
  | float (x : Float)

namespace Scalar

/-- The numeric view of a scalar, for truth values, integers and doubles. -/
def num? : Scalar → Option Num
  | bool b => some (.int (if b then 1 else 0))
  | int i => some (.int i)
  | float x => some (.float x)
  | _ => Option.none

/-- Whether a scalar is a truth value, an integer or a double. -/
def isNumber (s : Scalar) : Bool := s.num?.isSome

/-- Whether a scalar is a string. -/
def isStr : Scalar → Bool
  | str _ => true
  | _ => false

/-- The name of a scalar's kind, as messages write it. -/
def kindName : Scalar → String
  | none => "NoneType"
  | bool _ => "bool"
  | int _ => "int"
  | float _ => "float"
  | str _ => "str"

/-- How doubles are written: positionally for decimal exponents from -4 to 15, a whole number
keeping `.0`, otherwise `1e+16` or `1e-05`, with `nan` and `inf`. -/
def floatStyle : Decimal.Style :=
  { minFixed := -4, maxFixed := 15, pointZero := true, mark := "e", plusSign := true,
    expDigits := 2, nanText := "nan", infText := "inf" }

/-- The decimal text of an integer. -/
def intText (i : Int) : String :=
  (if i < 0 then "-" else "") ++ String.ofList (Nat.toDigits 10 i.natAbs)

/-- The text of a double. -/
def floatText (x : Float) : String := Decimal.floatText floatStyle x

/-- The plain text of a scalar: a string stands for itself. -/
def text : Scalar → String
  | none => "None"
  | bool b => if b then "True" else "False"
  | int i => intText i
  | float x => floatText x
  | str s => s

/-- The literal that denotes a scalar in emitted code: a string is quoted. -/
def literal : Scalar → String
  | str s => Text.quote s
  | s => s.text

/-- The text of a number in a rendered template: a double with no fractional part is written as
the integer it holds, so `2.0` renders as `2`. -/
def numberText : Scalar → String
  | float x =>
      match Binary64.toInt? x with
      | some i => intText i
      | Option.none => floatText x
  | s => s.text

end Scalar

namespace Num

/-- A number read exactly: negative infinity, the fraction `a / b` with `0 < b`, or positive
infinity. -/
inductive Exact where
  | negInf
  | frac (a : Int) (b : Nat)
  | posInf

/-- The exact value of a number; none for a NaN. A double's value comes from its bits, so both
zeros are the fraction `0 / 1`. -/
def toExact : Num → Option Exact
  | .int i => some (.frac i 1)
  | .float x =>
      match Binary64.shape x with
      | .nan => Option.none
      | .infinite neg => some (if neg then .negInf else .posInf)
      | _ => (Binary64.toFraction? x).map fun (a, b) => .frac a b

/-- The order of exact values, fractions compared by cross-multiplying. -/
def Exact.compare : Exact → Exact → Ordering
  | .negInf, .negInf | .posInf, .posInf => .eq
  | .negInf, _ | _, .posInf => .lt
  | _, .negInf | .posInf, _ => .gt
  | .frac a b, .frac c d => Ord.compare (a * d) (c * b)

/-- Compares two numbers by their exact values, integers and doubles alike; none when a NaN makes
them unordered. -/
def compare? (x y : Num) : Option Ordering := do
  pure ((← x.toExact).compare (← y.toExact))

end Num

namespace Scalar

/-- Equality of literal values: numbers by value across kinds, strings by their characters, and
nothing only with nothing. A NaN equals nothing. -/
def sameValue : Scalar → Scalar → Bool
  | none, none => true
  | str a, str b => a == b
  | a, b =>
      match a.num?, b.num? with
      | some x, some y => x.compare? y == some .eq
      | _, _ => false

end Scalar

end Lingo
