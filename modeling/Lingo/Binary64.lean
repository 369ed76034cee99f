/-!
# Binary64 values in exact arithmetic

A double is read as a sign and a dyadic magnitude `m * 2 ^ q`, and a fraction of natural numbers is
rounded to the nearest double. Both directions work in exact natural-number arithmetic, so the
rounding here is the one IEEE 754 prescribes: to nearest, a tie going to the even significand, and
a magnitude that rounds to `2 ^ 1024` or beyond has no finite double.
-/

namespace Lingo.Binary64

-- Powers are the core library's, `Nat.pow` and `Int.pow`, whatever else is imported, so these
-- definitions read the same in every context; a literal exponent is typed to the same end.
attribute [local instance (high)] instPowNat

/-- The least exponent of a significand bit: subnormal doubles are multiples of `2 ^ -1074`. -/
def minExp : Int := -1074

/-- The greatest exponent of the last significand bit of a finite double. -/
def maxExp : Int := 971

/-- The magnitude `m * 2 ^ q` of a nonzero finite double. It is `tight` when the gap to the next smaller double
is half the gap to the next larger one, which happens at a power of two above the least normal
exponent. -/
structure Magnitude where
  m : Nat
  q : Int
  tight : Bool
  deriving Repr, DecidableEq

/-- The kinds of double, each finite one with its magnitude. -/
inductive Shape where
  | zero (neg : Bool)
  | finite (neg : Bool) (x : Magnitude)
  | infinite (neg : Bool)
  | nan
  deriving Repr, DecidableEq

/-- Reads the sign, exponent and fraction fields of a double. -/
def shape (f : Float) : Shape :=
  let bits : Nat := f.toBits.toNat
  let neg := decide (2 ^ (63 : Nat) ≤ bits)
  let biased : Nat := bits / 2 ^ (52 : Nat) % 2048
  let frac : Nat := bits % 2 ^ (52 : Nat)
  if biased = 2047 then
    if frac = 0 then .infinite neg else .nan
  else if biased = 0 then
    if frac = 0 then .zero neg else .finite neg ⟨frac, minExp, false⟩
  else
    .finite neg ⟨frac + 2 ^ (52 : Nat), (biased : Int) - 1075, decide (frac = 0 ∧ 1 < biased)⟩

/-- The magnitude `a / b` of a dyadic value, with `b` a power of two. -/
def Magnitude.fraction (x : Magnitude) : Nat × Nat :=
  if 0 ≤ x.q then (x.m * 2 ^ x.q.toNat, 1) else (x.m, 2 ^ (-x.q).toNat)

/-- The value as an integer, when it is one. -/
def Magnitude.toNat? (x : Magnitude) : Option Nat :=
  let (a, b) := x.fraction
  if a % b = 0 then some (a / b) else none

/-- Quotient of `a` by `b` rounded to nearest, a tie going to the even neighbour. -/
def divRoundEven (a b : Nat) : Nat :=
  let q := a / b
  let r := a % b
  if b < 2 * r ∨ (2 * r = b ∧ q % 2 = 1) then q + 1 else q

/-- The pair `(a, b)` with `a / b = n / (d * 2 ^ e)`, both natural numbers. -/
def scaleDown (n d : Nat) (e : Int) : Nat × Nat :=
  if 0 ≤ e then (n, d * 2 ^ e.toNat) else (n * 2 ^ (-e).toNat, d)

/-- `⌊log₂ (n / d)⌋` for positive `n` and `d`: the bit lengths fix it up to one. -/
def floorLog2 (n d : Nat) : Int :=
  let l : Int := (n.log2 : Int) - d.log2
  let (a, b) := scaleDown n d l
  if b ≤ a then l else l - 1

/-- The bits of the finite double `± m * 2 ^ e`, where `m < 2 ^ 53`, `minExp ≤ e`, and `m` has 53
bits unless `e = minExp`. -/
def pack (neg : Bool) (m : Nat) (e : Int) : UInt64 :=
  let sign : Nat := if neg then 2 ^ (63 : Nat) else 0
  let body : Nat :=
    if 2 ^ (52 : Nat) ≤ m then (e + 1075).toNat * 2 ^ (52 : Nat) + (m - 2 ^ (52 : Nat)) else m
  UInt64.ofNat (sign + body)

/-- The significand and exponent of the double nearest to `n / d`, for positive `n` and `d`,
before the test for overflow. -/
def nearest (n d : Nat) : Nat × Int :=
  let e := max (floorLog2 n d - 52) minExp
  let (a, b) := scaleDown n d e
  let m := divRoundEven a b
  if m = 2 ^ (53 : Nat) then (2 ^ (52 : Nat), e + 1) else (m, e)

/-- The double nearest to `±n / d` (for `0 < d`), or `none` when the magnitude rounds past the
largest finite double. A zero fraction keeps its sign. -/
def ofFraction (neg : Bool) (n d : Nat) : Option Float :=
  if n = 0 then some (Float.ofBits (pack neg 0 minExp))
  else
    let (m, e) := nearest n d
    if maxExp < e then none else some (Float.ofBits (pack neg m e))

/-- The double nearest to an integer, or `none` past the largest finite double. -/
def ofInt? (i : Int) : Option Float :=
  ofFraction (decide (i < 0)) i.natAbs 1

/-- The value of a finite double as an exact fraction `a / b` with `0 < b`, or `none` for an
infinity or a NaN. -/
def toFraction? (f : Float) : Option (Int × Nat) :=
  match shape f with
  | .zero _ => some (0, 1)
  | .finite neg x =>
      let (a, b) := x.fraction
      some (if neg then -(a : Int) else a, b)
  | _ => none

/-- The integer a double holds, when it is finite and has no fractional part. -/
def toInt? (f : Float) : Option Int :=
  match shape f with
  | .zero _ => some 0
  | .finite neg x => x.toNat?.map fun n => if neg then -(n : Int) else n
  | _ => none

/-- Whether a double is a NaN, as its bits tell. -/
def isNaN (f : Float) : Bool := shape f == .nan

/-- Whether a double is finite and has no fractional part. -/
def isInteger (f : Float) : Bool := (toInt? f).isSome

end Lingo.Binary64
