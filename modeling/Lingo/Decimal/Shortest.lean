import Lingo.Binary64

/-!
# Shortest decimal digits of a double

For a positive finite double `v = m * 2 ^ q`, `shortest` gives the decimal `c * 10 ^ j` with
the fewest significant digits that reads back as `v`, and of those the nearest to `v`; an exact tie
between two goes to the even `c`. A decimal reads back as `v` when it lies in the interval of reals
that round to `v`: halfway to each neighbouring double, the ends included when `m` is even.

If some decimal of `n` digits lies in that interval, so does one of the two `n`-digit neighbours
of `v`, since the interval is connected and holds `v`; so the search tests only those two, for
`n = 1, 2, …, 17`, and seventeen digits always suffice. Every comparison is exact.
-/

namespace Lingo.Decimal

-- Powers are the core library's, `Nat.pow` and `Int.pow`, whatever else is imported, so these
-- definitions read the same in every context.
attribute [local instance (high)] instPowNat

open Lingo.Binary64

/-- Compares `c * 10 ^ j` with `k * 2 ^ t`. -/
def cmpScaled (c : Nat) (j : Int) (k : Nat) (t : Int) : Ordering :=
  compare (c * 10 ^ j.toNat * 2 ^ (-t).toNat) (k * 2 ^ t.toNat * 10 ^ (-j).toNat)

/-- The number of decimal digits of `n`, counting one for zero. -/
def decimalLength (n : Nat) : Nat := (Nat.toDigits 10 n).length

/-- `⌊log₁₀ (a / b)⌋` for positive `a` and `b`. Below one, the least `t` with `b ≤ a * 10 ^ t` is
the least with `⌈b / a⌉ ≤ 10 ^ t`, which is the digit count of `⌈b / a⌉ - 1`. -/
def floorLog10 (a b : Nat) : Int :=
  if b ≤ a then (decimalLength (a / b) : Int) - 1
  else -(decimalLength ((b + a - 1) / a - 1) : Int)

/-- Whether `c * 10 ^ j` lies in the interval of reals that round to `x`. In units of
`2 ^ (q - 2)` the double is `4 m` and the interval runs from `4 m - 2` (or `4 m - 1` when tight)
to `4 m + 2`. -/
def admits (x : Magnitude) (c : Nat) (j : Int) : Bool :=
  let t := x.q - 2
  let inclusive := x.m % 2 == 0
  let aboveLow := match cmpScaled c j (4 * x.m - (if x.tight then 1 else 2)) t with
    | .gt => true
    | .eq => inclusive
    | .lt => false
  let belowHigh := match cmpScaled c j (4 * x.m + 2) t with
    | .lt => true
    | .eq => inclusive
    | .gt => false
  aboveLow && belowHigh

/-- The admitted decimal of `n` significant digits nearest to `x`, as `(c, j)` for `c * 10 ^ j`,
where `k` is `⌊log₁₀ x⌋`. -/
def candidate (x : Magnitude) (k : Int) (n : Nat) : Option (Nat × Int) :=
  let j := k - n + 1
  let (a, b) := x.fraction
  let c := a * 10 ^ (-j).toNat / (b * 10 ^ j.toNat)
  match admits x c j, admits x (c + 1) j with
  | true, true =>
      -- `2 v = 8 m * 2 ^ (q - 2)` against the midpoint `(2 c + 1) * 10 ^ j`
      match cmpScaled (2 * c + 1) j (8 * x.m) (x.q - 2) with
      | .gt => some (c, j)
      | .lt => some (c + 1, j)
      | .eq => some (if c % 2 = 0 then c else c + 1, j)
  | true, false => some (c, j)
  | false, true => some (c + 1, j)
  | false, false => none

/-- Drops the trailing zeros of `c`, raising `j` to keep the value `c * 10 ^ j`. -/
def trimZeros : Nat → Nat → Int → Nat × Int
  | 0, c, j => (c, j)
  | fuel + 1, c, j => if c ≠ 0 ∧ c % 10 = 0 then trimZeros fuel (c / 10) (j + 1) else (c, j)

/-- The shortest decimal `c * 10 ^ j` that reads back as `x`, with no trailing zero in `c`. -/
def shortest (x : Magnitude) : Nat × Int :=
  let (a, b) := x.fraction
  let k := floorLog10 a b
  match (List.range 17).findSome? (fun i => candidate x k (i + 1)) with
  | some (c, j) => trimZeros 20 c j
  | none =>
      let j := k - 16
      trimZeros 20 (a * 10 ^ (-j).toNat / (b * 10 ^ j.toNat)) j

end Lingo.Decimal
