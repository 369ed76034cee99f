/-!
# Punycode

The bootstring encoding of RFC 3492 with the parameters of Punycode. The basic code points, those
below 128, are copied first, followed by a hyphen when there are any. The other code points are
then inserted in increasing order: each insertion is written as one variable-length number in
base 36 that counts the steps an insertion machine takes from the previous insertion, and the
thresholds of its digits follow a bias adapted after every number.

Every loop is total without fuel: `shrink` divides its delta by 35, `digits` divides its number by
at least 10, and `insertAll` runs over the distinct code points past ASCII.
-/

namespace Lingo.Codec.Punycode

/-- The code point of a digit: `a`-`z` for 0 to 25, `0`-`9` for 26 to 35. -/
def digitPoint (d : Nat) : Nat := if d < 26 then 0x61 + d else 0x30 + d - 26

/-- The threshold of the digit at position `k` (a multiple of 36) under `bias`: between 1 and 26. -/
def threshold (k bias : Nat) : Nat :=
  if k ≤ bias then 1 else if bias + 26 ≤ k then 26 else k - bias

theorem threshold_pos (k bias : Nat) : 1 ≤ threshold k bias := by
  unfold threshold
  split
  · omega
  · split <;> omega

theorem threshold_le (k bias : Nat) : threshold k bias ≤ 26 := by
  unfold threshold
  split
  · omega
  · split <;> omega

/-- Divides `delta` by 35 until it is at most 455, counting 36 in `k` for each division. -/
def shrink (delta k : Nat) : Nat × Nat :=
  if 455 < delta then shrink (delta / 35) (k + 36) else (delta, k)
termination_by delta
decreasing_by exact Nat.div_lt_self (by omega) (by omega)

/-- The bias after writing `delta`, with `points` code points handled so far, the first time or
not: damping by 700 the first time and by 2 after, with skew 38. -/
def adapt (delta points : Nat) (first : Bool) : Nat :=
  let d := if first then delta / 700 else delta / 2
  let (d, k) := shrink (d + d / points) 0
  k + 36 * d / (d + 38)

/-- The digits of `q` from position `k` on under `bias`, least significant first. -/
def digits (bias k q : Nat) : List Nat :=
  let t := threshold k bias
  if q < t then [digitPoint q]
  else digitPoint (t + (q - t) % (36 - t)) :: digits bias (k + 36) ((q - t) / (36 - t))
termination_by q
decreasing_by
  have _h1 := threshold_pos k bias
  have _h2 := threshold_le k bias
  calc (q - threshold k bias) / (36 - threshold k bias)
      ≤ q - threshold k bias := Nat.div_le_self _ _
    _ < q := by omega

/-- The state of the insertion machine: what is written, the steps counted since the last
insertion, the bias, and how many code points are handled. -/
structure State where
  out : List Nat
  delta : Nat
  bias : Nat
  handled : Nat

/-- Reads one code point `c` of the input while inserting `m`: a smaller code point is a step, and
`m` itself is an insertion, written as a number. `basic` counts the basic code points. -/
def step (basic m : Nat) (st : State) (c : Nat) : State :=
  if c < m then { st with delta := st.delta + 1 }
  else if c = m then
    { out := st.out ++ digits st.bias 36 st.delta, delta := 0,
      bias := adapt st.delta (st.handled + 1) (st.handled = basic), handled := st.handled + 1 }
  else st

/-- Inserts the code points `ms`, in increasing order, each from the previous one `n` on. -/
def insertAll (input : List Nat) (basic : Nat) : List Nat → Nat → State → State
  | [], _, st => st
  | m :: ms, n, st =>
      let st := input.foldl (step basic m) { st with delta := st.delta + (m - n) * (st.handled + 1) }
      insertAll input basic ms (m + 1) { st with delta := st.delta + 1 }

/-- The Punycode of code points, as code points. -/
def encode (cps : List Nat) : List Nat :=
  let basic := cps.filter (· < 0x80)
  let others := ((cps.filter (0x80 ≤ ·)).eraseDups).mergeSort (· ≤ ·)
  let st := insertAll cps basic.length others 0x80
    { out := [], delta := 0, bias := 72, handled := basic.length }
  basic ++ (if basic.isEmpty then [] else [0x2D]) ++ st.out

theorem encode_nil : encode [] = [] := by
  simp [encode, insertAll]

end Lingo.Codec.Punycode
