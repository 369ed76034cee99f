import Std.Data.HashMap
import Lingo.Codec.Unicode.Decomposition
import Lingo.Codec.Unicode.Composition

/-!
# Compatibility composition (NFKC)

Normalization form KC as the stringprep of domain names asks for it, with the decompositions of
Unicode 3.2. A text is decomposed character by character (`decompose`), its marks are put in
canonical order (`canonicalOrder`), and it is composed again (`compose`).

Composition reads the text once. It keeps the last starter (a character of class 0) with the
marks written after it, and a character joins the starter when the two compose and nothing
blocks it: it follows the starter directly, or the last mark kept after the starter has a lower
class. A starter that does not join begins a new run. Hangul syllables compose by rule.
-/

namespace Lingo.Codec.Unicode

/-- Reads a table grouped by length into a map from each character to the characters after it in
its entry. -/
def readGroups (groups : List (Nat × List String)) : Std.HashMap Nat (List Nat) :=
  groups.foldl (fun table (n, chunks) =>
    chunks.foldl (fun table chunk =>
      (entriesOf (n + 1) chunk).foldl (fun table entry =>
        match entry with
        | c :: rest => table.insert c rest
        | [] => table) table) table) {}

/-- The decomposition of every character that has one, Hangul syllables apart. -/
def decompositions : Std.HashMap Nat (List Nat) := readGroups decompositionGroups

/-- The nonzero canonical combining classes. -/
def combiningClasses : Std.HashMap Nat Nat :=
  combiningClassRanges.foldl (fun table (k, spec) =>
    (parseRanges spec).foldl (fun table (a, b) =>
      ((List.range (b + 1 - a)).map (· + a)).foldl (fun table c => table.insert c k) table)
      table) {}

/-- The canonical combining class of a character. -/
def combiningClass (c : Nat) : Nat := combiningClasses.getD c 0

/-- The canonical compositions of pairs. -/
def compositions : Std.HashMap (Nat × Nat) Nat :=
  compositionTriples.foldl (fun table chunk =>
    (entriesOf 3 chunk).foldl (fun table entry =>
      match entry with
      | [a, b, c] => table.insert (a, b) c
      | _ => table) table) {}

/-- The first Hangul syllable. -/
def syllableBase : Nat := 0xAC00

/-- The first leading consonant of Hangul. -/
def leadingBase : Nat := 0x1100

/-- The first vowel of Hangul. -/
def vowelBase : Nat := 0x1161

/-- The code point before the first trailing consonant of Hangul. -/
def trailingBase : Nat := 0x11A7

/-- Whether a code point is a Hangul syllable. -/
def isSyllable (c : Nat) : Bool := syllableBase ≤ c && c < syllableBase + 11172

/-- The decomposition of one character, to the end. -/
def decompose (c : Nat) : List Nat :=
  if isSyllable c then
    let s := c - syllableBase
    [leadingBase + s / 588, vowelBase + s % 588 / 28] ++
      (if s % 28 = 0 then [] else [trailingBase + s % 28])
  else decompositions.getD c [c]

/-- Puts a mark of class `k` into a text written last first, after the marks of higher class at
its end. -/
def insertMark (k c : Nat) : List Nat → List Nat
  | [] => [c]
  | d :: ds => if k < combiningClass d then d :: insertMark k c ds else c :: d :: ds

/-- Sorts every run of marks by class, keeping the order of marks of one class. -/
def canonicalOrder (cps : List Nat) : List Nat :=
  (cps.foldl (fun acc c =>
    let k := combiningClass c
    if k = 0 then c :: acc else insertMark k c acc) []).reverse

/-- What two characters compose to, if anything. -/
def composePair (s c : Nat) : Option Nat :=
  if leadingBase ≤ s ∧ s < leadingBase + 19 ∧ vowelBase ≤ c ∧ c < vowelBase + 21 then
    some (syllableBase + ((s - leadingBase) * 21 + (c - vowelBase)) * 28)
  else if isSyllable s ∧ (s - syllableBase) % 28 = 0 ∧ trailingBase < c ∧ c < trailingBase + 28 then
    some (s + (c - trailingBase))
  else compositions[(s, c)]?

/-- The state of composition: what is written before the last starter (last first), the last
starter, and the marks written after it (last first). -/
structure Composer where
  done : List Nat
  starter : Option Nat
  marks : List Nat

/-- Composition reads one character. -/
def Composer.push (st : Composer) (c : Nat) : Composer :=
  let k := combiningClass c
  match st.starter with
  | some s =>
      let free := match st.marks with
        | [] => true
        | m :: _ => combiningClass m < k
      match (if free then composePair s c else none) with
      | some t => { st with starter := some t }
      | none =>
          if k = 0 then { done := st.marks ++ s :: st.done, starter := some c, marks := [] }
          else { st with marks := c :: st.marks }
  | none => if k = 0 then { st with starter := some c } else { st with done := c :: st.done }

/-- The text a composition state has written. -/
def Composer.text (st : Composer) : List Nat :=
  (match st.starter with
   | some s => st.marks ++ s :: st.done
   | none => st.done).reverse

/-- Composes a text in canonical order. -/
def compose (cps : List Nat) : List Nat :=
  (cps.foldl Composer.push ⟨[], none, []⟩).text

/-- Normalization form KC. -/
def nfkc (cps : List Nat) : List Nat :=
  compose (canonicalOrder (cps.flatMap decompose))

theorem nfkc_nil : nfkc [] = [] := rfl

end Lingo.Codec.Unicode
