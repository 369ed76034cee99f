import Mathlib.Algebra.Order.Field.Rat
import Mathlib.Data.List.Forall2
import Mathlib.Order.WithBot
import Lingo.Tree.Node

/-!
# Keys of literal values

The memoised passes look results up by key (`Node.sameKey`), and two keys agree when their values
are equal as data: `1`, `1.0` and `true` agree, and a NaN agrees with a NaN. This file says what
agreeing values have in common. A number's exact value lies on the extended rational line
(`Num.val?`), and `Num.compare?` is the order of that line, so numbers that compare equal are
compared alike with every other number (`Num.compare?_congr_right`). Two scalars that agree as
keys are therefore equal, or numbers that every number compares with alike
(`Datum.agree_scalar_cases`). Every tree without a list or dictionary in a field has the same key
as itself (`Node.sameKey_self`).
-/

namespace Lingo

namespace Num

/-- Exact values whose fractions have positive denominators, as `toExact` makes them. -/
def Exact.Proper : Exact → Prop
  | .frac _ b => 0 < b
  | _ => True

/-- The place of an exact value on the extended rational line. -/
def Exact.val : Exact → WithBot (WithTop ℚ)
  | .negInf => ⊥
  | .frac a b => (((a : ℚ) / b : ℚ) : WithTop ℚ)
  | .posInf => ⊤

theorem Binary64.fraction_pos {f : Float} {a : Int} {b : Nat}
    (h : Binary64.toFraction? f = some (a, b)) : 0 < b := by
  have hpos : ∀ x : Binary64.Magnitude, 0 < x.fraction.2 := by
    intro x
    unfold Binary64.Magnitude.fraction
    split <;> simp
  unfold Binary64.toFraction? at h
  split at h
  · cases h
    exact Nat.one_pos
  · next neg x _ =>
    have hx := hpos x
    generalize x.fraction = p at h hx
    obtain ⟨a', b'⟩ := p
    simp only [Option.some.injEq, Prod.mk.injEq] at h
    rw [← h.2]
    exact hx
  · cases h

theorem toExact_proper {x : Num} {e : Exact} (h : x.toExact = some e) : e.Proper := by
  cases x with
  | int i =>
    cases h
    exact Nat.one_pos
  | float f =>
    simp only [toExact] at h
    split at h
    · cases h
    · cases h
      split <;> trivial
    · obtain ⟨⟨a, b⟩, hf, rfl⟩ := Option.map_eq_some_iff.1 h
      exact Binary64.fraction_pos hf

/-- A double has an exact value unless it is a NaN. -/
theorem toExact_isSome_float {f : Float} (h : Binary64.isNaN f = false) :
    (Num.float f).toExact.isSome := by
  simp only [Binary64.isNaN, beq_eq_false_iff_ne, ne_eq] at h
  simp only [toExact]
  split
  · contradiction
  · rfl
  · simp only [Binary64.toFraction?, Option.isSome_map]
    cases hs : Binary64.shape f <;> simp_all

theorem toExact_float_nan {f : Float} (h : Binary64.isNaN f = true) : (Num.float f).toExact = none := by
  simp only [Binary64.isNaN, beq_iff_eq] at h
  simp [toExact, h]

/-- Cross-multiplying two fractions with positive denominators orders them as their quotients. -/
theorem compare_cross {a c : Int} {b d : Nat} (hb : 0 < b) (hd : 0 < d) :
    compare (a * d) (c * b) = compare ((a : ℚ) / b) ((c : ℚ) / d) := by
  have hb' : (0 : ℚ) < b := by exact_mod_cast hb
  have hd' : (0 : ℚ) < d := by exact_mod_cast hd
  have hlt : a * d < c * b ↔ (a : ℚ) / b < (c : ℚ) / d := by
    rw [div_lt_div_iff₀ hb' hd']
    exact_mod_cast Iff.rfl
  have hgt : c * b < a * d ↔ (c : ℚ) / d < (a : ℚ) / b := by
    rw [div_lt_div_iff₀ hd' hb']
    exact_mod_cast Iff.rfl
  rcases lt_trichotomy (a * d) (c * b) with h | h | h
  · rw [compare_lt_iff_lt.2 h, compare_lt_iff_lt.2 (hlt.1 h)]
  · have hq : (a : ℚ) / b = (c : ℚ) / d := by
      rw [div_eq_div_iff hb'.ne' hd'.ne']
      exact_mod_cast h
    rw [compare_eq_iff_eq.2 h, compare_eq_iff_eq.2 hq]
  · rw [compare_gt_iff_gt.2 h, compare_gt_iff_gt.2 (hgt.1 h)]

/-- The order of exact values is the order of the extended rational line. -/
theorem Exact.compare_eq_val {x y : Exact} (hx : x.Proper) (hy : y.Proper) :
    x.compare y = Ord.compare x.val y.val := by
  have hbot : ∀ q : ℚ, (⊥ : WithBot (WithTop ℚ)) < ((q : WithTop ℚ) : WithBot (WithTop ℚ)) :=
    fun q => WithBot.bot_lt_coe _
  have htop : ∀ q : ℚ, ((q : WithTop ℚ) : WithBot (WithTop ℚ)) < ⊤ :=
    fun q => WithBot.coe_lt_coe.2 (WithTop.coe_lt_top q)
  have hbt : (⊥ : WithBot (WithTop ℚ)) < ⊤ := WithBot.bot_lt_coe _
  cases x with
  | negInf =>
    cases y with
    | negInf => exact (compare_eq_iff_eq.2 rfl).symm
    | frac c d => exact (compare_lt_iff_lt.2 (hbot _)).symm
    | posInf => exact (compare_lt_iff_lt.2 hbt).symm
  | frac a b =>
    cases y with
    | negInf => exact (compare_gt_iff_gt.2 (hbot _)).symm
    | frac c d =>
      simp only [Exact.compare, Exact.val]
      rw [compare_cross hx hy]
      rcases lt_trichotomy ((a : ℚ) / b) ((c : ℚ) / d) with h | h | h
      · rw [compare_lt_iff_lt.2 h, compare_lt_iff_lt.2 (by exact_mod_cast h)]
      · rw [compare_eq_iff_eq.2 h, h, compare_eq_iff_eq.2 rfl]
      · rw [compare_gt_iff_gt.2 h, compare_gt_iff_gt.2 (by exact_mod_cast h)]
    | posInf => exact (compare_lt_iff_lt.2 (htop _)).symm
  | posInf =>
    cases y with
    | negInf => exact (compare_gt_iff_gt.2 hbt).symm
    | frac c d => exact (compare_gt_iff_gt.2 (htop _)).symm
    | posInf => exact (compare_eq_iff_eq.2 rfl).symm

/-- The exact value of a number on the extended rational line; none for a NaN. -/
def val? (x : Num) : Option (WithBot (WithTop ℚ)) := x.toExact.map Exact.val

/-- Comparing numbers is comparing their places on the extended rational line. -/
theorem compare?_eq_val (x y : Num) :
    x.compare? y = x.val?.bind fun a => y.val?.map fun b => Ord.compare a b := by
  cases hx : x.toExact with
  | none => simp [compare?, val?, hx]
  | some ex =>
    cases hy : y.toExact with
    | none => simp [compare?, val?, hx, hy]
    | some ey =>
      simp [compare?, val?, hx, hy, Exact.compare_eq_val (toExact_proper hx) (toExact_proper hy)]

/-- Numbers that compare equal are compared alike with every number. -/
theorem compare?_congr_right {q q' : Num} (h : q.compare? q' = some .eq) (p : Num) :
    p.compare? q = p.compare? q' := by
  rw [compare?_eq_val] at h
  cases ha : q.val? with
  | none => simp [ha] at h
  | some a =>
    cases hb : q'.val? with
    | none => simp [ha, hb] at h
    | some b =>
      simp only [ha, hb, Option.bind_some, Option.map_some, Option.some.injEq] at h
      rw [compare?_eq_val, compare?_eq_val, ha, hb, compare_eq_iff_eq.1 h]

/-- A number with an exact value compares equal to itself. -/
theorem compare?_self {q : Num} (h : q.toExact.isSome) : q.compare? q = some .eq := by
  obtain ⟨e, he⟩ := Option.isSome_iff_exists.1 h
  simp [compare?_eq_val, val?, he]

/-- Numbers compare equal exactly when they have the same place on the extended rational line. -/
theorem compare?_eq_eq_iff {p q : Num} : p.compare? q = some .eq ↔ p.val?.isSome ∧ p.val? = q.val? := by
  rw [compare?_eq_val]
  cases p.val? <;> cases q.val? <;> simp

/-- A double has no place on the line exactly when it is a NaN. -/
theorem val?_float_eq_none {f : Float} : (Num.float f).val? = none ↔ Binary64.isNaN f = true := by
  constructor
  · intro h
    cases hn : Binary64.isNaN f with
    | true => rfl
    | false =>
      have hs := toExact_isSome_float hn
      simp [val?, Option.isSome_iff_exists] at h hs
      obtain ⟨e, he⟩ := hs
      simp [he] at h
  · intro h
    simp [val?, toExact_float_nan h]

end Num

namespace Scalar

/-- Scalars equal as values are equal, or numbers comparing equal. -/
theorem sameValue_cases {a b : Scalar} (h : a.sameValue b = true) :
    a = b ∨ ∃ qa qb, a.num? = some qa ∧ b.num? = some qb ∧ qa.compare? qb = some .eq := by
  cases a <;> cases b <;> simp_all [sameValue, num?]

/-- Equality with a number is comparing equal to it. -/
theorem sameValue_num_right {a : Scalar} {q : Num} (ha : a.num? = some q) (s : Scalar) :
    s.sameValue a = match s.num? with
      | some p => p.compare? q == some .eq
      | Option.none => false := by
  cases a <;> simp only [num?, Option.some.injEq, reduceCtorEq] at ha <;> subst ha <;>
    cases s <;> simp [sameValue, num?]

theorem sameValue_self {s : Scalar} (h : ∀ x, s = .float x → Binary64.isNaN x = false) :
    s.sameValue s = true := by
  cases s with
  | float x =>
    simp only [sameValue, num?]
    rw [Num.compare?_self (Num.toExact_isSome_float (h x rfl))]
    rfl
  | bool b => simp [sameValue, num?, Num.compare?, Num.toExact, Num.Exact.compare]
  | int i => simp [sameValue, num?, Num.compare?, Num.toExact, Num.Exact.compare]
  | none => rfl
  | str s => simp [sameValue]

/-- What identifies a scalar as a key: nothing or a string on the left, and on the right the place
of a number on the extended rational line, none for a NaN. -/
def key : Scalar → Option String ⊕ Option (WithBot (WithTop ℚ))
  | none => .inl Option.none
  | str s => .inl (some s)
  | s => .inr (s.num?.bind Num.val?)

end Scalar

namespace Datum

/-- Only the string `s` agrees with the string `s`. -/
theorem agree_str_right (nanEq : Bool) (d : Datum) (s : String) :
    agree nanEq d (.str s) = true ↔ d = .str s := by
  cases d with
  | scalar sc => cases sc <;> simp [agree, Scalar.sameValue, Scalar.num?, str]
  | safe t => simp [agree, str]
  | list items => simp [agree, str]
  | dict entries => simp [agree, str]

/-- Two scalars that agree as keys are equal, or numbers that every number compares with alike;
a NaN agrees only with a NaN, with which no number compares. -/
theorem agree_scalar_cases {a b : Scalar} (h : agree true (.scalar a) (.scalar b) = true) :
    a = b ∨ ∃ qa qb, a.num? = some qa ∧ b.num? = some qb ∧
      ∀ p : Num, p.compare? qa = p.compare? qb := by
  have hsame : a.sameValue b = true → a = b ∨ ∃ qa qb, a.num? = some qa ∧ b.num? = some qb ∧
      ∀ p : Num, p.compare? qa = p.compare? qb := by
    intro hs
    rcases Scalar.sameValue_cases hs with rfl | ⟨qa, qb, ha, hb, hq⟩
    · exact .inl rfl
    · exact .inr ⟨qa, qb, ha, hb, fun p => Num.compare?_congr_right hq p⟩
  cases a with
  | float x =>
    cases b with
    | float y =>
      simp only [agree, Bool.true_and, Bool.or_eq_true, Bool.and_eq_true] at h
      rcases h with ⟨hx, hy⟩ | hs
      · refine .inr ⟨.float x, .float y, rfl, rfl, fun p => ?_⟩
        simp [Num.compare?, Num.toExact_float_nan hx, Num.toExact_float_nan hy]
      · exact hsame hs
    | _ => exact hsame (by simpa [agree] using h)
  | _ => exact hsame (by simpa [agree] using h)

/-- Scalars agree as keys exactly when they have the same key. -/
theorem agree_scalar_iff (a b : Scalar) : agree true (.scalar a) (.scalar b) = true ↔ a.key = b.key := by
  cases a with
  | float x =>
    cases b with
    | float y =>
      simp only [agree, Bool.true_and, Bool.or_eq_true, Bool.and_eq_true, Scalar.sameValue,
        Scalar.num?, beq_iff_eq, Num.compare?_eq_eq_iff, Scalar.key, Option.bind_some, Sum.inr.injEq]
      by_cases hx : Binary64.isNaN x = true <;> by_cases hy : Binary64.isNaN y = true
      · simp [hx, hy, Num.val?_float_eq_none.2 hx, Num.val?_float_eq_none.2 hy]
      · have hy' := mt Num.val?_float_eq_none.1 hy
        simp [hx, hy, Num.val?_float_eq_none.2 hx, Ne.symm hy']
      · have hx' := mt Num.val?_float_eq_none.1 hx
        simp [hx, hy, Num.val?_float_eq_none.2 hy, hx', Option.isSome_iff_ne_none]
      · have hx' := mt Num.val?_float_eq_none.1 hx
        simp [hx, hx', Option.isSome_iff_ne_none]
    | _ =>
      simp only [agree, Scalar.sameValue, Scalar.key, Scalar.num?, Option.bind_some, Sum.inr.injEq,
        beq_iff_eq, reduceCtorEq, Num.compare?_eq_eq_iff]
      -- an integer always has a place on the line
      all_goals exact ⟨And.right, fun h => ⟨by rw [h]; rfl, h⟩⟩
  | _ =>
    cases b <;> simp only [agree, Scalar.sameValue, Scalar.key, Scalar.num?, Option.bind_some,
      Sum.inr.injEq, Sum.inl.injEq, beq_iff_eq, reduceCtorEq, Num.compare?_eq_eq_iff,
      Option.some_inj, iff_self]
    all_goals exact ⟨And.right, fun h => ⟨rfl, h⟩⟩

theorem agree_scalar_right {d : Datum} {s : Scalar} (h : agree true d (.scalar s) = true) :
    ∃ s', d = .scalar s' := by
  cases d with
  | scalar s' => exact ⟨s', rfl⟩
  | _ => simp [agree] at h

/-- Agreement as keys is transitive through data that can be keys. -/
theorem agree_trans {a b c : Datum} (hab : agree true a b = true) (hbc : agree true b c = true)
    (hc : c.unhashable? = Option.none) : agree true a c = true := by
  cases c with
  | scalar z =>
    obtain ⟨y, rfl⟩ := agree_scalar_right hbc
    obtain ⟨x, rfl⟩ := agree_scalar_right hab
    rw [agree_scalar_iff] at hab hbc ⊢
    exact hab.trans hbc
  | safe t =>
    cases b with
    | safe u =>
      cases a with
      | safe w =>
        simp only [agree, beq_iff_eq] at hab hbc ⊢
        exact hab.trans hbc
      | scalar x => cases x <;> simp [agree] at hab
      | list _ => simp [agree] at hab
      | dict _ => simp [agree] at hab
    | scalar y => cases y <;> simp [agree] at hbc
    | list _ => simp [agree] at hbc
    | dict _ => simp [agree] at hbc
  | list items => simp [unhashable?] at hc
  | dict entries => simp [unhashable?] at hc

/-- What agrees with a datum that can be a key can be a key. -/
theorem unhashable_of_agree {a b : Datum} (h : agree true a b = true)
    (hb : b.unhashable? = Option.none) : a.unhashable? = Option.none := by
  cases b with
  | scalar z =>
    obtain ⟨y, rfl⟩ := agree_scalar_right h
    rfl
  | safe t =>
    cases a with
    | safe w => rfl
    | scalar x => rfl
    | list _ => simp [agree] at h
    | dict _ => simp [agree] at h
  | list items => simp [unhashable?] at hb
  | dict entries => simp [unhashable?] at hb

/-- Agreement as keys is symmetric for data that can be keys. -/
theorem agree_symm {a b : Datum} (h : agree true a b = true) (hb : b.unhashable? = Option.none) :
    agree true b a = true := by
  cases b with
  | scalar z =>
    obtain ⟨y, rfl⟩ := agree_scalar_right h
    rw [agree_scalar_iff] at h ⊢
    exact h.symm
  | safe t =>
    cases a with
    | safe w =>
      simp only [agree, beq_iff_eq] at h ⊢
      exact h.symm
    | scalar x => cases x <;> simp [agree] at h
    | list _ => simp [agree] at h
    | dict _ => simp [agree] at h
  | list items => simp [unhashable?] at hb
  | dict entries => simp [unhashable?] at hb

/-- A datum that can be a key agrees with itself when NaNs agree. -/
theorem agree_self {d : Datum} (hd : d.unhashable? = Option.none) : agree true d d = true := by
  cases d with
  | scalar s =>
    cases s with
    | float x =>
      cases hx : Binary64.isNaN x with
      | true => simp [agree, hx]
      | false =>
        simp only [agree, hx, Bool.and_false, Bool.false_or]
        exact Scalar.sameValue_self fun y hy => by cases hy; exact hx
    | _ =>
      simp only [agree]
      exact Scalar.sameValue_self (by simp)
  | safe t => simp [agree]
  | list items => simp [unhashable?] at hd
  | dict entries => simp [unhashable?] at hd

end Datum

namespace Node

/-- Induction on trees, with the statement assumed of every child. -/
theorem induction {P : Node → Prop} (h : ∀ k f cs, (∀ c ∈ cs, P c) → P (.mk k f cs)) :
    ∀ n, P n
  | .mk k f cs => h k f cs fun c _ => induction h c

theorem unhashableIn?_eq_none {cs : List Node} :
    unhashable?.unhashableIn? cs = none ↔ ∀ c ∈ cs, c.unhashable? = none := by
  induction cs with
  | nil => simp [unhashable?.unhashableIn?]
  | cons c cs ih => simp [unhashable?.unhashableIn?, ih]

theorem sameKeys_iff_forall₂ (nanEq : Bool) {as bs : List Node} :
    sameKey.sameKeys nanEq as bs = true ↔ List.Forall₂ (fun a b => sameKey nanEq a b = true) as bs := by
  induction as generalizing bs with
  | nil => cases bs <;> simp [sameKey.sameKeys, List.forall₂_nil_left_iff]
  | cons a as ih => cases bs <;> simp [sameKey.sameKeys, ih, List.forall₂_nil_right_iff]

theorem sameKey_mk (nanEq : Bool) (k k' : Kind) (f f' : Fields) (cs cs' : List Node) :
    sameKey nanEq (.mk k f cs) (.mk k' f' cs') = true ↔
      k = k' ∧ (∀ fld ∈ k.fields, Fields.agreeOn nanEq f f' fld = true) ∧
        List.Forall₂ (fun a b => sameKey nanEq a b = true) cs cs' := by
  simp [sameKey, sameKeys_iff_forall₂, and_assoc]

theorem sameKey_mk_right {n : Node} {k : Kind} {f : Fields} {cs : List Node}
    (h : sameKey true n (.mk k f cs) = true) :
    ∃ f' cs', n = .mk k f' cs' ∧ (∀ fld ∈ k.fields, Fields.agreeOn true f' f fld = true) ∧
      List.Forall₂ (fun a b => sameKey true a b = true) cs' cs := by
  obtain ⟨k', f', cs'⟩ := n
  obtain ⟨rfl, hf, hcs⟩ := (sameKey_mk true k' k f' f cs' cs).1 h
  exact ⟨f', cs', rfl, hf, hcs⟩

/-- A value or name shown in a field can be a key when the field can. -/
theorem unhashable_of_get {d : Datum}
    (h : (if d.isNone then FieldValue.absent else .datum d).unhashable? = none) :
    d.unhashable? = none := by
  split at h
  · next hn => cases d <;> simp_all [Datum.isNone, Datum.unhashable?]
  · exact h

/-- A field that holds no list or dictionary agrees with itself when NaNs agree. -/
theorem agreeOn_self {f : Fields} {fld : FieldName} (h : (f.get fld).unhashable? = none) :
    Fields.agreeOn true f f fld = true := by
  cases fld with
  | value => exact Datum.agree_self (unhashable_of_get h)
  | name => exact Datum.agree_self (unhashable_of_get h)
  | _ => simp [Fields.agreeOn]

/-- Fields agree transitively through a field that can be a key. -/
theorem agreeOn_trans {f₁ f₂ f₃ : Fields} {fld : FieldName}
    (h₁ : Fields.agreeOn true f₁ f₂ fld = true) (h₂ : Fields.agreeOn true f₂ f₃ fld = true)
    (h₃ : (f₃.get fld).unhashable? = none) : Fields.agreeOn true f₁ f₃ fld = true := by
  cases fld with
  | value => exact Datum.agree_trans h₁ h₂ (unhashable_of_get h₃)
  | name => exact Datum.agree_trans h₁ h₂ (unhashable_of_get h₃)
  | _ =>
    simp only [Fields.agreeOn, beq_iff_eq] at h₁ h₂ ⊢
    exact h₁.trans h₂

/-- Fields agree symmetrically on a field that can be a key. -/
theorem agreeOn_symm {f₁ f₂ : Fields} {fld : FieldName} (h : Fields.agreeOn true f₁ f₂ fld = true)
    (h₂ : (f₂.get fld).unhashable? = none) : Fields.agreeOn true f₂ f₁ fld = true := by
  cases fld with
  | value => exact Datum.agree_symm h (unhashable_of_get h₂)
  | name => exact Datum.agree_symm h (unhashable_of_get h₂)
  | _ =>
    simp only [Fields.agreeOn, beq_iff_eq] at h ⊢
    exact h.symm

/-- A field that agrees with a field that can be a key can be a key. -/
theorem get_unhashable_of_agreeOn {f₁ f₂ : Fields} {fld : FieldName}
    (h : Fields.agreeOn true f₁ f₂ fld = true) (h₂ : (f₂.get fld).unhashable? = none) :
    (f₁.get fld).unhashable? = none := by
  have hdatum : ∀ d : Datum, d.unhashable? = none →
      (if d.isNone then FieldValue.absent else .datum d).unhashable? = none := by
    intro d hd
    split <;> simp [FieldValue.unhashable?, hd]
  cases fld with
  | value => exact hdatum _ (Datum.unhashable_of_agree h (unhashable_of_get h₂))
  | name => exact hdatum _ (Datum.unhashable_of_agree h (unhashable_of_get h₂))
  | op => simp only [Fields.get]; cases f₁.op <;> rfl
  | pos => rfl
  | ty => simp only [Fields.get]; cases f₁.ty <;> rfl
  | const => simp only [Fields.get]; cases f₁.const <;> rfl
  | input => simp only [Fields.get]; cases f₁.input <;> rfl

/-- Pointwise relations compose when the relation is transitive towards each item of the last
list. -/
theorem forall₂_trans {α : Type} {R : α → α → Prop} {l₁ l₂ l₃ : List α}
    (htr : ∀ a b c, c ∈ l₃ → R a b → R b c → R a c) (h₁ : List.Forall₂ R l₁ l₂)
    (h₂ : List.Forall₂ R l₂ l₃) : List.Forall₂ R l₁ l₃ := by
  induction h₁ generalizing l₃ with
  | nil => cases h₂; exact .nil
  | cons hab _ ih =>
    cases h₂ with
    | cons hbc hrest =>
      exact .cons (htr _ _ _ List.mem_cons_self hab hbc)
        (ih (fun a b c hc => htr a b c (List.mem_cons_of_mem _ hc)) hrest)

theorem exists_of_forall₂_left {α β : Type} {R : α → β → Prop} {l : List α} {l' : List β}
    (h : List.Forall₂ R l l') {a : α} (ha : a ∈ l) : ∃ b ∈ l', R a b := by
  induction h with
  | nil => cases ha
  | @cons a' b _ _ hab _ ih =>
    rcases List.mem_cons.1 ha with rfl | ha
    · exact ⟨b, List.mem_cons_self, hab⟩
    · obtain ⟨b', hb', hr⟩ := ih ha
      exact ⟨b', List.mem_cons_of_mem _ hb', hr⟩

theorem keyed_mk {k : Kind} {f : Fields} {cs : List Node} :
    (Node.mk k f cs).unhashable? = none ↔
      (∀ fld ∈ k.fields, (f.get fld).unhashable? = none) ∧ ∀ c ∈ cs, c.unhashable? = none := by
  simp only [unhashable?, Option.orElse_eq_none, List.findSome?_eq_none_iff, unhashableIn?_eq_none]

/-- A tree without a list or dictionary in a field has the same key as itself. -/
theorem sameKey_self {n : Node} (h : n.unhashable? = none) : sameKey true n n = true := by
  induction n using induction with
  | h k f cs ih =>
    obtain ⟨hfields, hcs⟩ := keyed_mk.1 h
    refine (sameKey_mk true k k f f cs cs).2 ⟨rfl, fun fld hfld => agreeOn_self (hfields fld hfld), ?_⟩
    exact List.forall₂_same.2 fun c hc => ih c hc (hcs c hc)

/-- What has the key of a tree without a list or dictionary has none either. -/
theorem unhashable_of_sameKey {a b : Node} (h : sameKey true a b = true)
    (hb : b.unhashable? = none) : a.unhashable? = none := by
  induction b using induction generalizing a with
  | h k f cs ih =>
    obtain ⟨f', cs', rfl, hf, hcs⟩ := sameKey_mk_right h
    obtain ⟨hfields, hchildren⟩ := keyed_mk.1 hb
    refine keyed_mk.2 ⟨fun fld hfld => get_unhashable_of_agreeOn (hf fld hfld) (hfields fld hfld),
      fun c hc => ?_⟩
    obtain ⟨d, hd, hcd⟩ := exists_of_forall₂_left hcs hc
    exact ih d hd hcd (hchildren d hd)

/-- Having the same key is transitive through trees without a list or dictionary. -/
theorem sameKey_trans {a b c : Node} (hab : sameKey true a b = true) (hbc : sameKey true b c = true)
    (hc : c.unhashable? = none) : sameKey true a c = true := by
  induction c using induction generalizing a b with
  | h k f cs ih =>
    obtain ⟨fb, csb, rfl, hfb, hcsb⟩ := sameKey_mk_right hbc
    obtain ⟨fa, csa, rfl, hfa, hcsa⟩ := sameKey_mk_right hab
    obtain ⟨hfields, hchildren⟩ := keyed_mk.1 hc
    refine (sameKey_mk true k k fa f csa cs).2 ⟨rfl,
      fun fld hfld => agreeOn_trans (hfa fld hfld) (hfb fld hfld) (hfields fld hfld), ?_⟩
    exact forall₂_trans (fun _ _ d hd hxy hyz => ih d hd hxy hyz (hchildren d hd)) hcsa hcsb

/-- Having the same key is symmetric for trees without a list or dictionary. -/
theorem sameKey_symm {a b : Node} (h : sameKey true a b = true) (hb : b.unhashable? = none) :
    sameKey true b a = true := by
  induction b using induction generalizing a with
  | h k f cs ih =>
    obtain ⟨f', cs', rfl, hf, hcs⟩ := sameKey_mk_right h
    obtain ⟨hfields, hchildren⟩ := keyed_mk.1 hb
    refine (sameKey_mk true k k f f' cs cs').2 ⟨rfl,
      fun fld hfld => agreeOn_symm (hf fld hfld) (hfields fld hfld), ?_⟩
    -- the children of `b` are among `cs` all along the pairing
    suffices ∀ xs ys : List Node, (∀ c ∈ ys, c ∈ cs) →
        List.Forall₂ (fun a b => sameKey true a b = true) xs ys →
        List.Forall₂ (fun a b => sameKey true a b = true) ys xs from this cs' cs (fun _ h => h) hcs
    intro xs ys hys hxy
    induction hxy with
    | nil => exact .nil
    | cons hab _ ihxy =>
      have hy := hys _ List.mem_cons_self
      exact .cons (ih _ hy hab (hchildren _ hy)) (ihxy fun c hc => hys c (List.mem_cons_of_mem _ hc))

end Node

end Lingo
