import Lingo.Proofs.DeclaredArguments
import Lingo.Proofs.FoldFixedPoint

/-!
# The first misapplied operator of a tree

Typing a tree gives each expression a type bottom-up from the types of its variables
(`Node.typeUnder`). An operator applied to an operand of a type it does not take gets type `error`,
and so does a call with an argument of type `error`. An operator is misapplied when one of its
operands has a type the operator does not take and not already `error` (`Kind.misfits`).

`Node.firstMismatch` is the conflict a reader expects from this: the first misapplied operator in
the order typing finishes nodes, reported at its first misfitting operand, located in the text
that holds it. A tree has one exactly when one of its operators is misapplied
(`Node.firstMismatch_eq_none_iff`), and while no variable has type `error` an expression has that
type only through a misapplied operator (`Node.IsExpr.misapplied_of_error`). The trees of
well-formed translations have keys (`Node.IsTranslation.keyed`).
-/

namespace Lingo

/-- Only `error` narrows to `error`. -/
theorem Ty.narrow_eq_error {t : Ty} (h : t.narrow = .error) : t = .error := by
  revert h
  cases t <;> decide

namespace Kind

/-- The types an operator takes, as a conflict names them: numbers for unary minus, `-`, `*` and
`/`, numbers and strings for `+`. -/
def expected : Kind → List Ty
  | add => [.number, .string]
  | _ => [.number]

/-- Whether an operator of this kind takes an operand of type `t`: a number under unary minus,
`-`, `*` and `/`, and a number, a string or either under `+`. Other kinds take anything. -/
def takes : Kind → Ty → Bool
  | neg, t | sub, t | mul, t | div, t => t == .number
  | add, t => t.isPlusOperand
  | _, _ => true

/-- Whether an operator of this kind is misapplied to an operand of type `t`: it does not take
`t`, and `t` is not already `error`. -/
def misfits (k : Kind) (t : Ty) : Bool := !k.takes t && t != .error

/-- The type of an expression of this kind, other than a variable, whose operands have the types
`ts`: an operator is `error` unless it takes its operands, and a call is `error` when an argument
is. -/
def exprType (k : Kind) (ts : List Ty) : Ty :=
  match k, ts with
  | number, _ => .number
  | stringLit, _ => .string
  | neg, [t] => if neg.takes t then .number else .error
  | add, [l, r] => if add.takes l && add.takes r then Ty.plusResult l r else .error
  | sub, [l, r] => if sub.takes l && sub.takes r then .number else .error
  | mul, [l, r] => if mul.takes l && mul.takes r then .number else .error
  | div, [l, r] => if div.takes l && div.takes r then .number else .error
  | call, ts => if .error ∈ ts then .error else .string
  | _, _ => .unknown

/-- `+` of two operands it takes is never `error`. -/
theorem plusResult_ne_error {a b : Ty} (ha : a.isPlusOperand = true)
    (hb : b.isPlusOperand = true) : Ty.plusResult a b ≠ .error := by
  revert ha hb
  cases a <;> cases b <;> decide

/-- An expression other than a call whose operator takes all its operands is not `error`. -/
theorem exprType_ne_error {k : Kind} {ts : List Ty} (hk : k ≠ .call)
    (hts : ∀ t ∈ ts, k.takes t = true) : k.exprType ts ≠ .error := by
  unfold exprType
  split
  case h_4 l r =>
    have hl : add.takes l = true := hts l (by simp)
    have hr : add.takes r = true := hts r (by simp)
    simp [hl, hr, plusResult_ne_error hl hr]
  all_goals simp_all [takes]

theorem exprType_eq_error {k : Kind} {ts : List Ty} (hk : k ≠ .call)
    (h : k.exprType ts = .error) : ∃ t ∈ ts, k.takes t = false := by
  by_contra hall
  simp only [not_exists, not_and, Bool.not_eq_false] at hall
  exact exprType_ne_error hk hall h

end Kind

namespace Node

mutual

/-- The type typing gives an expression, bottom-up from the types `τ` gives its variables: a
variable has its type as an expression sees it. -/
def typeUnder (τ : Datum → Ty) : Node → Ty
  | mk .var f _ => (τ f.name).narrow
  | mk k _ cs => k.exprType (typesUnder τ cs)

/-- The types of a list of expressions. -/
def typesUnder (τ : Datum → Ty) : List Node → List Ty
  | [] => []
  | c :: cs => typeUnder τ c :: typesUnder τ cs

end

theorem typesUnder_eq_map (τ : Datum → Ty) (cs : List Node) :
    typesUnder τ cs = cs.map (typeUnder τ) := by
  induction cs with
  | nil => rfl
  | cons c cs ih => simp [typesUnder, ih]

@[simp] theorem typeUnder_var (τ : Datum → Ty) (f : Fields) (cs : List Node) :
    (Node.mk .var f cs).typeUnder τ = (τ f.name).narrow := by
  rw [typeUnder]

theorem typeUnder_mk (τ : Datum → Ty) {k : Kind} (hk : k ≠ .var) (f : Fields) (cs : List Node) :
    (Node.mk k f cs).typeUnder τ = k.exprType (cs.map (typeUnder τ)) := by
  rw [typeUnder.eq_2 τ k f cs hk, typesUnder_eq_map]

/-- The conflict reported for an operator of kind `k` at its operand `o`, in a text read from
`source`: the types the operator takes, the type of `o`, the name of `o` if it is a variable, and
the place of `o` in the text. -/
def mismatchAt (τ : Datum → Ty) (k : Kind) (o : Node) (source : Option String) : TypeMismatch :=
  { expected := k.expected
    found := o.typeUnder τ
    var := if o.kind = .var then o.fields.name else .none
    location := TypeMismatch.locate (some o) source }

mutual

/-- The first conflict typing finds in a tree: the first misapplied operator in the order the
walk finishes nodes (children in order, then the node), reported at its first misfitting operand,
left before right, and located in `source`, or in the text of the nearest enclosing text root. -/
def firstMismatch (τ : Datum → Ty) (source : Option String) : Node → Option TypeMismatch
  | mk .textRoot f cs => firstMismatchAll τ f.input cs
  | mk k _ cs => (firstMismatchAll τ source cs).or
      ((cs.find? fun o => k.misfits (o.typeUnder τ)).map fun o => mismatchAt τ k o source)

/-- The first conflict in a list of trees, in order. -/
def firstMismatchAll (τ : Datum → Ty) (source : Option String) : List Node → Option TypeMismatch
  | [] => none
  | c :: cs => (firstMismatch τ source c).or (firstMismatchAll τ source cs)

end

/-- Some operator of the tree is applied to an operand it misfits. -/
def Misapplied (τ : Datum → Ty) (n : Node) : Prop :=
  ∃ c ∈ n.walk, ∃ o ∈ c.children, c.kind.misfits (o.typeUnder τ) = true

section Spec

variable {τ : Datum → Ty}

theorem firstMismatch_mk {k : Kind} (hk : k ≠ .textRoot) (s : Option String) (f : Fields)
    (cs : List Node) :
    (Node.mk k f cs).firstMismatch τ s = (firstMismatchAll τ s cs).or
      ((cs.find? fun o => k.misfits (o.typeUnder τ)).map fun o => mismatchAt τ k o s) :=
  firstMismatch.eq_2 τ s k f cs hk

theorem firstMismatchAll_eq_none_iff {s : Option String} {cs : List Node} :
    firstMismatchAll τ s cs = none ↔ ∀ c ∈ cs, c.firstMismatch τ s = none := by
  induction cs with
  | nil => simp [firstMismatchAll]
  | cons c cs ih => simp [firstMismatchAll, ih]

theorem misapplied_mk {k : Kind} {f : Fields} {cs : List Node} :
    (Node.mk k f cs).Misapplied τ ↔
      (∃ o ∈ cs, k.misfits (o.typeUnder τ) = true) ∨ ∃ c ∈ cs, c.Misapplied τ := by
  simp only [Misapplied, mem_walk_mk]
  constructor
  · rintro ⟨c, rfl | ⟨d, hd, hc⟩, o, ho, hmis⟩
    · exact .inl ⟨o, ho, hmis⟩
    · exact .inr ⟨d, hd, c, hc, o, ho, hmis⟩
  · rintro (⟨o, ho, hmis⟩ | ⟨d, hd, c, hc, o, ho, hmis⟩)
    · exact ⟨_, .inl rfl, o, ho, hmis⟩
    · exact ⟨c, .inr ⟨d, hd, hc⟩, o, ho, hmis⟩

/-- A tree has a first conflict, in any text, exactly when one of its operators is misapplied. -/
theorem firstMismatch_eq_none_iff {s : Option String} {n : Node} :
    n.firstMismatch τ s = none ↔ ¬ n.Misapplied τ := by
  induction n using Node.induction generalizing s with
  | h k f cs ih =>
    rw [misapplied_mk, not_or, not_exists, not_exists]
    have hchildren : ∀ s', firstMismatchAll τ s' cs = none ↔ ∀ c ∈ cs, ¬ c.Misapplied τ :=
      fun s' => firstMismatchAll_eq_none_iff.trans (forall₂_congr fun c hc => ih c hc)
    by_cases hk : k = .textRoot
    · -- a text root is no operator: only its children can be misapplied
      subst hk
      simp [firstMismatch, hchildren, Kind.misfits, Kind.takes]
    · simp only [firstMismatch_mk hk, Option.or_eq_none_iff, hchildren, Option.map_eq_none_iff,
        List.find?_eq_none, not_and, Bool.not_eq_true]
      exact and_comm

/-- Typing reads a key: a node of the key of a plain node has its type. -/
theorem typeUnder_of_sameKey {a n : Node} (h : sameKey true a n = true) (hn : n.Plain) :
    a.typeUnder τ = n.typeUnder τ := by
  induction n using Node.induction generalizing a with
  | h k f cs ih =>
    obtain ⟨f', cs', rfl, -, hcs⟩ := sameKey_mk_right h
    have htypes : cs'.map (typeUnder τ) = cs.map (typeUnder τ) :=
      List.forall₂_eq_eq_eq ▸ List.forall₂_map_left_iff.2 (List.forall₂_map_right_iff.2
        (forall₂_imp_mem hcs fun _ c hc hkey => ih c hc hkey (hn.children c hc)))
    by_cases hk : k = .var
    · -- a variable reads its name, which the key holds
      subst hk
      have hname : f'.name = f.name := name_of_sameKey (k := .var) h hn rfl (by decide)
      rw [typeUnder_var, typeUnder_var, hname]
    · rw [typeUnder_mk τ hk, typeUnder_mk τ hk, htypes]

/-- A node of the key of a plain node is misapplied when the node is. -/
theorem Misapplied.of_sameKey {a n : Node} (h : sameKey true a n = true) (hn : n.Plain)
    (hmis : n.Misapplied τ) : a.Misapplied τ := by
  induction n using Node.induction generalizing a with
  | h k f cs ih =>
    obtain ⟨f', cs', rfl, -, hcs⟩ := sameKey_mk_right h
    rw [misapplied_mk] at hmis ⊢
    rcases hmis with ⟨o, ho, hmis⟩ | ⟨c, hc, hmis⟩
    · obtain ⟨o', ho', hkey⟩ := exists_of_forall₂_of_mem hcs ho
      exact .inl ⟨o', ho', by rw [typeUnder_of_sameKey hkey (hn.children o ho)]; exact hmis⟩
    · obtain ⟨c', hc', hkey⟩ := exists_of_forall₂_of_mem hcs hc
      exact .inr ⟨c', hc', ih c hc hkey (hn.children c hc) hmis⟩

theorem firstMismatch_leaf {k : Kind} (hk : k ≠ .textRoot) (s : Option String) (f : Fields) :
    (Node.mk k f []).firstMismatch τ s = none := by
  rw [firstMismatch_mk hk]
  rfl

/-- A kind that takes every operand adds no conflict of its own. -/
theorem firstMismatch_of_takesAll {k : Kind} (hk : k ≠ .textRoot) (hall : ∀ t, k.takes t = true)
    (s : Option String) (f : Fields) (cs : List Node) :
    (Node.mk k f cs).firstMismatch τ s = firstMismatchAll τ s cs := by
  have hnone : (cs.find? fun o => k.misfits (o.typeUnder τ)) = none :=
    List.find?_eq_none.2 fun o _ => by simp [Kind.misfits, hall]
  rw [firstMismatch_mk hk, hnone, Option.map_none, Option.or_none]

/-- A constraint holds no operator. -/
theorem IsConstraint.not_misapplied {c : Node} (hc : c.IsConstraint) : ¬ c.Misapplied τ := by
  cases hc with
  | ignore hx =>
    obtain ⟨f, x, rfl, -⟩ := hx
    simp [misapplied_mk, Kind.misfits, Kind.takes]
  | equality _ _ hx hv =>
    obtain ⟨f, x, rfl, -⟩ := hx
    cases hv <;> simp [misapplied_mk, Kind.misfits, Kind.takes]
  | inequality _ _ hx hv =>
    obtain ⟨f, x, rfl, -⟩ := hx
    subst hv
    simp [misapplied_mk, Kind.misfits, Kind.takes]

/-- The first conflict of a rule is the first one of its text, located in the text's own input:
its constraints hold no operator. -/
theorem firstMismatch_rule {f cf tf : Fields} {cs ts : List Node}
    (hcs : ∀ c ∈ cs, c.IsConstraint) (s : Option String) :
    (Node.mk .rule f [.mk .constraintRoot cf cs, .mk .textRoot tf ts]).firstMismatch τ s =
      firstMismatchAll τ tf.input ts := by
  have hroot : (Node.mk .constraintRoot cf cs).firstMismatch τ s = none := by
    rw [firstMismatch_of_takesAll (by decide) (fun _ => rfl), firstMismatchAll_eq_none_iff]
    exact fun c hc => firstMismatch_eq_none_iff.2 (hcs c hc).not_misapplied
  rw [firstMismatch_of_takesAll (by decide) (fun _ => rfl)]
  simp only [firstMismatchAll, hroot, Option.none_or, Option.or_none]
  rfl

theorem firstMismatch_neg (s : Option String) (f : Fields) (o : Node) :
    (Node.mk .neg f [o]).firstMismatch τ s = (o.firstMismatch τ s).or
      (if Kind.neg.misfits (o.typeUnder τ) then some (mismatchAt τ .neg o s) else none) := by
  rw [firstMismatch_mk (by decide)]
  by_cases h : Kind.neg.misfits (o.typeUnder τ) <;> simp [firstMismatchAll, h]

theorem firstMismatch_binary {k : Kind} (hk : k ≠ .textRoot) (s : Option String) (f : Fields)
    (l r : Node) :
    (Node.mk k f [l, r]).firstMismatch τ s = ((l.firstMismatch τ s).or (r.firstMismatch τ s)).or
      (if k.misfits (l.typeUnder τ) then some (mismatchAt τ k l s)
        else if k.misfits (r.typeUnder τ) then some (mismatchAt τ k r s) else none) := by
  rw [firstMismatch_mk hk]
  by_cases hl : k.misfits (l.typeUnder τ) <;> by_cases hr : k.misfits (r.typeUnder τ) <;>
    simp [firstMismatchAll, hl, hr]

/-- An operator or literal of type `error` has a misapplied operator: at itself, or in an operand
of type `error`. -/
theorem misapplied_of_exprType_error {k : Kind} {f : Fields} {cs : List Node} (hvar : k ≠ .var)
    (hcall : k ≠ .call) (herr : (Node.mk k f cs).typeUnder τ = .error)
    (ih : ∀ c ∈ cs, c.typeUnder τ = .error → c.Misapplied τ) :
    (Node.mk k f cs).Misapplied τ := by
  rw [typeUnder_mk τ hvar] at herr
  obtain ⟨t, ht, htakes⟩ := Kind.exprType_eq_error hcall herr
  obtain ⟨o, ho, rfl⟩ := List.mem_map.1 ht
  rw [misapplied_mk]
  by_cases hoerr : o.typeUnder τ = .error
  · exact .inr ⟨o, ho, ih o ho hoerr⟩
  · exact .inl ⟨o, ho, by simp [Kind.misfits, htakes, hoerr]⟩

/-- An expression has type `error` only through a misapplied operator, when no variable has type
`error`. -/
theorem IsExpr.misapplied_of_error {e : Node} (he : e.IsExpr) (hτ : ∀ v, τ v ≠ .error)
    (herr : e.typeUnder τ = .error) : e.Misapplied τ := by
  induction he with
  | number => simp [typeUnder_mk τ (k := .number) (by decide), Kind.exprType] at herr
  | stringLit => simp [typeUnder_mk τ (k := .stringLit) (by decide), Kind.exprType] at herr
  | @var f x _ =>
    rw [typeUnder_var] at herr
    exact absurd (Ty.narrow_eq_error herr) (hτ _)
  | @neg f o _ ih =>
    refine misapplied_of_exprType_error (by decide) (by decide) herr fun c hc => ?_
    rw [List.mem_singleton.1 hc]
    exact ih
  | @binary k f l r hk _ _ ihl ihr =>
    have hvar : k ≠ .var := by rintro rfl; cases hk
    have hcall : k ≠ .call := by rintro rfl; cases hk
    refine misapplied_of_exprType_error hvar hcall herr fun c hc => ?_
    rcases List.mem_pair.1 hc with rfl | rfl
    · exact ihl
    · exact ihr
  | @call f x args _ _ ih =>
    rw [typeUnder_mk τ (by decide)] at herr
    have hmem : Ty.error ∈ args.map (typeUnder τ) := by
      by_contra hnot
      simp [Kind.exprType, hnot] at herr
    obtain ⟨o, ho, hoerr⟩ := List.mem_map.1 hmem
    exact misapplied_mk.2 (.inr ⟨o, ho, ih o ho hoerr⟩)

end Spec

theorem IsRule.plain {r : Node} (h : r.IsRule) : r.Plain := by
  cases h with
  | @mk f cf tf cs ts hcs hts =>
    have hroot : (Node.mk .constraintRoot cf cs).Plain :=
      .mk (fun h => absurd h (by decide)) (fun h => absurd h (by decide)) fun c hc => (hcs c hc).plain
    exact .mk (fun h => absurd h (by decide)) (fun h => absurd h (by decide)) fun c hc => by
      rcases List.mem_pair.1 hc with rfl | rfl
      · exact hroot
      · exact (IsTranslation.text hts).plain

/-! ## Keys of well-formed trees -/

/-- A node has a key when its value and its name, where its kind carries them, can be keys and
its children have keys. -/
theorem keyed_of_data {k : Kind} {f : Fields} {cs : List Node}
    (hv : .value ∈ k.fields → f.value.unhashable? = none)
    (hn : .name ∈ k.fields → f.name.unhashable? = none) (hcs : ∀ c ∈ cs, c.unhashable? = none) :
    (Node.mk k f cs).unhashable? = none := by
  refine keyed_mk.2 ⟨fun fld hfld => ?_, hcs⟩
  -- only a value or a name can hold a list or a dictionary
  cases fld with
  | value => exact get_unhashable_of_datum (hv hfld)
  | name => exact get_unhashable_of_datum (hn hfld)
  | op => simp only [Fields.get]; cases f.op <;> rfl
  | pos => rfl
  | ty => simp only [Fields.get]; cases f.ty <;> rfl
  | const => simp only [Fields.get]; cases f.const <;> rfl
  | input => simp only [Fields.get]; cases f.input <;> rfl

/-- A node whose kind carries neither a value nor a name has a key when its children have. -/
theorem keyed_of_children {k : Kind} {f : Fields} {cs : List Node} (hv : .value ∉ k.fields)
    (hn : .name ∉ k.fields) (hcs : ∀ c ∈ cs, c.unhashable? = none) :
    (Node.mk k f cs).unhashable? = none :=
  keyed_of_data (fun h => absurd h hv) (fun h => absurd h hn) hcs

theorem IsExpr.keyed {e : Node} (he : e.IsExpr) : e.unhashable? = none := by
  induction he with
  | number hv => exact keyed_of_data (fun _ => by rw [hv]; rfl) (fun h => absurd h (by decide)) nofun
  | stringLit hv =>
    exact keyed_of_data (fun _ => by rw [hv]; rfl) (fun h => absurd h (by decide)) nofun
  | var hx => exact keyed_of_data (fun h => absurd h (by decide)) (fun _ => by rw [hx]; rfl) nofun
  | neg _ ih => exact keyed_of_children (by decide) (by decide) (by simpa using ih)
  | @binary k f l r hk _ _ ihl ihr =>
    have hfields : .value ∉ k.fields ∧ .name ∉ k.fields := by
      revert hk
      cases k <;> decide
    exact keyed_of_children hfields.1 hfields.2 (by simp [ihl, ihr])
  | call hx _ ih => exact keyed_of_data (fun h => absurd h (by decide)) (fun _ => by rw [hx]; rfl) ih

theorem IsText.keyed {t : Node} (ht : t.IsText) : t.unhashable? = none := by
  cases ht with
  | literal hv => exact keyed_of_data (fun _ => by rw [hv]; rfl) (fun h => absurd h (by decide)) nofun
  | textVar hx => exact keyed_of_data (fun h => absurd h (by decide)) (fun _ => by rw [hx]; rfl) nofun
  | textExpr he => exact keyed_of_children (by decide) (by decide) (by simpa using he.keyed)

theorem IsConstraint.keyed {c : Node} (hc : c.IsConstraint) : c.unhashable? = none := by
  have hident : ∀ {x : Node}, x.IsIdent → x.unhashable? = none := by
    rintro _ ⟨f, x, rfl, hx⟩
    exact keyed_of_data (fun h => absurd h (by decide)) (fun _ => by rw [hx]; rfl) nofun
  have hvalue : ∀ {v : Node}, v.IsValue → v.unhashable? = none := by
    intro v hv
    cases hv <;> exact keyed_of_data (fun _ => by simp [*]; rfl) (fun h => absurd h (by decide))
      nofun
  cases hc with
  | ignore hx => exact keyed_of_children (by decide) (by decide) (by simpa using hident hx)
  | equality _ _ hx hv =>
    exact keyed_of_children (by decide) (by decide) (by simp [hident hx, hvalue hv])
  | inequality _ _ hx hv hvv =>
    subst hv
    exact keyed_of_children (by decide) (by decide) (by simp [hident hx, hvalue (.number hvv ‹_›)])

/-- The tree of a well-formed translation has a key. -/
theorem IsTranslation.keyed {t : Node} (ht : t.IsTranslation) : t.unhashable? = none := by
  have htext : ∀ {f : Fields} {ts : List Node}, (∀ t ∈ ts, t.IsText) →
      (Node.mk .textRoot f ts).unhashable? = none := fun hts =>
    keyed_of_children (by decide) (by decide) fun t ht => (hts t ht).keyed
  cases ht with
  | text hts => exact htext hts
  | rules _ hrs =>
    refine keyed_of_children (by decide) (by decide) fun r hr => ?_
    obtain ⟨hcs, hts⟩ := hrs r hr
    refine keyed_of_children (by decide) (by decide) ?_
    simp only [List.mem_cons, List.not_mem_nil, or_false, forall_eq_or_imp, forall_eq]
    exact ⟨keyed_of_children (by decide) (by decide) fun c hc => (hcs c hc).keyed, htext hts⟩

/-- Every node of a plain tree is plain. -/
theorem Plain.of_mem_walk {n c : Node} (h : n.Plain) (hc : c ∈ n.walk) : c.Plain := by
  induction h with
  | @mk k f cs hleaf hname hcs ih =>
    rcases mem_walk_mk.1 hc with rfl | ⟨d, hd, hc⟩
    · exact .mk hleaf hname hcs
    · exact ih d hd hc

end Node

end Lingo
