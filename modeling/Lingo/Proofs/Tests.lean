import Lingo.Emit.Translation
import Lingo.Proofs.DeadCode
import Lingo.Proofs.Guards
import Lingo.Proofs.Keys

/-!
# What a constraint tests

A constraint `x op v` holds for parameters `ps` when parameter `x` is given and compares with `v`
as `op` says, by the comparison the emitted code runs (`Code.compareValues`); `!x` always holds,
and a rule is chosen when all its constraints hold (`Node.ruleHolds`).

The memoised passes may hand a rule a constraint list with the same key as its own but other
literals: `n = 1` where the rule said `n = 1.0`. Such a list tests exactly what the rule's own
list tests (`Node.rootTestsAs_of_sameKey`): keys agree only on equal strings and on numbers that
every number compares with alike, so every comparison comes out the same.
-/

namespace Lingo

namespace Code

/-- Whether comparison `op` of `w` with `v` holds; a comparison that raises does not. -/
def holdsBetween (op : CmpOp) (w v : Value) : Bool :=
  match compareValues op w v with
  | .ok r => r.truthy
  | .error _ => false

/-- The number a value stands for in a comparison: a truth value, an integer or a double. -/
def Value.num? : Value → Option Num
  | .scalar x => x.num?
  | _ => Option.none

/-- What comparing a value that stands for `p?` with the number `q` gives. -/
def numHolds (op : CmpOp) (p? : Option Num) (q : Num) : Bool :=
  match op with
  | .eq => p?.any (·.compare? q == some .eq)
  | .ne => !p?.any (·.compare? q == some .eq)
  | .isIn | .notIn => false
  | _ => p?.any fun p => holds op (p.compare? q)

theorem equal_num_right {a : Scalar} {q : Num} (ha : a.num? = some q) (w : Value) :
    w.equal (.scalar a) = w.num?.any (·.compare? q == some .eq) := by
  cases w with
  | scalar s =>
    simp only [Value.equal, Value.num?, Scalar.sameValue_num_right ha s]
    cases s.num? <;> rfl
  | _ => simp [Value.equal, Value.num?]

/-- Comparing with a number depends only on how the number compares. -/
theorem holdsBetween_num_right {a : Scalar} {q : Num} (ha : a.num? = some q) (op : CmpOp)
    (w : Value) : holdsBetween op w (.scalar a) = numHolds op w.num? q := by
  -- a number is not a string, so ordering it against a non-number raises
  have hnum : ∀ s, a ≠ .str s := by
    intro s hs
    subst hs
    simp [Scalar.num?] at ha
  cases op with
  | eq => simp [holdsBetween, compareValues, numHolds, equal_num_right ha]
  | ne => simp [holdsBetween, compareValues, numHolds, equal_num_right ha]
  | isIn => cases a <;> simp_all [holdsBetween, compareValues, contains, numHolds, Value.typeName]
  | notIn => cases a <;> simp_all [holdsBetween, compareValues, contains, numHolds, Value.typeName]
  | _ =>
    simp only [holdsBetween, compareValues, numHolds]
    cases w with
    | scalar x =>
      simp only [order, Value.num?, ha]
      cases hx : x.num? with
      | some p => simp
      | none => cases a <;> simp_all
    | _ => simp [order, Value.num?]

/-- Values that agree as keys are compared alike with every value. -/
theorem holdsBetween_congr {a b : Scalar} (h : Datum.agree true (.scalar a) (.scalar b) = true)
    (op : CmpOp) (w : Value) : holdsBetween op w (.scalar a) = holdsBetween op w (.scalar b) := by
  rcases Datum.agree_scalar_cases h with rfl | ⟨qa, qb, ha, hb, hq⟩
  · rfl
  · rw [holdsBetween_num_right ha, holdsBetween_num_right hb]
    cases op <;> simp only [numHolds, hq]

end Code

theorem forall₂_imp_mem {α β : Type} {R S : α → β → Prop} {l : List α} {l' : List β}
    (h : List.Forall₂ R l l') (hS : ∀ a b, b ∈ l' → R a b → S a b) : List.Forall₂ S l l' := by
  induction h with
  | nil => exact .nil
  | cons hab _ ih =>
    exact .cons (hS _ _ List.mem_cons_self hab) (ih fun a b hb => hS a b (List.mem_cons_of_mem _ hb))

namespace Datum

/-- What agrees with a number is a number. -/
theorem agree_isNumber {s s' : Scalar} (h : agree true (.scalar s') (.scalar s) = true)
    (hs : s.isNumber = true) : s'.isNumber = true := by
  rcases agree_scalar_cases h with rfl | ⟨qa, -, ha, -, -⟩
  · exact hs
  · simp [Scalar.isNumber, ha]

end Datum

namespace Node

open Code

theorem sameKey_leaf {n : Node} {k : Kind} {f : Fields} (h : sameKey true n (.mk k f []) = true) :
    ∃ f', n = .mk k f' [] ∧ ∀ fld ∈ k.fields, Fields.agreeOn true f' f fld = true := by
  obtain ⟨f', cs', rfl, hf, hcs⟩ := sameKey_mk_right h
  cases List.forall₂_nil_right_iff.1 hcs
  exact ⟨f', rfl, hf⟩

/-- A node with the key of a variable of a constraint is that variable. -/
theorem sameKey_ident {x' x : Node} (h : sameKey true x' x = true) (hx : x.IsIdent) :
    x'.IsIdent ∧ x'.fields.name = x.fields.name := by
  obtain ⟨f, s, rfl, hs⟩ := hx
  obtain ⟨f', rfl, hf⟩ := sameKey_leaf h
  have hname : f'.name = .str s := by
    have hagree := hf .name (by decide)
    rwa [Fields.agreeOn, hs, Datum.agree_str_right] at hagree
  exact ⟨⟨f', s, rfl, hname⟩, hname.trans hs.symm⟩

theorem IsValue.scalar {v : Node} (hv : v.IsValue) : ∃ s, v.fields.value = .scalar s := by
  cases hv with
  | number hv _ => exact ⟨_, hv⟩
  | enum hv => exact ⟨_, hv⟩
  | gender hv _ => exact ⟨_, hv⟩

/-- A node with the key of a value of a constraint is a value of the same kind, which agrees with
it. -/
theorem sameKey_value {v' v : Node} (h : sameKey true v' v = true) (hv : v.IsValue) :
    v'.IsValue ∧ v'.kind = v.kind ∧ Datum.agree true v'.fields.value v.fields.value = true := by
  have hvalue : ∀ {k : Kind} {f f' : Fields}, (∀ fld ∈ k.fields, Fields.agreeOn true f' f fld = true) →
      .value ∈ k.fields → Datum.agree true f'.value f.value = true :=
    fun hf hk => hf .value hk
  cases hv with
  | number hval hs =>
    obtain ⟨f', rfl, hf⟩ := sameKey_leaf h
    have hagree := hvalue hf (by decide)
    rw [hval] at hagree
    obtain ⟨s', hs'⟩ := Datum.agree_scalar_right hagree
    rw [hs'] at hagree
    exact ⟨.number hs' (Datum.agree_isNumber hagree hs), rfl, by simpa [Node.fields, hval, hs'] using hagree⟩
  | enum hval =>
    obtain ⟨f', rfl, hf⟩ := sameKey_leaf h
    have hagree := hvalue hf (by decide)
    rw [hval, Datum.agree_str_right] at hagree
    exact ⟨.enum hagree, rfl, by simp [Node.fields, hval, hagree, Datum.agree_str_right]⟩
  | gender hval hs =>
    obtain ⟨f', rfl, hf⟩ := sameKey_leaf h
    have hagree := hvalue hf (by decide)
    rw [hval, Datum.agree_str_right] at hagree
    exact ⟨.gender hagree hs, rfl, by simp [Node.fields, hval, hagree, Datum.agree_str_right]⟩

/-- The variable a constraint tests: the name of its first child. -/
def testedVar (c : Node) : Datum :=
  match c.children with
  | x :: _ => x.fields.name
  | [] => .none

/-- Whether a constraint holds for parameters `ps`: `!x` always holds, and `x op v` holds when
parameter `x` is given and compares with `v` as `op` says. -/
def holdsFor (ps : List (String × Value)) (c : Node) : Bool :=
  match c.kind, c.children, Emit.cmpOf c.fields.op with
  | .equality, [x, v], some op | .inequality, [x, v], some op =>
      match paramOf ps x.fields.name with
      | some w => holdsBetween op w (Value.ofDatum v.fields.value)
      | none => false
  | _, _, _ => true

/-- Whether a rule is chosen for parameters `ps`: all its constraints hold. -/
def ruleHolds (ps : List (String × Value)) (rule : Node) : Bool :=
  match rule.children with
  | cs :: _ => cs.children.all (holdsFor ps)
  | [] => true

/-- Constraint `c'` tests what `c` tests: it is well formed, of the same kind, on the same
variable, and holds for the same parameters. -/
structure TestsAs (c' c : Node) : Prop where
  isConstraint : c'.IsConstraint
  kind : c'.kind = c.kind
  var : c'.testedVar = c.testedVar
  holds : ∀ ps, c'.holdsFor ps = c.holdsFor ps

theorem TestsAs.refl {c : Node} (hc : c.IsConstraint) : TestsAs c c :=
  ⟨hc, rfl, rfl, fun _ => rfl⟩

theorem TestsAs.trans {c c' c'' : Node} (h : TestsAs c'' c') (h' : TestsAs c' c) : TestsAs c'' c :=
  ⟨h.isConstraint, h.kind.trans h'.kind, h.var.trans h'.var, fun ps => (h.holds ps).trans (h'.holds ps)⟩

/-- A comparison of `x` with `v` by `o` holds exactly when the parameter `x` is given and compares
with the value by `o`. -/
theorem holdsFor_compare {k : Kind} {f : Fields} {x v : Node} {o : CmpOp}
    (hk : k = .equality ∨ k = .inequality) (hop : Emit.cmpOf f.op = some o)
    (ps : List (String × Value)) :
    holdsFor ps (.mk k f [x, v]) =
      match paramOf ps x.fields.name with
      | some w => holdsBetween o w (Value.ofDatum v.fields.value)
      | none => false := by
  rcases hk with rfl | rfl <;> simp only [holdsFor, Node.kind, Node.children, Node.fields, hop]

theorem cmpOf_some {op : String} (h : op ∈ ["=", "!="] ∨ op ∈ ["<", "<=", ">", ">="]) :
    ∃ o, Emit.cmpOf (some op) = some o := by
  simp only [List.mem_cons, List.not_mem_nil, or_false] at h
  rcases h with (rfl | rfl) | (rfl | rfl | rfl | rfl) <;> exact ⟨_, rfl⟩

/-- The two children of a node with the key of a node of two children. -/
theorem forall₂_pair {x v : Node} {cs : List Node}
    (h : List.Forall₂ (fun a b => sameKey true a b = true) cs [x, v]) :
    ∃ x' v', cs = [x', v'] ∧ sameKey true x' x = true ∧ sameKey true v' v = true := by
  cases h with
  | cons hxx hrest =>
    cases hrest with
    | cons hvv hnil =>
      cases hnil
      exact ⟨_, _, rfl, hxx, hvv⟩

/-- A comparison with the key of a well-formed comparison compares the same variable by the same
operator, with a value that agrees. -/
theorem sameKey_compare {c : Node} {k : Kind} {f : Fields} {x v : Node}
    (h : sameKey true c (.mk k f [x, v]) = true) (hk : k = .equality ∨ k = .inequality) :
    ∃ f' x' v', c = .mk k f' [x', v'] ∧ f'.op = f.op ∧ sameKey true x' x = true ∧
      sameKey true v' v = true := by
  obtain ⟨f', cs', rfl, hf, hcs⟩ := sameKey_mk_right h
  obtain ⟨x', v', rfl, hx', hv'⟩ := forall₂_pair hcs
  have hop : Fields.agreeOn true f' f .op = true := hf .op (by rcases hk with rfl | rfl <;> decide)
  simp only [Fields.agreeOn, beq_iff_eq] at hop
  exact ⟨f', x', v', rfl, hop, hx', hv'⟩

/-- A node with the key of a well-formed constraint tests what it tests. -/
theorem testsAs_of_sameKey {c' c : Node} (h : sameKey true c' c = true) (hc : c.IsConstraint) :
    TestsAs c' c := by
  cases hc with
  | ignore hx =>
    obtain ⟨f', cs', rfl, -, hcs⟩ := sameKey_mk_right h
    obtain ⟨x', hx', rfl⟩ : ∃ x', sameKey true x' _ = true ∧ cs' = [x'] := by
      cases hcs with
      | cons hxx hnil => cases hnil; exact ⟨_, hxx, rfl⟩
    obtain ⟨hid, hname⟩ := sameKey_ident hx' hx
    exact ⟨.ignore hid, rfl, hname, fun _ => rfl⟩
  | equality hop hops hx hv =>
    obtain ⟨f', x', v', rfl, hop', hx', hv'⟩ := sameKey_compare h (.inl rfl)
    obtain ⟨o, ho⟩ := cmpOf_some (.inl hops)
    obtain ⟨hid, hname⟩ := sameKey_ident hx' hx
    obtain ⟨hval, -, hagree⟩ := sameKey_value hv' hv
    obtain ⟨s, hs⟩ := hv.scalar
    obtain ⟨s', hs'⟩ := hval.scalar
    refine ⟨.equality (hop'.trans hop) hops hid hval, rfl, hname, fun ps => ?_⟩
    rw [holdsFor_compare (.inl rfl) (by rw [hop', hop, ho]), holdsFor_compare (.inl rfl) (by rw [hop, ho]),
      hname, hs, hs']
    rw [hs, hs'] at hagree
    simp only [Value.ofDatum, holdsBetween_congr hagree]
  | inequality hop hops hx hv hvv hs =>
    obtain ⟨f', x', v', rfl, hop', hx', hv'⟩ := sameKey_compare h (.inr rfl)
    obtain ⟨o, ho⟩ := cmpOf_some (.inr hops)
    subst hv
    obtain ⟨hid, hname⟩ := sameKey_ident hx' hx
    obtain ⟨hval, -, hagree⟩ := sameKey_value hv' (.number hvv hs)
    obtain ⟨vf', rfl, -⟩ := sameKey_leaf hv'
    obtain ⟨s', hs', hnum'⟩ : ∃ s', vf'.value = .scalar s' ∧ s'.isNumber = true := by
      cases hval with
      | number hv hn => exact ⟨_, hv, hn⟩
    refine ⟨.inequality (hop'.trans hop) hops hid rfl hs' hnum', rfl, hname, fun ps => ?_⟩
    rw [holdsFor_compare (.inr rfl) (by rw [hop', hop, ho]), holdsFor_compare (.inr rfl) (by rw [hop, ho]),
      hname]
    simp only [Node.fields, hs', hvv] at hagree ⊢
    simp only [Value.ofDatum, holdsBetween_congr hagree]

/-- Constraint list `r'` tests what `r` tests, constraint by constraint. -/
def RootTestsAs (r' r : Node) : Prop :=
  r'.kind = .constraintRoot ∧ List.Forall₂ TestsAs r'.children r.children

theorem RootTestsAs.refl {f : Fields} {cs : List Node} (hcs : ∀ c ∈ cs, c.IsConstraint) :
    RootTestsAs (.mk .constraintRoot f cs) (.mk .constraintRoot f cs) :=
  ⟨rfl, List.forall₂_same.2 fun c hc => TestsAs.refl (hcs c hc)⟩

theorem RootTestsAs.trans {r r' r'' : Node} (h : RootTestsAs r'' r') (h' : RootTestsAs r' r) :
    RootTestsAs r'' r :=
  ⟨h.1, forall₂_trans (fun _ _ _ _ => TestsAs.trans) h.2 h'.2⟩

/-- A node with the key of a well-formed constraint list tests what it tests. -/
theorem rootTestsAs_of_sameKey {r : Node} {f : Fields} {cs : List Node}
    (h : sameKey true r (.mk .constraintRoot f cs) = true) (hcs : ∀ c ∈ cs, c.IsConstraint) :
    RootTestsAs r (.mk .constraintRoot f cs) := by
  obtain ⟨f', cs', rfl, -, hcs'⟩ := sameKey_mk_right h
  exact ⟨rfl, forall₂_imp_mem hcs' fun _ _ hb hab => testsAs_of_sameKey hab (hcs _ hb)⟩

theorem RootTestsAs.isCatchAll {r' r : Node} (h : RootTestsAs r' r) :
    r'.isCatchAll = r.isCatchAll := by
  obtain ⟨-, h⟩ := h
  unfold Node.isCatchAll
  generalize r'.children = l' at h ⊢
  generalize r.children = l at h ⊢
  induction h with
  | nil => rfl
  | cons hab _ ih => simp only [List.all_cons, hab.kind, ih]

theorem RootTestsAs.holds {r' r : Node} (h : RootTestsAs r' r) (ps : List (String × Value)) :
    r'.children.all (holdsFor ps) = r.children.all (holdsFor ps) := by
  obtain ⟨-, h⟩ := h
  generalize r'.children = l' at h ⊢
  generalize r.children = l at h ⊢
  induction h with
  | nil => rfl
  | cons hab _ ih => simp only [List.all_cons, hab.holds ps, ih]

end Node

end Lingo
