import Lingo.Proofs.VariableTypes

/-!
# Declared parameter types and the arguments of calls

A function can be declared with parameter types, in the compile options or in the map itself.
Inference then asks each argument for its declared type, and that constrains a variable only: a
literal, a call or an operator passed as an argument records no use, and typing never compares
an argument with the declaration.

So in every translation that compiles against a map inference runs on, each variable passed
where a parameter type is declared is typed with a type that merges with the declared one without
conflict (`TypeMap.declared_variable_arguments_fit`). A string literal passed where a number is
declared compiles all the same (`TypeMap.literal_argument_unchecked`).

The proof carries a fact about calls through the typing walk (`Node.KeepsCalls`): the calls of the
source fit the map (`Node.CallsFit`), typing keeps that fact and puts each variable's type on it
(`Node.VarsTyped`), and the two give the typed tree's arguments (`Node.CallsFit.declaredArgsFit`).
-/

namespace Lingo

namespace Ty

/-- A type among those joined leaves the join as it is. -/
theorem merge_join_of_mem {t : Ty} {ts : List Ty} (h : t ∈ ts) : t.merge (join ts) = join ts := by
  rw [join_perm (List.perm_cons_erase h), join_cons, ← merge_assoc, merge_self]

/-- A type that a variable's type takes without conflict is still taken once an expression sees
the variable: enums and genders take strings. -/
theorem merge_narrow_ne_error {t j : Ty} (hj : j ≠ error) (h : t.merge j = j) :
    t.merge j.narrow ≠ error := by
  revert hj h
  cases t <;> cases j <;> decide

end Ty

namespace Node

theorem mem_walk_mk {c : Node} {k : Kind} {f : Fields} {cs : List Node} :
    c ∈ (Node.mk k f cs).walk ↔ c = .mk k f cs ∨ ∃ d ∈ cs, c ∈ d.walk := by
  simp only [walk, List.mem_cons, List.mem_flatten, List.mem_map]
  constructor
  · rintro (h | ⟨_, ⟨d, hd, rfl⟩, hc⟩)
    · exact .inl h
    · exact .inr ⟨d, hd, hc⟩
  · rintro (h | ⟨d, hd, hc⟩)
    · exact .inl h
    · exact .inr ⟨_, ⟨d, hd, rfl⟩, hc⟩

/-- No call anywhere in a tree. -/
def CallFree (n : Node) : Prop := ∀ c ∈ n.walk, c.kind ≠ .call

theorem callFree_mk {k : Kind} {f : Fields} {cs : List Node} :
    (Node.mk k f cs).CallFree ↔ k ≠ .call ∧ ∀ c ∈ cs, c.CallFree := by
  constructor
  · intro h
    exact ⟨h _ (mem_walk_mk.2 (.inl rfl)), fun c hc d hd => h d (mem_walk_mk.2 (.inr ⟨c, hc, hd⟩))⟩
  · rintro ⟨hk, hcs⟩ d hd
    rcases mem_walk_mk.1 hd with rfl | ⟨c, hc, hdc⟩
    · exact hk
    · exact hcs c hc d hdc

/-- Nodes of one key have calls in the same places. -/
theorem CallFree.of_sameKey {a b : Node} (h : sameKey true a b = true) (hb : b.CallFree) :
    a.CallFree := by
  induction a using Node.induction generalizing b with
  | h k f cs ih =>
    obtain ⟨kb, fb, csb⟩ := b
    obtain ⟨rfl, -, hcs⟩ := (sameKey_mk true _ _ _ _ _ _).1 h
    obtain ⟨hk, hcsb⟩ := callFree_mk.1 hb
    refine callFree_mk.2 ⟨hk, fun c hc => ?_⟩
    obtain ⟨c', hc', hkey⟩ := exists_of_forall₂_left hcs hc
    exact ih c hc hkey (hcsb c' hc')

theorem forall₂_getElem? {α β : Type} {R : α → β → Prop} {l : List α} {l' : List β}
    (h : List.Forall₂ R l l') {i : Nat} {a : α} (ha : l[i]? = some a) :
    ∃ b, l'[i]? = some b ∧ R a b := by
  induction h generalizing i with
  | nil => simp at ha
  | cons hab _ ih =>
    cases i with
    | zero =>
      simp only [List.getElem?_cons_zero, Option.some.injEq] at ha
      subst ha
      exact ⟨_, rfl, hab⟩
    | succ i => exact ih (by simpa using ha)

section Calls

variable {τ : Datum → Option Ty} {g : Datum → Option (List Ty)}

/-- Every call of `n` lies where typing descends (in no constraint list, and below no literal or
variable) and passes, at each position its function declares a parameter type for under `g`, no
variable or a variable whose type under `τ`, as an expression sees it, merges with the declared
type without conflict. -/
inductive CallsFit (τ : Datum → Option Ty) (g : Datum → Option (List Ty)) : Node → Prop
  | kept {k : Kind} {f : Fields} {cs : List Node}
      (hk : k ∈ [.var, .textVar, .constraintRoot, .literal, .number, .stringLit])
      (hcs : ∀ c ∈ cs, c.CallFree) : CallsFit τ g (.mk k f cs)
  | rule {f : Fields} {c t : Node} (hc : c.CallFree) (ht : CallsFit τ g t) :
      CallsFit τ g (.mk .rule f [c, t])
  | node {k : Kind} {f : Fields} {cs : List Node}
      (hk : k ∉ [.var, .textVar, .constraintRoot, .literal, .number, .stringLit, .rule])
      (hcall : k = .call → ∀ ts, g f.name = some ts → ∀ (i : Nat) (a : Node) (t : Ty), cs[i]? = some a →
        ts[i]? = some t → a.kind = .var → ∃ j, τ a.fields.name = some j ∧ t.merge j.narrow ≠ .error)
      (hcs : ∀ c ∈ cs, CallsFit τ g c) : CallsFit τ g (.mk k f cs)

/-- Every call of the typed tree `r` passes, at each position its function declares a parameter
type for under `g`, no variable or a variable typed with a type that merges with the declared one
without conflict. -/
def DeclaredArgsFit (g : Datum → Option (List Ty)) (r : Node) : Prop :=
  ∀ c ∈ r.walk, c.kind = .call → ∀ ts, g c.fields.name = some ts →
    ∀ (i : Nat) (a : Node) (t : Ty), c.children[i]? = some a → ts[i]? = some t → a.kind = .var →
      ∃ ty, a.fields.ty = some ty ∧ t.merge ty ≠ .error

/-- A node of the key of a plain node whose calls fit has calls that fit: they call the same
functions with variables of the same names in the same places. -/
theorem CallsFit.of_sameKey {a b : Node} (h : sameKey true a b = true) (hb : b.Plain)
    (hfit : b.CallsFit τ g) : a.CallsFit τ g := by
  induction hfit generalizing a with
  | kept hk hcs =>
    obtain ⟨f', cs', rfl, -, hkeys⟩ := sameKey_mk_right h
    refine .kept hk fun c hc => ?_
    obtain ⟨c', hc', hkey⟩ := exists_of_forall₂_left hkeys hc
    exact (hcs c' hc').of_sameKey hkey
  | rule hc _ ih =>
    obtain ⟨f', cs', rfl, -, hkeys⟩ := sameKey_mk_right h
    rcases hkeys with _ | ⟨hkc, _ | ⟨hkt, hnil⟩⟩
    cases hnil
    exact .rule (hc.of_sameKey hkc) (ih hkt (hb.children _ (by simp)))
  | @node k f cs hk hcall _ ih =>
    obtain ⟨f', cs', rfl, -, hkeys⟩ := sameKey_mk_right h
    refine .node hk (fun hkc ts hts i a' t ha' ht hv => ?_) fun c' hc' => ?_
    · -- the argument of `b` in the same place reads a variable of the same name
      subst hkc
      obtain ⟨a, ha, hkey⟩ := forall₂_getElem? hkeys ha'
      have hva : a.kind = .var := (kind_of_sameKey hkey).symm.trans hv
      have hname : f'.name = f.name := name_of_sameKey (k := .call) h hb rfl rfl
      rw [name_of_sameKey (k := .var) hkey (hb.children a (List.mem_of_getElem? ha)) hva rfl]
      exact hcall rfl ts (hname ▸ hts) i a t ha ht hva
    · obtain ⟨c, hc, hkey⟩ := exists_of_forall₂_left hkeys hc'
      exact ih c hc hkey (hb.children c hc)

/-- What typing keeps of a plain node in its typed form: the kind, a variable's name, the absence
of calls and the fit of calls. -/
def KeepsCalls (τ : Datum → Option Ty) (g : Datum → Option (List Ty)) (n r : Node) : Prop :=
  n.Plain → r.kind = n.kind ∧ (n.kind = .var → r.fields.name = n.fields.name) ∧
    (n.CallFree → r.CallFree) ∧ (n.CallsFit τ g → r.CallsFit τ g)

theorem KeepsCalls.refl (n : Node) : KeepsCalls τ g n n :=
  fun _ => ⟨rfl, fun _ => rfl, id, id⟩

theorem KeepsCalls.of_sameKey {a n r : Node} (h : KeepsCalls τ g a r)
    (hkey : sameKey true a n = true) : KeepsCalls τ g n r := by
  intro hn
  obtain ⟨hk, hname, hfree, hfit⟩ := h (Plain.of_sameKey hkey hn).1
  refine ⟨hk.trans (kind_of_sameKey hkey), fun hv => ?_, fun hf => hfree (hf.of_sameKey hkey),
    fun hf => hfit (hf.of_sameKey hkey hn)⟩
  exact (hname ((kind_of_sameKey hkey).trans hv)).trans (name_of_sameKey (k := .var) hkey hn hv rfl)

/-- A node put back together from children that keep their calls, with the fields typing gives
it, keeps its calls. -/
theorem KeepsCalls.rebuild {m : TypeMap} {k : Kind} {f f' : Fields} {cs cs' : List Node}
    {r : Node} (hr : (Node.mk k f cs).rebuild cs' f' = .ok r)
    (hcs : List.Forall₂ (fun r c => KeepsCalls τ g c r) cs' cs) (hf : Typing.Retyped m k f f') :
    KeepsCalls τ g (.mk k f cs) r := by
  rcases Node.rebuild_cases hr with ⟨rfl, -⟩ | rfl
  · exact KeepsCalls.refl _
  intro hn
  have hchildren : List.Forall₂ (fun r c => r.kind = c.kind ∧
      (c.kind = .var → r.fields.name = c.fields.name) ∧ (c.CallFree → r.CallFree) ∧
        (c.CallsFit τ g → r.CallsFit τ g)) cs' cs :=
    forall₂_imp_mem hcs fun _ c hc h => h (hn.children c hc)
  have hfree : (∀ c ∈ cs, c.CallFree) → ∀ c' ∈ cs', c'.CallFree := fun hcsf c' hc' =>
    let ⟨c, hc, hr'⟩ := exists_of_forall₂_left hchildren hc'
    hr'.2.2.1 (hcsf c hc)
  have hname : f'.name = f.name := by rw [hf.fields]
  refine ⟨rfl, fun _ => hname, fun hcf => ?_, fun hfit => ?_⟩
  · obtain ⟨hk, hcsf⟩ := callFree_mk.1 hcf
    exact callFree_mk.2 ⟨hk, hfree hcsf⟩
  · cases hfit with
    | kept hk hcsf => exact .kept hk (hfree hcsf)
    | rule hc ht =>
      rcases hchildren with _ | ⟨hc', _ | ⟨ht', hnil⟩⟩
      cases hnil
      exact .rule (hc'.2.2.1 hc) (ht'.2.2.2 ht)
    | node hk hcall hcsf =>
      refine .node hk (fun hkc ts hts i a' t ha' ht hv => ?_) fun c' hc' => ?_
      · -- typing keeps the kind and the name of every argument
        obtain ⟨a, ha, hka, hna, -, -⟩ := forall₂_getElem? hchildren ha'
        have hva : a.kind = .var := hka ▸ hv
        rw [hna hva]
        exact hcall hkc ts (hname ▸ hts) i a t ha ht hva
      · obtain ⟨c, hc, hr'⟩ := exists_of_forall₂_left hchildren hc'
        exact hr'.2.2.2 (hcsf c hc)

theorem VarsTyped.rule_text {f : Fields} {c t : Node} (h : (Node.mk .rule f [c, t]).VarsTyped τ) :
    t.VarsTyped τ := by
  cases h with
  | rule ht => exact ht
  | node _ hcs => exact hcs t (by simp)
  | kept hk => simp at hk

theorem VarsTyped.children {k : Kind} {f : Fields} {cs : List Node}
    (h : (Node.mk k f cs).VarsTyped τ)
    (hk : k ∉ [.var, .textVar, .constraintRoot, .literal, .number, .stringLit, .rule]) :
    ∀ c ∈ cs, c.VarsTyped τ := by
  cases h with
  | node _ hcs => exact hcs
  | kept hk' => simp_all
  | var | textVar | rule => simp at hk

/-- The typed form of a tree whose calls fit `τ`, with every variable typed from `τ`, passes
variables of fitting types wherever a parameter type is declared. -/
theorem CallsFit.declaredArgsFit {r : Node} (hfit : r.CallsFit τ g) (hty : r.VarsTyped τ) :
    r.DeclaredArgsFit g := by
  induction hfit with
  | @kept k f cs hk hcs =>
    intro c hc hcall
    rcases mem_walk_mk.1 hc with rfl | ⟨d, hd, hcd⟩
    · subst hcall
      simp at hk
    · exact absurd hcall (hcs d hd c hcd)
  | rule hc₀ _ ih =>
    intro c hc hcall
    rcases mem_walk_mk.1 hc with rfl | ⟨d, hd, hcd⟩
    · cases hcall
    · rcases List.mem_pair.1 hd with rfl | rfl
      · exact absurd hcall (hc₀ c hcd)
      · exact ih hty.rule_text c hcd hcall
  | @node k f cs hk hcall _ ih =>
    have hchildren := hty.children hk
    intro c hc hcallc
    rcases mem_walk_mk.1 hc with rfl | ⟨d, hd, hcd⟩
    · intro ts hts i a t ha ht hv
      obtain ⟨j, hj, hne⟩ := hcall hcallc ts hts i a t ha ht hv
      -- a variable argument carries its type as an expression sees it
      refine ⟨j.narrow, ?_, hne⟩
      obtain ⟨ka, fa, csa⟩ := a
      cases hchildren _ (List.mem_of_getElem? ha) with
      | var hty' =>
        show fa.ty = _
        rw [hty', show τ fa.name = some j from hj]
        rfl
      | _ => simp_all [kind]
    · exact ih d hd (hchildren d hd) c hcd hcallc

end Calls

section Uses

/-! ## The calls of a well-formed translation fit a map that takes its uses -/

variable {τ : Datum → Option Ty} {g : Datum → Option (List Ty)} {us : List (Datum × Ty)}

/-- Every use asks of its variable a type that the variable's type under `τ`, as an expression
sees it, merges with without conflict. -/
def UsesFit (τ : Datum → Option Ty) (us : List (Datum × Ty)) : Prop :=
  ∀ s t, (Datum.str s, t) ∈ us → ∃ j, τ (.str s) = some j ∧ t.merge j.narrow ≠ .error

/-- The uses an argument records, asking for its declared type, are among those of the call. -/
theorem uses_sub_usesArgs_getElem? {cs : List Node} {i j : Nat} {c : Node} (hc : cs[i]? = some c)
    (types : Option (List Ty)) :
    ∀ p ∈ c.uses g (types.bind (·[j + i]?)), p ∈ Node.usesArgs g types j cs := by
  induction cs generalizing i j with
  | nil => simp at hc
  | cons d rest ih =>
    simp only [Node.usesArgs]
    cases i with
    | zero =>
      simp only [List.getElem?_cons_zero, Option.some.injEq] at hc
      subst hc
      exact fun p hp => List.mem_append_left _ hp
    | succ i =>
      intro p hp
      refine List.mem_append_right _ (ih (j := j + 1) (by simpa using hc) p ?_)
      rwa [Nat.add_right_comm, Nat.add_assoc]

theorem IsExpr.callsFit (hfit : UsesFit τ us) {e : Node} (he : e.IsExpr) :
    ∀ ctx, (∀ p ∈ e.uses g ctx, p ∈ us) → e.CallsFit τ g := by
  induction he with
  | number | stringLit | var => exact fun _ _ => .kept (by decide) fun _ h => nomatch h
  | @neg f e _ ih =>
    refine fun ctx hsub => .node (by decide) (fun h => absurd h (by decide)) fun c hc => ?_
    rw [List.mem_singleton.1 hc]
    obtain ⟨ctx', -, hsub'⟩ := operand_uses (g := g) (f := f) (k := .neg) (by decide)
      (List.mem_singleton_self e) ctx
    exact ih ctx' fun p hp => hsub p (hsub' p hp)
  | @binary k f l r hk _ _ ihl ihr =>
    have hop : k ∈ [.neg, .add, .sub, .mul, .div] := by
      rcases Kind.isBinary_cases hk with rfl | rfl | rfl | rfl <;> decide
    have hnode : k ∉ [.var, .textVar, .constraintRoot, .literal, .number, .stringLit, .rule] := by
      rcases Kind.isBinary_cases hk with rfl | rfl | rfl | rfl <;> decide
    refine fun ctx hsub => .node hnode (fun h => by simp [h] at hop) fun c hc => ?_
    obtain ⟨ctx', -, hsub'⟩ := operand_uses (g := g) (f := f) hop hc ctx
    rcases List.mem_pair.1 hc with rfl | rfl
    · exact ihl ctx' fun p hp => hsub p (hsub' p hp)
    · exact ihr ctx' fun p hp => hsub p (hsub' p hp)
  | @call f x args _ hargs ih =>
    intro ctx hsub
    refine .node (by decide) (fun _ ts hts i a t ha ht hv => ?_) fun a ha => ?_
    · -- a variable argument asks for its declared type
      obtain ⟨s, hs, huses⟩ := (hargs a (List.mem_of_getElem? ha)).var_use (g := g) hv
      have hin := uses_sub_usesArgs_getElem? (g := g) (j := 0) ha (g f.name) (.str s, t)
        (by simp [hts, ht, huses])
      obtain ⟨j, hj, hne⟩ := hfit s t (hsub _ (by simpa only [Node.uses] using hin))
      exact ⟨j, hs ▸ hj, hne⟩
    · obtain ⟨ctx', hsub'⟩ := uses_sub_usesArgs (g := g) ha (g f.name) 0
      exact ih a ha ctx' fun p hp => hsub p (by simp only [Node.uses]; exact hsub' p hp)

theorem IsText.callsFit (hfit : UsesFit τ us) {t : Node} (ht : t.IsText) (ctx : Option Ty)
    (hsub : ∀ p ∈ t.uses g ctx, p ∈ us) : t.CallsFit τ g := by
  cases ht with
  | literal => exact .kept (by decide) fun _ h => nomatch h
  | textVar => exact .kept (by decide) fun _ h => nomatch h
  | textExpr he =>
    refine .node (by decide) (fun h => absurd h (by decide)) fun c hc => ?_
    rw [List.mem_singleton.1 hc]
    refine he.callsFit hfit none fun p hp => hsub p ?_
    simp only [Node.uses]
    exact uses_sub_usesAll (List.mem_singleton_self _) _ p hp

/-- A constraint names a variable and compares it with a value: it calls nothing. -/
theorem IsConstraint.callFree {c : Node} (hc : c.IsConstraint) : c.CallFree := by
  have hleaf : ∀ {k : Kind} {f : Fields}, k ≠ .call → (Node.mk k f []).CallFree :=
    fun hk => callFree_mk.2 ⟨hk, fun _ h => nomatch h⟩
  have hident : ∀ {x : Node}, x.IsIdent → x.CallFree := by
    rintro x ⟨f, s, rfl, -⟩
    exact hleaf (by decide)
  have hvalue : ∀ {v : Node}, v.IsValue → v.CallFree := by
    intro v hv
    cases hv <;> exact hleaf (by decide)
  cases hc with
  | ignore hx => exact callFree_mk.2 ⟨by decide, by simpa using hident hx⟩
  | equality _ _ hx hv => exact callFree_mk.2 ⟨by decide, by simpa using ⟨hident hx, hvalue hv⟩⟩
  | inequality _ _ hx hv =>
    subst hv
    exact callFree_mk.2 ⟨by decide, by simpa using ⟨hident hx, hleaf (by decide)⟩⟩

theorem IsRule.callsFit (hfit : UsesFit τ us) {r : Node} (hr : r.IsRule) (ctx : Option Ty)
    (hsub : ∀ p ∈ r.uses g ctx, p ∈ us) : r.CallsFit τ g := by
  cases hr with
  | @mk f cf tf cs ts hcs hts =>
    refine .rule (callFree_mk.2 ⟨by decide, fun c hc => (hcs c hc).callFree⟩)
      (.node (by decide) (fun h => absurd h (by decide)) fun t ht => ?_)
    refine (hts t ht).callsFit hfit ctx fun p hp => hsub p ?_
    simp only [Node.uses, Node.usesAll]
    exact List.mem_append_right _ (List.mem_append_left _ (uses_sub_usesAll ht _ p hp))

/-- Every call of a well-formed translation passes variables of fitting types wherever a
parameter type is declared, under a map that takes the translation's uses. -/
theorem IsTranslation.callsFit {t : Node} (hfit : UsesFit τ (t.uses g none))
    (ht : t.IsTranslation) : t.CallsFit τ g := by
  cases ht with
  | text hts =>
    refine .node (by decide) (fun h => absurd h (by decide)) fun c hc => ?_
    refine (hts c hc).callsFit hfit none fun p hp => ?_
    simp only [Node.uses]
    exact uses_sub_usesAll hc _ p hp
  | rules _ hrs =>
    refine .node (by decide) (fun h => absurd h (by decide)) fun r hr => ?_
    refine (hrs r hr).callsFit hfit none fun p hp => ?_
    simp only [Node.uses]
    exact uses_sub_usesAll hr _ p hp

end Uses

end Node

namespace Typing

/-- Typing keeps the calls of every node it types, and of every result it remembers. -/
theorem visit_keepsCalls {m : TypeMap} {τ : Datum → Option Ty} {g : Datum → Option (List Ty)}
    (n : Node) :
    Keeps (fun st : TypingState => st.memo.All (Node.KeepsCalls τ g)) (visit m n)
      (Node.KeepsCalls τ g n) :=
  visit_keeps_of (fun _ _ _ h hkey => h.of_sameKey hkey) Node.KeepsCalls.refl
    Node.KeepsCalls.rebuild n

end Typing

namespace TypeMap

/-- A typed tree comes only from a map without conflicts. -/
theorem typeTree_errors {m : TypeMap} {t r : Node} (h : m.typeTree t = .ok r) : m.errors = [] := by
  unfold typeTree at h
  dsimp only at h
  split at h
  · cases h
  obtain ⟨_, hthrow, -⟩ := Code.bind_eq_ok h
  cases he : m.errors with
  | nil => rfl
  | cons e _ => simp [throwErrors, firstError, he] at hthrow

/-- Analysis into a map that is not frozen records the translation under the signatures, freezes
the result and types the translation from it. -/
theorem analyze_infers {m m' : TypeMap} (hf : m.frozen = false) {sigs : List (Datum × List Datum)}
    {t typed : Node} (h : m.analyze sigs t = (m', .ok typed)) :
    ∃ s m₁ typed₀, m.infer s t = (m₁, none) ∧ m' = m₁.freeze ∧ m'.typeTree t = .ok typed₀ := by
  unfold analyze at h
  split at h
  · cases h
  · next m₂ hs =>
    obtain ⟨rfl, hty⟩ := Prod.mk.inj h
    unfold settleTypes at hs
    rw [if_neg (by simp [hf])] at hs
    split at hs
    · next m₃ hw =>
      cases hs
      unfold inferWith at hw
      split at hw
      · cases hw
      · next s _ =>
        obtain ⟨typed₀, hty₀, -⟩ := Code.bind_eq_ok hty
        exact ⟨s, m₃, typed₀, hw, rfl, hty₀⟩
    · cases hs

end TypeMap

/-- A compiled translation went through analysis. -/
theorem compileTranslation_analyzed {m m' : TypeMap} {h h' : Helpers} {o : CompileOptions}
    {t : Node} {e : Emitted} (hc : compileTranslation m h o t = (m', h', .ok e)) :
    ∃ typed, m.analyze o.signatures t = (m', .ok typed) := by
  unfold compileTranslation at hc
  split at hc
  · cases hc
  · next m₁ typed hanalyze =>
    split at hc
    · cases hc
    · cases hrun : (Emit.translation m₁ o.name typed).run' h with
      | mk r h₁ =>
        rw [hrun] at hc
        cases hc
        exact ⟨typed, hanalyze⟩

namespace TypeMap

/-- Declared parameter types hold of the variables a call passes. Take a map built by its own
operations that is not frozen, so that inference runs, and a well-formed translation that
compiles against it, with signatures from the compile options or from the map. Every call of the
typed tree passes, at each position its function declares a type for, either no variable or a
variable typed with a type that merges with the declared one without conflict. -/
theorem declared_variable_arguments_fit {m m' : TypeMap} (hm : m.Sound) (hf : m.frozen = false)
    {h h' : Helpers} {o : CompileOptions} {t : Node} (ht : t.IsTranslation) {e : Emitted}
    (hc : compileTranslation m h o t = (m', h', .ok e)) :
    ∃ typed, m'.typeTree t = .ok typed ∧ typed.DeclaredArgsFit m'.signature := by
  obtain ⟨_, hanalyze⟩ := compileTranslation_analyzed hc
  obtain ⟨s, m₁, typed, hinf, rfl, htyped⟩ := analyze_infers hf hanalyze
  have hclean : m₁.errors = [] := typeTree_errors (m := m₁.freeze) htyped
  have hsound := infer_sound hm hinf
  -- each variable's type is the join of its uses, so it takes every one of them
  have hfit : Node.UsesFit m₁.typeOf? (t.uses m₁.signature none) := fun x T hx => by
    obtain ⟨hty, hmem⟩ := infer_use hm hf ht hinf hx
    exact ⟨_, hty, Ty.merge_narrow_ne_error (hsound.typeOf?_ne_error hclean hty)
      (Ty.merge_join_of_mem hmem)⟩
  obtain ⟨-, st, hrun⟩ := typeTree_run htyped
  have hvars : typed.VarsTyped m₁.typeOf? :=
    ((Typing.visit_typedVars (fun v ty h => (typeOf?_of_typeOf (m := m₁.freeze) rfl h :
        m₁.typeOf? v = some ty)) t ht.plain (ht.operandsFit (m := m₁) (hm.fitsUses hf ht hinf hclean)))
      {} typed st ⟨Memo.All.empty _, fun _ h => nomatch h⟩ hrun).2.varsTyped
  have hcalls : typed.CallsFit m₁.typeOf? m₁.signature :=
    ((Typing.visit_keepsCalls t {} typed st (Memo.All.empty _) hrun).2 ht.plain).2.2.2
      (ht.callsFit hfit)
  exact ⟨typed, htyped, hcalls.declaredArgsFit hvars⟩

/-- `{{f($x)}}` with `f` declared to take a number compiles, and `$x` is passed typed a number. -/
theorem declared_variable_arguments_fit_call :
    ({} : TypeMap).Sound ∧ ({} : TypeMap).frozen = false ∧
      Node.IsTranslation (.mk .textRoot {} [.mk .textExpr {} [.mk .call { name := .str "f" }
        [.mk .var { name := .str "x" } []]]]) ∧
      ∃ m' h' e, compileTranslation {} {} { signatures := [(.str "f", [.str "number"])] }
          (.mk .textRoot {} [.mk .textExpr {} [.mk .call { name := .str "f" }
            [.mk .var { name := .str "x" } []]]]) = (m', h', .ok e) ∧
        ∃ typed, m'.typeTree (.mk .textRoot {} [.mk .textExpr {} [.mk .call { name := .str "f" }
            [.mk .var { name := .str "x" } []]]]) = .ok typed ∧
          typed.DeclaredArgsFit m'.signature := by
  have ht : Node.IsTranslation (.mk .textRoot {} [.mk .textExpr {} [.mk .call { name := .str "f" }
      [.mk .var { name := .str "x" } []]]]) :=
    .text fun c hc => by
      rw [List.mem_singleton.1 hc]
      exact .textExpr (.call rfl fun a ha => by
        rw [List.mem_singleton.1 ha]
        exact .var rfl)
  have hc := (rfl : compileTranslation {} {} { signatures := [(.str "f", [.str "number"])] }
    (.mk .textRoot {} [.mk .textExpr {} [.mk .call { name := .str "f" }
      [.mk .var { name := .str "x" } []]]]) = _)
  conv at hc => rhs; cbv
  exact ⟨sound_empty, rfl, ht, _, _, _, hc, declared_variable_arguments_fit sound_empty rfl ht hc⟩

/-- Only variables are held to declared types: `{{f("abc")}}` with `f` declared to take a number
compiles, and its typed tree passes `f` a string, which does not merge with a number. -/
theorem literal_argument_unchecked :
    ∃ m' h' e, compileTranslation {} {} { signatures := [(.str "f", [.str "number"])] }
        (.mk .textRoot {} [.mk .textExpr {} [.mk .call { name := .str "f" }
          [.mk .stringLit { value := .str "abc" } []]]]) = (m', h', .ok e) ∧
      m'.signature (.str "f") = some [.number] ∧
      m'.typeTree (.mk .textRoot {} [.mk .textExpr {} [.mk .call { name := .str "f" }
          [.mk .stringLit { value := .str "abc" } []]]]) =
        .ok (.mk .textRoot {} [.mk .textExpr { ty := some .string }
          [.mk .call { name := .str "f", ty := some .string, const := some false }
            [.mk .stringLit { value := .str "abc", ty := some .string, const := some true } []]]]) ∧
      Ty.number.merge .string = .error := by
  have hc := (rfl : compileTranslation {} {} { signatures := [(.str "f", [.str "number"])] }
    (.mk .textRoot {} [.mk .textExpr {} [.mk .call { name := .str "f" }
      [.mk .stringLit { value := .str "abc" } []]]]) = _)
  conv at hc => rhs; cbv
  refine ⟨_, _, _, hc, rfl, ?_, rfl⟩
  cbv

end TypeMap

end Lingo
