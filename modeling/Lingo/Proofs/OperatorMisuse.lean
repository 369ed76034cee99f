import Lingo.Proofs.FirstMismatch

/-!
# Typing reports the first misapplied operator

Typing walks a tree once, children before their node, and remembers each typed node by key
(`Typing.visit`). Each step is stated by what it needs of the state before it and gives of the
state after it (`Runs`), with the invariant `Typing.At`: every remembered result is a typed form
of its node (`Node.TypedAs`), the first recorded conflict is the first one of the nodes typed so
far, and no remembered node is misapplied while there is none.

`TypeMap.typeTree_error_iff_firstMismatch` shows that typing a well-formed translation fails with
exactly the conflict `Node.firstMismatch` names, and succeeds when there is none, for a frozen map
without conflicts that has every variable of the translation and gives none of them the type
`error`.
-/

namespace Lingo

namespace Node

/-! ## Typed forms -/

/-- What typing keeps of a node `n` in its typed form `r`: the kind, the name of a variable and the
position, with an expression typed by `typeUnder`. -/
structure TypedAs (τ : Datum → Ty) (n r : Node) : Prop where
  kind : r.kind = n.kind
  ty : n.kind.has .const → r.fields.ty = some (n.typeUnder τ)
  name : n.kind = .var → r.fields.name = n.fields.name
  pos : n.kind.has .pos → r.pos = n.pos

section TypedForms

variable {τ : Datum → Ty}

/-- Every expression carries a type. -/
theorem has_ty_of_has_const {k : Kind} (h : k.has .const) : k.has .ty := by
  revert h
  cases k <;> decide

/-- A remembered result serves every node of its key. -/
theorem TypedAs.of_sameKey {a n r : Node} (h : TypedAs τ a r) (hkey : sameKey true a n = true)
    (hn : n.Plain) : TypedAs τ n r where
  kind := h.kind.trans (kind_of_sameKey hkey)
  ty hk := by
    rw [h.ty (kind_of_sameKey hkey ▸ hk), typeUnder_of_sameKey hkey hn]
  name hk := by
    rw [h.name ((kind_of_sameKey hkey).trans hk), name_of_sameKey hkey hn hk (by decide)]
  pos hk := by
    obtain ⟨k, f, cs⟩ := n
    obtain ⟨f', cs', rfl, hf, -⟩ := sameKey_mk_right hkey
    rw [h.pos hk]
    simpa [Fields.agreeOn, Node.pos, fields] using hf .pos (List.elem_iff.1 hk)

/-- Settling keeps a typed form: the node itself is one when the result has its key. -/
theorem TypedAs.settle {n r : Node} (h : TypedAs τ n r) : TypedAs τ n (settle n r) := by
  unfold Lingo.settle
  split
  · next hkey =>
    refine ⟨rfl, fun hk => ?_, fun _ => rfl, fun _ => rfl⟩
    obtain ⟨k, f, cs⟩ := n
    obtain ⟨f', cs', hr, hf, -⟩ := sameKey_mk_right hkey
    have hty := hf .ty (List.elem_iff.1 (has_ty_of_has_const hk))
    simp only [Fields.agreeOn, beq_iff_eq] at hty
    have hrty := h.ty hk
    rw [hr] at hrty
    rw [fields, ← hty]
    exact hrty
  · exact h

/-- A node put back together with its name and position and the type typing gives it is a typed
form of it. -/
theorem TypedAs.rebuild {k : Kind} {f f' : Fields} {cs cs' : List Node} {r : Node}
    (hr : (Node.mk k f cs).rebuild cs' f' = .ok r) (hname : f'.name = f.name)
    (hpos : f'.pos = f.pos) (hty : k.has .const → f'.ty = some ((Node.mk k f cs).typeUnder τ)) :
    TypedAs τ (.mk k f cs) r := by
  unfold Node.rebuild at hr
  split at hr
  · -- the node itself, when the new fields have its key
    next hsame =>
    cases hr
    refine ⟨rfl, fun hk => ?_, fun _ => rfl, fun _ => rfl⟩
    simp only [Bool.and_eq_true, List.all_eq_true] at hsame
    have hagree := hsame.2 .ty (List.elem_iff.1 (has_ty_of_has_const hk))
    simp only [Fields.agreeOn, beq_iff_eq, fields] at hagree
    rw [fields, ← hagree]
    exact hty hk
  · obtain ⟨_, -, hr⟩ := Code.bind_eq_ok hr
    obtain ⟨_, -, hr⟩ := Code.bind_eq_ok hr
    obtain ⟨_, -, hr⟩ := Code.bind_eq_ok hr
    cases hr
    exact ⟨rfl, hty, fun _ => hname, fun _ => hpos⟩

/-- Typing can put back together every node of a kind without checks on its fields, given the
number of children its kind takes. -/
theorem rebuild_ok {k : Kind} (hk : k ≠ .genderValue ∧ k ≠ .equality ∧ k ≠ .inequality)
    {f f' : Fields} {cs cs' : List Node} (harity : checkArity k cs' = .ok ()) :
    ∃ r, (Node.mk k f cs).rebuild cs' f' = .ok r := by
  obtain ⟨hg, he, hi⟩ := hk
  unfold Node.rebuild
  split
  · exact ⟨_, rfl⟩
  · have hhead : checkHead k cs'.length f' = .ok () := by
      simp [checkHead, hg, he, hi]
    have hcomparand : checkComparand k cs' = .ok () := by
      unfold checkComparand
      split
      · exact absurd rfl he
      · exact absurd rfl hi
      · rfl
    simp only [kind, hhead, harity, hcomparand]
    exact ⟨_, rfl⟩

/-- Every expression kind marks its nodes constant or not. -/
theorem IsExpr.has_const {e : Node} (he : e.IsExpr) : e.kind.has .const := by
  cases he with
  | @binary k f l r hk _ _ =>
    show k.has .const = true
    revert hk
    cases k <;> decide
  | _ => rfl

end TypedForms

/-- The map gives every variable of a tree, in an expression or bare in a text, the type `τ`
gives its name. -/
def TypesVars (m : TypeMap) (τ : Datum → Ty) (n : Node) : Prop :=
  ∀ c ∈ n.walk, c.kind = .var ∨ c.kind = .textVar →
    (m.typeOf c.fields.name).map (·.2) = .ok (τ c.fields.name)

theorem TypesVars.child {m : TypeMap} {τ : Datum → Ty} {k : Kind} {f : Fields} {cs : List Node}
    {c : Node} (h : (Node.mk k f cs).TypesVars m τ) (hc : c ∈ cs) : c.TypesVars m τ :=
  fun d hd => h d (mem_walk_mk.2 (.inr ⟨c, hc, hd⟩))

theorem TypesVars.self {m : TypeMap} {τ : Datum → Ty} {k : Kind} {f : Fields} {cs : List Node}
    (h : (Node.mk k f cs).TypesVars m τ) (hk : k = .var ∨ k = .textVar) :
    (m.typeOf f.name).map (·.2) = .ok (τ f.name) :=
  h _ (mem_walk_mk.2 (.inl rfl)) hk

end Node

/-! ## Steps that succeed, stated by their pre- and postconditions -/

/-- From every state with `P`, the step succeeds, with a result and a final state that satisfy
`Q`. -/
def Runs {σ ε α : Type} (P : σ → Prop) (x : StateT σ (Except ε) α) (Q : α → σ → Prop) : Prop :=
  ∀ s, P s → ∃ a s', x.run s = .ok (a, s') ∧ Q a s'

namespace Runs

variable {σ ε α β : Type} {P : σ → Prop}

theorem pure' {a : α} {Q : α → σ → Prop} (h : ∀ s, P s → Q a s) :
    Runs P (pure a : StateT σ (Except ε) α) Q :=
  fun s hs => ⟨a, s, rfl, h s hs⟩

theorem bind {x : StateT σ (Except ε) α} {f : α → StateT σ (Except ε) β} {Q : α → σ → Prop}
    {R : β → σ → Prop} (hx : Runs P x Q) (hf : ∀ a, Runs (Q a) (f a) R) :
    Runs P (x >>= f) R := by
  intro s hs
  obtain ⟨a, s₁, hrun, hq⟩ := hx s hs
  obtain ⟨b, s₂, hrun', hr⟩ := hf a s₁ hq
  refine ⟨b, s₂, ?_, hr⟩
  rw [StateT.run_bind, hrun]
  exact hrun'

theorem get_bind {f : σ → StateT σ (Except ε) α} {Q : α → σ → Prop}
    (h : ∀ s₀, P s₀ → Runs (· = s₀) (f s₀) Q) : Runs P (get >>= f) Q :=
  fun s hs => h s hs s rfl

theorem modify' {f : σ → σ} {Q : PUnit → σ → Prop} (h : ∀ s, P s → Q ⟨⟩ (f s)) :
    Runs P (modify f : StateT σ (Except ε) PUnit) Q :=
  fun s hs => ⟨⟨⟩, f s, rfl, h s hs⟩

theorem set' {s₀ : σ} {Q : PUnit → σ → Prop} (h : ∀ s, P s → Q ⟨⟩ s₀) :
    Runs P (set s₀ : StateT σ (Except ε) PUnit) Q :=
  fun s hs => ⟨⟨⟩, s₀, rfl, h s hs⟩

theorem imp {x : StateT σ (Except ε) α} {Q R : α → σ → Prop} (hx : Runs P x Q)
    (h : ∀ a s, Q a s → R a s) : Runs P x R := fun s hs =>
  let ⟨a, s', hrun, hq⟩ := hx s hs
  ⟨a, s', hrun, h a s' hq⟩

theorem pre_and {p : Prop} {x : StateT σ (Except ε) α} {Q : α → σ → Prop}
    (h : p → Runs P x Q) : Runs (fun s => P s ∧ p) x Q := fun s hs => h hs.2 s hs.1

theorem pre {P' : σ → Prop} {x : StateT σ (Except ε) α} {Q : α → σ → Prop} (hx : Runs P x Q)
    (h : ∀ s, P' s → P s) : Runs P' x Q := fun s hs => hx s (h s hs)

theorem exists_pre {ι : Sort _} {P : ι → σ → Prop} {x : StateT σ (Except ε) α}
    {Q : α → σ → Prop} (h : ∀ i, Runs (P i) x Q) : Runs (fun s => ∃ i, P i s) x Q :=
  fun s ⟨i, hs⟩ => h i s hs

end Runs

namespace Typing

open Node

section Steps

variable {τ : Datum → Ty} {E : Option TypeMismatch} {s : Option String}

/-- A state of the typing walk whose remembered results are typed forms of their nodes, whose
first recorded conflict is `E`, with no remembered node misapplied while there is none, and whose
current text is read from `source`. -/
structure At (τ : Datum → Ty) (E : Option TypeMismatch) (source : Option String)
    (st : TypingState) : Prop where
  typed : st.memo.All (TypedAs τ)
  first : st.errors.head? = E
  clean : E = none → st.memo.All fun a _ => ¬ a.Misapplied τ
  source : st.text.bind (·.fields.input) = source

/-- A remembered result for a plain node is a typed form of it, and adds no first conflict: it was
remembered before any conflict or after the first one. -/
theorem At.find {st : TypingState} (hst : At τ E s st) {n r : Node} (hn : n.Plain)
    (hfind : st.memo.find? n = some r) :
    TypedAs τ n r ∧ E.or (n.firstMismatch τ s) = E := by
  refine ⟨Memo.All.find (R := fun a r => a.Plain → TypedAs τ a r) (fun e he _ => hst.typed e he)
    (fun a n r h hkey hn => (h (Plain.of_sameKey hkey hn).1).of_sameKey hkey hn) hfind hn, ?_⟩
  cases E with
  | some x => rfl
  | none =>
    have hclean := Memo.All.find (R := fun a _ => a.Plain → ¬ a.Misapplied τ)
      (fun e he _ => hst.clean rfl e he)
      (fun a n r h hkey hn hmis => h (Plain.of_sameKey hkey hn).1 (hmis.of_sameKey hkey hn))
      hfind hn
    rw [firstMismatch_eq_none_iff.2 hclean]
    rfl

/-- The constraints at hand are no part of the state's invariant. -/
theorem At.withConstraints {st : TypingState} (h : At τ E s st) (c : Option Node) :
    At τ E s { st with constraints := c } :=
  ⟨h.typed, h.first, h.clean, h.source⟩

/-- Entering a text makes its input the source of the conflicts found in it. -/
theorem At.withText {st : TypingState} (h : At τ E s st) (n : Node) :
    At τ E n.fields.input { st with text := some n } :=
  ⟨h.typed, h.first, h.clean, rfl⟩

/-- Remembering a typed form keeps the state. -/
theorem settle_insert_runs {n r : Node} (h : TypedAs τ n r)
    (hclean : E = none → ¬ n.Misapplied τ) :
    Runs (At τ E s) (modify (fun st : TypingState =>
        { st with memo := st.memo.insert n (settle n r) }) >>= fun _ => pure (settle n r) :
          TypingM Node)
      (fun r' st => At τ E s st ∧ TypedAs τ n r') :=
  Runs.bind (Runs.modify' (Q := fun _ => At τ E s) fun _ hst =>
      ⟨hst.typed.insert h.settle, hst.first, fun hE => (hst.clean hE).insert (hclean hE),
        hst.source⟩) fun _ =>
    Runs.pure' fun _ hst => ⟨hst, h.settle⟩

theorem tyOf_typed {o o' : Node} (ho : TypedAs τ o o') (hexpr : o.kind.has .const) :
    tyOf o' = .ok (some (o.typeUnder τ)) := by
  have hty : o'.kind.has .ty := ho.kind ▸ has_ty_of_has_const hexpr
  simp [tyOf, hty, ho.ty hexpr]

theorem constOf_typed {o o' : Node} (ho : TypedAs τ o o') (hexpr : o.kind.has .const) :
    constOf o' = .ok o'.isConst := by
  have hconst : o'.kind.has .const := ho.kind ▸ hexpr
  simp [constOf, hconst]

theorem isNumber_typed {o o' : Node} (ho : TypedAs τ o o') (hexpr : o.kind.has .const) :
    isNumber o' = pure (o.typeUnder τ == .number) := by
  simp only [isNumber, tyOf_typed ho hexpr, check, pure_bind]
  rfl

theorem isPlusOperand_typed {o o' : Node} (ho : TypedAs τ o o') (hexpr : o.kind.has .const) :
    isPlusOperand o' = pure (o.typeUnder τ).isPlusOperand := by
  simp only [isPlusOperand, tyOf_typed ho hexpr, check, pure_bind]
  rfl

theorem rebuild_typed {n : Node} {cs : List Node} {f : Fields} {r : Node}
    (h : n.rebuild cs f = .ok r) : rebuild n cs f = pure r := by
  simp [rebuild, h]

theorem varTy_typed {m : TypeMap} {n : Node} {ty : Ty}
    (h : (m.typeOf n.fields.name).map (·.2) = .ok ty) : varTy m n = pure ty := by
  simp only [varTy, h, check]

/-- Whether some argument of a call has type `error`, read off the typed arguments. -/
theorem anyErrorTy_typed {cs ps : List Node} (h : List.Forall₂ (TypedAs τ) cs ps)
    (hexpr : ∀ c ∈ cs, c.kind.has .const) :
    anyErrorTy ps = pure (decide (.error ∈ cs.map (typeUnder τ))) := by
  induction h with
  | nil => rfl
  | @cons c p cs ps hc _ ih =>
    have hcexpr := hexpr c List.mem_cons_self
    simp only [anyErrorTy, tyOf_typed hc hcexpr, check, pure_bind,
      ih fun d hd => hexpr d (List.mem_cons_of_mem _ hd)]
    by_cases herr : c.typeUnder τ = .error
    · simp [herr]
    · simp [herr, Ne.symm herr]

/-- The conflict typing records at a typed operand is the one the operator reads at the operand. -/
theorem mismatch_typed {k : Kind} {o o' : Node} (ho : TypedAs τ o o') (src : Option String) :
    ({ expected := k.expected, found := (some (o.typeUnder τ)).getD .unknown,
       var := if o'.kind = .var then o'.fields.name else .none,
       location := TypeMismatch.locate (some o') src } : TypeMismatch) = mismatchAt τ k o src := by
  have hvar : (if o'.kind = .var then o'.fields.name else .none) =
      if o.kind = .var then o.fields.name else .none := by
    rw [ho.kind]
    split_ifs with h
    · exact ho.name h
    · rfl
  have hloc : TypeMismatch.locate (some o') src = TypeMismatch.locate (some o) src := by
    unfold TypeMismatch.locate
    cases src with
    | none => rfl
    | some text =>
      dsimp only
      rw [ho.kind]
      split_ifs with h
      · rw [ho.pos h]
      · rfl
  rw [hvar, hloc]
  rfl

/-- A misfitting operand is reported unless its type is already `error`; the report is the
conflict the operator reads at the operand. -/
theorem report_runs {k : Kind} {o o' : Node} (ho : TypedAs τ o o') (hexpr : o.kind.has .const) :
    Runs (At τ E s) (report k.expected o')
      (fun _ => At τ (E.or (if o.typeUnder τ = .error then none else
        some (mismatchAt τ k o s))) s) := by
  unfold report
  simp only [tyOf_typed ho hexpr, check, pure_bind]
  split
  · next herr =>
    simp only [Option.some.injEq] at herr
    simp only [herr, if_true, Option.or_none]
    exact Runs.pure' fun st hst => hst
  · next herr =>
    simp only [Option.some.injEq] at herr
    simp only [herr, if_false]
    refine Runs.get_bind fun st hst => Runs.set' fun _ h => ?_
    subst h
    refine ⟨hst.typed, ?_, (fun hE => by cases E <;> cases hE), hst.source⟩
    simp only [List.head?_append, hst.first, List.head?_cons, hst.source, mismatch_typed ho]

/-- A first conflict that is none leaves the node clean. -/
theorem clean_of_or {n : Node} (h : E.or (n.firstMismatch τ s) = none) : ¬ n.Misapplied τ := by
  cases E with
  | some x => cases h
  | none => exact firstMismatch_eq_none_iff.1 h

/-- A node typed for the first time is put back together and remembered with its typed form. -/
theorem rebuild_settle_runs {n : Node} {cs : List Node} {f : Fields} {r : Node}
    (hr : n.rebuild cs f = .ok r) (htyped : TypedAs τ n r)
    (hclean : E = none → ¬ n.Misapplied τ) :
    Runs (At τ E s) (rebuild n cs f >>= fun r => modify (fun st : TypingState =>
        { st with memo := st.memo.insert n (settle n r) }) >>= fun _ => pure (settle n r))
      (fun r st => At τ E s st ∧ TypedAs τ n r) := by
  rw [rebuild_typed hr, pure_bind]
  exact settle_insert_runs htyped hclean

/-- Typing a node: a remembered result, or the walk's own work on a node met for the first time. -/
theorem memo_runs {n : Node} (hn : n.Plain) {Q : Node → TypingState → Prop}
    (hhit : ∀ r st, At τ (E.or (n.firstMismatch τ s)) s st → TypedAs τ n r → Q r st)
    {x : TypingM Node} (hx : Runs (At τ E s) x Q) :
    Runs (At τ E s) (get >>= fun st => match st.memo.find? n with
        | some r => pure r
        | none => x) Q := by
  refine Runs.get_bind fun st₀ hst₀ => ?_
  cases hfind : st₀.memo.find? n with
  | some r =>
    refine Runs.pure' fun _ h => ?_
    subst h
    obtain ⟨hr, hE⟩ := hst₀.find hn hfind
    rw [← hE] at hst₀
    exact hhit r _ hst₀ hr
  | none => exact hx.pre fun _ h => h ▸ hst₀

/-- Typing puts a node of an expression or text kind back together with its new fields and
remembers it. -/
theorem rebuilt_runs {k : Kind} {f f' : Fields} {cs cs' : List Node}
    (hk : k ≠ .genderValue ∧ k ≠ .equality ∧ k ≠ .inequality) (harity : checkArity k cs' = .ok ())
    (hname : f'.name = f.name) (hpos : f'.pos = f.pos)
    (hty : k.has .const → f'.ty = some ((Node.mk k f cs).typeUnder τ))
    (hclean : E = none → ¬ (Node.mk k f cs).Misapplied τ) :
    Runs (At τ E s) (rebuild (.mk k f cs) cs' f' >>= fun r => modify (fun st : TypingState =>
        { st with memo := st.memo.insert (.mk k f cs) (settle (.mk k f cs) r) }) >>= fun _ =>
          pure (settle (.mk k f cs) r))
      (fun r st => At τ E s st ∧ TypedAs τ (.mk k f cs) r) := by
  obtain ⟨r, hr⟩ := rebuild_ok hk harity
  exact rebuild_settle_runs hr (TypedAs.rebuild hr hname hpos hty) hclean

/-- A leaf of an expression or a text, typed for the first time: no operator, no conflict. -/
theorem leaf_runs {k : Kind} (hk : k ≠ .genderValue ∧ k ≠ .equality ∧ k ≠ .inequality)
    (hroot : k ≠ .textRoot) (harity : checkArity k [] = .ok ()) {f f' : Fields}
    (hname : f'.name = f.name) (hpos : f'.pos = f.pos)
    (hty : k.has .const → f'.ty = some ((Node.mk k f []).typeUnder τ)) :
    Runs (At τ E s) (rebuild (.mk k f []) [] f' >>= fun r => modify (fun st : TypingState =>
        { st with memo := st.memo.insert (.mk k f []) (settle (.mk k f []) r) }) >>= fun _ =>
          pure (settle (.mk k f []) r))
      (fun r st => At τ (E.or ((Node.mk k f []).firstMismatch τ s)) s st ∧
        TypedAs τ (.mk k f []) r) := by
  rw [firstMismatch_leaf hroot, Option.or_none]
  exact rebuilt_runs hk harity hname hpos hty fun _ =>
    firstMismatch_eq_none_iff.1 (firstMismatch_leaf hroot s f)

/-- Typing a list of nodes in order, from states of a family `I` indexed by the first conflict:
the first conflict of the list is the first one among its nodes. -/
theorem visitAll_runs {m : TypeMap} {I : Option TypeMismatch → TypingState → Prop}
    {cs : List Node}
    (h : ∀ c ∈ cs, ∀ E, Runs (I E) (visit m c)
      (fun r st => I (E.or (c.firstMismatch τ s)) st ∧ TypedAs τ c r))
    (E : Option TypeMismatch) :
    Runs (I E) (visitAll m cs)
      (fun ps st => I (E.or (firstMismatchAll τ s cs)) st ∧ List.Forall₂ (TypedAs τ) cs ps) := by
  induction cs generalizing E with
  | nil =>
    unfold visitAll
    exact Runs.pure' fun st hst => ⟨by simpa [firstMismatchAll] using hst, .nil⟩
  | cons c cs ih =>
    unfold visitAll
    refine Runs.bind (h c List.mem_cons_self E) fun c' => Runs.pre_and fun hc => ?_
    refine Runs.bind (ih (fun d hd => h d (List.mem_cons_of_mem _ hd)) _) fun ps =>
      Runs.pre_and fun hps => Runs.pure' fun st hst => ⟨?_, .cons hc hps⟩
    simpa [firstMismatchAll, Option.or_assoc] using hst

/-- Reporting an operand the operator does not take records the operator's conflict at it,
unless the operand is already `error`. -/
theorem report_misfit_runs {k : Kind} {o o' : Node} (ho : TypedAs τ o o')
    (hexpr : o.kind.has .const) (htakes : k.takes (o.typeUnder τ) = false) :
    Runs (At τ E s) (report k.expected o')
      (fun _ => At τ (E.or (if k.misfits (o.typeUnder τ) then some (mismatchAt τ k o s)
        else none)) s) := by
  refine (report_runs ho hexpr).imp fun _ st hst => ?_
  by_cases herr : o.typeUnder τ = .error
  · simpa [Kind.misfits, herr] using hst
  · simpa [Kind.misfits, htakes, herr] using hst

variable {m : TypeMap}

/-- An expression whose first conflict is none, after none before it, has no type `error`. -/
theorem ne_error_of_or {e : Node} (he : e.IsExpr) (hτ : ∀ v, τ v ≠ .error)
    (h : E.or (e.firstMismatch τ s) = none) : e.typeUnder τ ≠ .error :=
  fun herr => clean_of_or h (he.misapplied_of_error hτ herr)

/-- Typing a binary operator whose operands are typed: the first operand it does not take, left
before right, is reported and the operator gets type `error`; a left operand already of type
`error` is not reported, and then the right one is not looked at. The operator is then put back
together and remembered. -/
theorem binary_runs {k : Kind} (hk : k ≠ .genderValue ∧ k ≠ .equality ∧ k ≠ .inequality)
    (hroot : k ≠ .textRoot) (harity : k.arity = some 2) {f : Fields} {l r l' r' : Node}
    (hl : TypedAs τ l l') (hr : TypedAs τ r r') (hle : l.IsExpr) (hre : r.IsExpr)
    (hτ : ∀ v, τ v ≠ .error) (T : Ty)
    (hT : (Node.mk k f [l, r]).typeUnder τ =
      if k.takes (l.typeUnder τ) && k.takes (r.typeUnder τ) then T else .error) :
    Runs (At τ ((E.or (l.firstMismatch τ s)).or (r.firstMismatch τ s)) s)
      (let n := Node.mk k f [l, r]
        let typed := fun (t : Ty) (c : Bool) =>
          rebuild n [l', r'] { f with ty := some t, const := some c } >>= fun n' =>
            modify (fun st : TypingState =>
              { st with memo := st.memo.insert n (settle n n') }) >>= fun _ => pure (settle n n')
        let finish := fun t : Ty => if l'.isConst = true then typed t r'.isConst else typed t false
        if (!k.takes (l.typeUnder τ)) = true then (report k.expected l' >>= fun _ => finish .error)
        else if (!k.takes (r.typeUnder τ)) = true then
          (report k.expected r' >>= fun _ => finish .error)
        else finish T)
      (fun n st => At τ (E.or ((Node.mk k f [l, r]).firstMismatch τ s)) s st ∧
        TypedAs τ (.mk k f [l, r]) n) := by
  extract_lets n typed finish
  have harity' : checkArity k [l', r'] = .ok () := by simp [checkArity, harity]
  -- whichever branch, the operator is put back together with the type it gets
  have hfinish : ∀ t E', t = n.typeUnder τ → (E' = none → ¬ n.Misapplied τ) →
      Runs (At τ E' s) (finish t) (fun n' st => At τ E' s st ∧ TypedAs τ n n') := by
    intro t E' ht hclean
    simp only [finish, typed]
    split <;> exact rebuilt_runs hk harity' rfl rfl (fun _ => by rw [ht]) hclean
  have hE : E.or (n.firstMismatch τ s) =
      ((E.or (l.firstMismatch τ s)).or (r.firstMismatch τ s)).or
        (if k.misfits (l.typeUnder τ) then some (mismatchAt τ k l s)
          else if k.misfits (r.typeUnder τ) then some (mismatchAt τ k r s) else none) := by
    simp only [n, firstMismatch_binary hroot, Option.or_assoc]
  by_cases htl : k.takes (l.typeUnder τ) = true
  · have hml : k.misfits (l.typeUnder τ) = false := by simp [Kind.misfits, htl]
    by_cases htr : k.takes (r.typeUnder τ) = true
    · -- both operands are taken: nothing is reported
      have hmr : k.misfits (r.typeUnder τ) = false := by simp [Kind.misfits, htr]
      simp only [htl, htr, Bool.not_true, Bool.false_eq_true, if_false]
      refine hfinish T _ (by rw [hT, htl, htr]; rfl) clean_of_or |>.pre fun _ h => ?_
      rwa [hE, hml, hmr, if_neg Bool.false_ne_true, if_neg Bool.false_ne_true, Option.or_none]
    · -- the right operand is not taken
      simp only [Bool.not_eq_true] at htr
      simp only [htl, htr, Bool.not_true, Bool.not_false, Bool.false_eq_true, if_false, if_true]
      refine Runs.bind (report_misfit_runs hr hre.has_const htr) fun _ =>
        hfinish _ _ (by rw [hT, htl, htr]; rfl) clean_of_or |>.pre fun _ h => ?_
      rwa [hE, hml, if_neg Bool.false_ne_true]
  · -- the left operand is not taken
    simp only [Bool.not_eq_true] at htl
    simp only [htl, Bool.not_false, if_true]
    refine Runs.bind (report_misfit_runs hl hle.has_const htl) fun _ =>
      hfinish _ _ (by rw [hT, htl]; rfl) clean_of_or |>.pre fun _ h => ?_
    rw [hE]
    by_cases hml : k.misfits (l.typeUnder τ) = true
    · simpa [hml] using h
    · -- an operand of type `error` comes from a conflict before it
      have herr : l.typeUnder τ = .error := by simpa [Kind.misfits, htl] using hml
      have hbefore : E.or (l.firstMismatch τ s) ≠ none := fun hnone =>
        ne_error_of_or hle hτ hnone herr
      obtain ⟨x, hx⟩ := Option.ne_none_iff_exists'.1 hbefore
      simp only [hml, Bool.false_eq_true, if_false, Option.or_none] at h
      simpa [hx] using h

/-- Typing an expression succeeds and gives a typed form of it. It keeps the first conflict when
there is one, and otherwise records the expression's own first conflict, provided no variable has
type `error`. The induction follows the expression; each node is either remembered by key or
typed from its typed operands. -/
theorem visit_expr_runs (hτ : ∀ v, τ v ≠ .error) {e : Node} (he : e.IsExpr) (hvars : e.TypesVars m τ)
    (E : Option TypeMismatch) :
    Runs (At τ E s) (visit m e)
      (fun r st => At τ (E.or (e.firstMismatch τ s)) s st ∧ TypedAs τ e r) := by
  induction he generalizing E with
  | number hv hs =>
    rw [visit.eq_1]
    refine memo_runs (IsExpr.number hv hs).plain (fun _ _ h hr => ⟨h, hr⟩) ?_
    exact leaf_runs (by decide) (by decide) rfl rfl rfl fun _ => rfl
  | stringLit hv =>
    rw [visit.eq_1]
    refine memo_runs (IsExpr.stringLit hv).plain (fun _ _ h hr => ⟨h, hr⟩) ?_
    exact leaf_runs (by decide) (by decide) rfl rfl rfl fun _ => rfl
  | var hx =>
    rw [visit.eq_1]
    refine memo_runs (IsExpr.var hx).plain (fun _ _ h hr => ⟨h, hr⟩) ?_
    dsimp only
    rw [varTy_typed (hvars.self (.inl rfl)), pure_bind]
    exact leaf_runs (by decide) (by decide) rfl rfl rfl fun _ => rfl
  | @neg f o ho ih =>
    rw [visit.eq_1]
    refine memo_runs (IsExpr.neg ho).plain (fun _ _ h hr => ⟨h, hr⟩) ?_
    dsimp only
    refine Runs.bind (ih (hvars.child (List.mem_singleton_self o)) E) fun o' =>
      Runs.pre_and fun hto => ?_
    have hox := ho.has_const
    simp only [isNumber_typed hto hox, constOf_typed hto hox, check, pure_bind]
    have hE : E.or ((Node.mk .neg f [o]).firstMismatch τ s) = (E.or (o.firstMismatch τ s)).or
        (if Kind.neg.misfits (o.typeUnder τ) then some (mismatchAt τ .neg o s) else none) := by
      rw [firstMismatch_neg, Option.or_assoc]
    split
    · -- an operand that is no number is reported, and the negation is `error`
      next hnum =>
      have htakes : Kind.neg.takes (o.typeUnder τ) = false := by simpa [Kind.takes] using hnum
      refine Runs.bind (report_misfit_runs (k := .neg) hto hox htakes) fun _ => ?_
      refine Runs.pre (rebuilt_runs (by decide) rfl rfl rfl (fun _ => ?_) clean_of_or)
        fun _ h => hE ▸ h
      simp [typeUnder_mk τ (k := .neg) (by decide), Kind.exprType, htakes]
    · next hnum =>
      have htakes : Kind.neg.takes (o.typeUnder τ) = true := by simpa [Kind.takes] using hnum
      have hfits : Kind.neg.misfits (o.typeUnder τ) = false := by simp [Kind.misfits, htakes]
      refine Runs.pre (rebuilt_runs (by decide) rfl rfl rfl (fun _ => ?_) clean_of_or)
        fun _ h => by rwa [hE, hfits, if_neg Bool.false_ne_true, Option.or_none]
      simp [typeUnder_mk τ (k := .neg) (by decide), Kind.exprType, htakes]
  | @binary k f l r hk hl hr ihl ihr =>
    rw [visit.eq_1]
    refine memo_runs (IsExpr.binary hk hl hr).plain (fun _ _ h hr => ⟨h, hr⟩) ?_
    have ihl' := ihl (hvars.child (by simp))
    have ihr' := ihr (hvars.child (by simp))
    cases k <;> simp only [Kind.isBinary, Bool.false_eq_true] at hk <;> dsimp only <;>
      refine Runs.bind (ihl' E) fun l' => Runs.pre_and fun htl =>
        Runs.bind (ihr' _) fun r' => Runs.pre_and fun htr => ?_ <;>
      simp only [isNumber_typed htl hl.has_const, isNumber_typed htr hr.has_const,
        isPlusOperand_typed htl hl.has_const, isPlusOperand_typed htr hr.has_const,
        tyOf_typed htl hl.has_const, tyOf_typed htr hr.has_const,
        constOf_typed htl hl.has_const, constOf_typed htr hr.has_const, check, pure_bind,
        Option.getD_some]
    case add =>
      exact binary_runs (k := .add) (by decide) (by decide) rfl htl htr hl hr hτ _
        (typeUnder_mk τ (by decide) _ _)
    case sub =>
      exact binary_runs (k := .sub) (by decide) (by decide) rfl htl htr hl hr hτ _
        (typeUnder_mk τ (by decide) _ _)
    case mul =>
      exact binary_runs (k := .mul) (by decide) (by decide) rfl htl htr hl hr hτ _
        (typeUnder_mk τ (by decide) _ _)
    case div =>
      exact binary_runs (k := .div) (by decide) (by decide) rfl htl htr hl hr hτ _
        (typeUnder_mk τ (by decide) _ _)
  | @call f x args hx hargs ih =>
    rw [visit.eq_1]
    refine memo_runs (IsExpr.call hx hargs).plain (fun _ _ h hr => ⟨h, hr⟩) ?_
    dsimp only
    refine Runs.bind (visitAll_runs (I := fun E => At τ E s)
      (fun c hc E => ih c hc (hvars.child hc) E) E) fun ps => Runs.pre_and fun hps => ?_
    rw [anyErrorTy_typed hps fun c hc => (hargs c hc).has_const, pure_bind]
    -- a call takes operands of every type, so its only conflicts are those of its arguments
    have hE : (Node.mk .call f args).firstMismatch τ s = firstMismatchAll τ s args :=
      firstMismatch_of_takesAll (by decide) (fun _ => rfl) s f args
    rw [hE]
    refine rebuilt_runs (by decide) rfl rfl rfl (fun _ => ?_) fun h => ?_
    · simp [typeUnder_mk τ (k := .call) (by decide), Kind.exprType]
    · exact clean_of_or (by rwa [hE])

/-- Typing a fragment of a text succeeds and gives a typed form of it; an interpolated expression
is typed as an expression. -/
theorem visit_text_runs (hτ : ∀ v, τ v ≠ .error) {t : Node} (ht : t.IsText) (hvars : t.TypesVars m τ)
    (E : Option TypeMismatch) :
    Runs (At τ E s) (visit m t)
      (fun r st => At τ (E.or (t.firstMismatch τ s)) s st ∧ TypedAs τ t r) := by
  have hplain := ht.plain
  cases ht with
  | literal hv =>
    rw [visit.eq_1]
    refine memo_runs hplain (fun _ _ h hr => ⟨h, hr⟩) ?_
    exact leaf_runs (by decide) (by decide) rfl rfl rfl fun h => absurd h (by decide)
  | textVar hx =>
    rw [visit.eq_1]
    refine memo_runs hplain (fun _ _ h hr => ⟨h, hr⟩) ?_
    dsimp only
    rw [varTy_typed (hvars.self (.inr rfl)), pure_bind]
    exact leaf_runs (by decide) (by decide) rfl rfl rfl fun h => absurd h (by decide)
  | @textExpr f e he =>
    rw [visit.eq_1]
    refine memo_runs hplain (fun _ _ h hr => ⟨h, hr⟩) ?_
    dsimp only
    refine Runs.bind (visit_expr_runs hτ he (hvars.child (List.mem_singleton_self e)) E) fun e' =>
      Runs.pre_and fun hte => ?_
    rw [tyOf_typed hte he.has_const]
    have hE : (Node.mk .textExpr f [e]).firstMismatch τ s = (e.firstMismatch τ s).or none :=
      firstMismatch_of_takesAll (by decide) (fun _ => rfl) s f [e]
    rw [hE, Option.or_none]
    exact rebuilt_runs (by decide) rfl rfl rfl (fun h => absurd h (by decide))
      fun h => clean_of_or (by rwa [hE, Option.or_none])

/-- Typing a text succeeds and gives a typed form of it; the conflicts in it are located in its
own input. -/
theorem visit_textRoot_runs (hτ : ∀ v, τ v ≠ .error) {f : Fields} {ts : List Node}
    (hts : ∀ t ∈ ts, t.IsText) (hvars : (Node.mk .textRoot f ts).TypesVars m τ)
    (E : Option TypeMismatch) :
    Runs (At τ E s) (visit m (.mk .textRoot f ts))
      (fun r st => (∃ s', At τ (E.or (firstMismatchAll τ f.input ts)) s' st) ∧
        TypedAs τ (.mk .textRoot f ts) r) := by
  rw [visit.eq_1]
  refine memo_runs (IsTranslation.text hts).plain (fun _ _ h hr => ⟨⟨_, h⟩, hr⟩) ?_
  dsimp only
  refine Runs.bind (Runs.modify' (Q := fun _ => At τ E f.input) fun _ h => h.withText (.mk .textRoot f ts))
    fun _ => ?_
  refine Runs.bind (visitAll_runs (I := fun E => At τ E f.input)
    (fun t ht E => visit_text_runs hτ (hts t ht) (hvars.child ht) E) E) fun ps =>
      Runs.pre_and fun _ => ?_
  exact (rebuilt_runs (k := .textRoot) (by decide) rfl rfl rfl (fun h => absurd h (by decide))
    fun h => clean_of_or (s := f.input) h).imp fun _ _ h => ⟨⟨_, h.1⟩, h.2⟩

/-- Typing a rule types its text with the rule's constraints at hand; the constraints themselves
hold no operator and are kept as they are. -/
theorem visit_rule_runs (hτ : ∀ v, τ v ≠ .error) {r : Node} (hr : r.IsRule) (hvars : r.TypesVars m τ)
    (E : Option TypeMismatch) :
    Runs (fun st => ∃ s', At τ E s' st) (visit m r)
      (fun r' st => (∃ s', At τ (E.or (r.firstMismatch τ s)) s' st) ∧ TypedAs τ r r') := by
  have hplain := hr.plain
  obtain @⟨f, cf, tf, cs, ts, hcs, hts⟩ := hr
  have hE : ∀ s', (Node.mk .rule f [.mk .constraintRoot cf cs, .mk .textRoot tf ts]).firstMismatch
      τ s' = firstMismatchAll τ tf.input ts := firstMismatch_rule hcs
  refine Runs.exists_pre fun s₀ => ?_
  rw [visit.eq_1]
  refine memo_runs hplain (fun _ _ h hr => ⟨⟨_, by rwa [hE] at h ⊢⟩, hr⟩) ?_
  dsimp only
  -- the text is typed with the constraints at hand, which the invariant does not read
  refine Runs.bind (Runs.modify' (Q := fun _ => At τ E s₀) fun _ h => h.withConstraints _)
    fun _ => ?_
  refine Runs.bind (visit_textRoot_runs hτ hts (hvars.child (by simp)) E) fun t' =>
    Runs.pre_and fun _ => Runs.exists_pre fun s₁ => ?_
  obtain ⟨r', hr'⟩ : ∃ r', (Node.mk .rule f [.mk .constraintRoot cf cs, .mk .textRoot tf ts]).rebuild
      [.mk .constraintRoot cf cs, t'] f = .ok r' := rebuild_ok (by decide) rfl
  rw [rebuild_typed hr', pure_bind]
  refine Runs.bind (Runs.modify' (Q := fun _ => At τ (E.or (firstMismatchAll τ tf.input ts)) s₁)
    fun _ h => h.withConstraints none) fun _ => ?_
  rw [pure_bind]
  refine (settle_insert_runs (TypedAs.rebuild hr' rfl rfl fun h => absurd h (by decide))
    fun h => clean_of_or (s := s) (by rwa [hE])).imp fun _ _ h => ⟨⟨s₁, ?_⟩, h.2⟩
  rw [hE]
  exact h.1

/-- Typing a rule set types its rules in order; the conflicts of each rule are located in its own
text. -/
theorem visit_ruleSet_runs (hτ : ∀ v, τ v ≠ .error) {f : Fields} {rs : List Node}
    (hrs : ∀ r ∈ rs, r.IsRule) (hvars : (Node.mk .ruleSet f rs).TypesVars m τ)
    (E : Option TypeMismatch) :
    Runs (At τ E s) (visit m (.mk .ruleSet f rs))
      (fun r st => (∃ s', At τ (E.or (firstMismatchAll τ s rs)) s' st) ∧
        TypedAs τ (.mk .ruleSet f rs) r) := by
  have hE : (Node.mk .ruleSet f rs).firstMismatch τ s = firstMismatchAll τ s rs :=
    firstMismatch_of_takesAll (by decide) (fun _ => rfl) s f rs
  have hplain : (Node.mk .ruleSet f rs).Plain :=
    .mk (fun h => absurd h (by decide)) (fun h => absurd h (by decide)) fun r hr => (hrs r hr).plain
  rw [visit.eq_1]
  refine memo_runs hplain (fun _ _ h hr => ⟨⟨s, hE ▸ h⟩, hr⟩) ?_
  dsimp only
  -- from one rule to the next, the source is that of the text typed last
  refine Runs.bind ((visitAll_runs (s := s) (I := fun E st => ∃ s', At τ E s' st)
    (fun r hr E => visit_rule_runs hτ (hrs r hr) (hvars.child hr) E) E).pre fun _ h => ⟨s, h⟩)
      fun ps => Runs.pre_and fun _ => Runs.exists_pre fun s₁ => ?_
  exact (rebuilt_runs (k := .ruleSet) (by decide) rfl rfl rfl (fun h => absurd h (by decide))
    fun h => clean_of_or (s := s) (by rwa [hE])).imp fun _ _ h => ⟨⟨s₁, h.1⟩, h.2⟩

/-- Typing a well-formed translation from a state with no conflict succeeds and records the
translation's first conflict first. -/
theorem visit_translation_runs (hτ : ∀ v, τ v ≠ .error) {t : Node} (ht : t.IsTranslation)
    (hvars : t.TypesVars m τ) :
    Runs (At τ none none) (visit m t)
      (fun r st => (∃ s', At τ (t.firstMismatch τ none) s' st) ∧ TypedAs τ t r) := by
  cases ht with
  | text hts =>
    refine (visit_textRoot_runs hτ hts hvars none).imp fun _ _ h => ?_
    rwa [Option.none_or] at h
  | rules _ hrs =>
    refine (visit_ruleSet_runs hτ hrs hvars none).imp fun _ _ h => ?_
    rwa [Option.none_or, ← firstMismatch_of_takesAll (k := .ruleSet) (by decide) (fun _ => rfl)] at h

/-- The walk starts from a state with no conflict. -/
theorem at_start : At τ none none {} :=
  ⟨Memo.All.empty _, rfl, fun _ => Memo.All.empty _, rfl⟩

end Steps

end Typing

namespace TypeMap

/-- The type a map gives a variable, `unknown` for one it lacks. -/
def varType (m : TypeMap) (v : Datum) : Ty := (m.typeOf? v).getD .unknown

/-- A variable the map has is looked up with its type. -/
theorem typeOf_of_typeOf? {m : TypeMap} {s : String} {ty : Ty}
    (h : m.typeOf? (.str s) = some ty) : (m.typeOf (.str s)).map (·.2) = .ok ty := by
  obtain ⟨i, hi⟩ : ∃ i, m.indexOf? (.str s) = some i := by
    rw [← Option.isSome_iff_exists]
    simp only [typeOf?, info?, Option.map_map, Option.map_eq_some_iff] at h
    obtain ⟨e, he, -⟩ := h
    simp only [indexOf?, List.findIdx?_isSome, List.any_eq_true]
    exact ⟨e, List.mem_of_find?_eq_some he, by simpa using List.find?_some he⟩
  simp only [typeOf?, Option.map_eq_some_iff] at h
  obtain ⟨info, hinfo, rfl⟩ := h
  simp [typeOf, getInfo_str_of_some hi, entryOf, hinfo, Except.map]

/-- Typing a tree with a key from a frozen map without conflicts is the walk from the empty state,
failing with the first conflict the walk records. -/
theorem typeTree_of_run {m : TypeMap} {t r : Node} {st : TypingState}
    (hf : m.frozen = true) (he : m.errors = []) (hk : t.unhashable? = none)
    (h : (Typing.visit m t).run {} = .ok (r, st)) :
    m.typeTree t = match st.errors with
      | e :: _ => .error (.typeMismatch e)
      | [] => .ok r := by
  have hthrow : m.throwErrors = .ok () := by simp [throwErrors, firstError, he]
  simp only [typeTree, hf, Bool.not_true, Bool.false_eq_true, if_false, hthrow,
    Node.requireKey_ok hk, h]
  rfl

end TypeMap

end Lingo
