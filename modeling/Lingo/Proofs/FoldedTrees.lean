import Mathlib.Data.List.Chain
import Lingo.Proofs.Passes

/-!
# Folded trees

A tree is *folded* (`Node.Folded`) when constant folding has no work left at any of its nodes:
no negated literal, no operator between two literals, no product by a number of a product that
ends in a number, and no text with an interpolated literal or two literal texts side by side.
Whether there is work at a node depends only on its kind and on the kinds of its children and
grandchildren (`Node.foldsAt`), so a tree with the key of a folded tree is folded.

A round of folding over a folded tree with a key gives back, at every node, what the memo holds
for it or else the node itself (`Node.foldM_folded`): every step keeps the key of what it
rebuilds, and settling then returns the original node. So folding a folded tree gives the tree
(`Node.fold_folded`).
-/

namespace Lingo

/-! ## Results of arithmetic can be keys -/

namespace Datum

/-- Scalar arithmetic gives a scalar, which can be a key. -/
theorem unhashable_of_map_scalar {r : Except ArithError Scalar} {v : Datum}
    (h : scalar <$> r = .ok v) : v.unhashable? = Option.none := by
  cases r with
  | error e => cases h
  | ok s =>
    cases h
    rfl

theorem add_unhashable {a b v : Datum} (ha : a.unhashable? = Option.none)
    (h : a.add b = .ok v) : v.unhashable? = Option.none := by
  cases a with
  | list _ | dict _ => simp [unhashable?] at ha
  | safe _ => cases b <;> cases h
  | scalar x =>
    cases b with
    | scalar y => exact unhashable_of_map_scalar h
    | _ => cases x <;> cases h

theorem sub_unhashable {a b v : Datum} (h : a.sub b = .ok v) : v.unhashable? = Option.none := by
  cases a with
  | scalar x =>
    cases b with
    | scalar y => exact unhashable_of_map_scalar h
    | _ => cases h
  | _ => cases h

theorem mul_unhashable {a b v : Datum} (ha : a.unhashable? = Option.none)
    (hb : b.unhashable? = Option.none) (h : a.mul b = .ok v) : v.unhashable? = Option.none := by
  -- only a list is repeated, and neither operand is one
  cases a with
  | list _ | dict _ => simp [unhashable?] at ha
  | safe _ =>
    cases b with
    | list _ | dict _ => simp [unhashable?] at hb
    | scalar y => cases y <;> cases h
    | safe _ => cases h
  | scalar x =>
    cases b with
    | list _ | dict _ => simp [unhashable?] at hb
    | safe _ => cases x <;> cases h
    | scalar y => exact unhashable_of_map_scalar h

theorem div_unhashable {a b v : Datum} (h : a.div b = .ok v) : v.unhashable? = Option.none := by
  cases a with
  | scalar x =>
    cases b with
    | scalar y => exact unhashable_of_map_scalar h
    | _ => cases h
  | _ => cases h

theorem neg_unhashable {a v : Datum} (h : a.neg = .ok v) : v.unhashable? = Option.none := by
  cases a with
  | scalar x => exact unhashable_of_map_scalar h
  | _ => cases h

end Datum

/-! ## The normal form -/

theorem Kind.isLiteral_eq_false {k : Kind} :
    k.isLiteral = false ↔ k ≠ .number ∧ k ≠ .stringLit := by
  cases k <;> simp [Kind.isLiteral]

namespace Node

/-- What folding reads of a node's children to decide whether it has work at the node itself:
each child's kind and the kinds of the child's children. -/
def shapes (cs : List Node) : List (Kind × List Kind) :=
  cs.map fun c => (c.kind, c.children.map kind)

/-- Whether a text fragment, given by its shapes, is an interpolated literal. -/
def isLiteralPiece : Kind × List Kind → Bool
  | (.textExpr, [e]) => e.isLiteral
  | _ => false

/-- Whether a text, given by the shapes of its fragments, has nothing to merge: no interpolated
literal, and no two literal texts side by side. -/
def textMerged (o : List (Kind × List Kind)) : Bool :=
  o.all (!isLiteralPiece ·) &&
    decide ((o.map (·.1)).IsChain fun a b => ¬(a = Kind.literal ∧ b = Kind.literal))

/-- Whether the children of a product, given by their kinds, are a factor and a number. -/
def endsInNumber : List Kind → Bool
  | [_, k] => k == .number
  | _ => false

/-- Whether folding has work at a node of kind `k` whose children have shapes `o`: a negated
literal, an operator between two literals, a product by a number of a product that ends in a
number, or a text with something to merge. -/
def foldsAt : Kind → List (Kind × List Kind) → Bool
  | .neg, [(o, _)] => o.isLiteral
  | .add, [(l, _), (r, _)] | .sub, [(l, _), (r, _)] | .div, [(l, _), (r, _)] =>
      l.isLiteral && r.isLiteral
  | .mul, [(l, ls), (r, _)] =>
      (l.isLiteral && r.isLiteral) || (l == .mul && r == .number && endsInNumber ls)
  | .textRoot, o => !textMerged o
  | _, _ => false

/-- A tree in which folding has no work left at any node. -/
inductive Folded : Node → Prop
  | mk {k : Kind} {f : Fields} {cs : List Node} (hk : foldsAt k (shapes cs) = false)
      (hcs : ∀ c ∈ cs, Folded c) : Folded (.mk k f cs)

theorem kind_eq_of_sameKey {nanEq : Bool} {a b : Node} (h : sameKey nanEq a b = true) :
    a.kind = b.kind := by
  obtain ⟨k, f, cs⟩ := a
  obtain ⟨k', f', cs'⟩ := b
  exact ((sameKey_mk nanEq k k' f f' cs cs').1 h).1

theorem map_kind_of_forall₂ {nanEq : Bool} {cs cs' : List Node}
    (h : List.Forall₂ (fun a b => sameKey nanEq a b = true) cs cs') :
    cs.map kind = cs'.map kind := by
  induction h with
  | nil => rfl
  | cons hab _ ih => simp [kind_eq_of_sameKey hab, ih]

theorem children_kinds_of_sameKey {nanEq : Bool} {a b : Node} (h : sameKey nanEq a b = true) :
    a.children.map kind = b.children.map kind := by
  obtain ⟨k, f, cs⟩ := a
  obtain ⟨k', f', cs'⟩ := b
  exact map_kind_of_forall₂ ((sameKey_mk nanEq k k' f f' cs cs').1 h).2.2

/-- Children with the same keys have the same shapes. -/
theorem shapes_of_forall₂ {nanEq : Bool} {cs cs' : List Node}
    (h : List.Forall₂ (fun a b => sameKey nanEq a b = true) cs cs') : shapes cs = shapes cs' := by
  induction h with
  | nil => rfl
  | @cons a b _ _ hab _ ih =>
    obtain ⟨k, f, as⟩ := a
    obtain ⟨k', f', bs⟩ := b
    obtain ⟨rfl, -, hchildren⟩ := (sameKey_mk nanEq k k' f f' as bs).1 hab
    simp only [shapes, List.map_cons] at ih ⊢
    rw [ih]
    simp [kind, children, map_kind_of_forall₂ hchildren]

/-- Folding has no more work in what has the key of a folded tree. -/
theorem Folded.of_sameKey {a b : Node} (h : sameKey true a b = true) (ha : a.Folded) :
    b.Folded := by
  induction ha generalizing b with
  | @mk k f cs hk _ ih =>
    obtain ⟨k', f', cs'⟩ := b
    obtain ⟨rfl, -, hcs⟩ := (sameKey_mk true k k' f f' cs cs').1 h
    refine .mk (shapes_of_forall₂ hcs ▸ hk) fun c' hc' => ?_
    obtain ⟨c, hc, hcc'⟩ := exists_of_forall₂_left hcs.flip hc'
    exact ih c hc hcc'

end Node

/-! ## Steps that succeed -/

/-- A step that succeeds from every state with `P`, ending in a state with `P` and giving a
result with `Q`. -/
def Succeeds {σ ε α : Type} (P : σ → Prop) (x : StateT σ (Except ε) α) (Q : α → Prop) : Prop :=
  ∀ s, P s → ∃ a s', x.run s = .ok (a, s') ∧ P s' ∧ Q a

namespace Succeeds

variable {σ ε α β : Type} {P : σ → Prop}

theorem pure' {a : α} {Q : α → Prop} (h : Q a) : Succeeds P (pure a : StateT σ (Except ε) α) Q :=
  fun s hs => ⟨a, s, rfl, hs, h⟩

theorem bind {x : StateT σ (Except ε) α} {f : α → StateT σ (Except ε) β} {Q : α → Prop}
    {R : β → Prop} (hx : Succeeds P x Q) (hf : ∀ a, Q a → Succeeds P (f a) R) :
    Succeeds P (x >>= f) R := by
  intro s hs
  obtain ⟨a, s₁, hrun, hs₁, ha⟩ := hx s hs
  obtain ⟨b, s₂, hrun', hs₂, hb⟩ := hf a ha s₁ hs₁
  refine ⟨b, s₂, ?_, hs₂, hb⟩
  rw [StateT.run_bind, hrun]
  exact hrun'

theorem imp {x : StateT σ (Except ε) α} {Q R : α → Prop} (hx : Succeeds P x Q)
    (h : ∀ a, Q a → R a) : Succeeds P x R := fun s hs =>
  let ⟨a, s', hrun, hs', ha⟩ := hx s hs
  ⟨a, s', hrun, hs', h a ha⟩

theorem modify' {f : σ → σ} (h : ∀ s, P s → P (f s)) :
    Succeeds P (modify f : StateT σ (Except ε) PUnit) (fun _ => True) :=
  fun s hs => ⟨⟨⟩, f s, rfl, h s hs, trivial⟩

theorem mapM {γ : Type} {g : γ → StateT σ (Except ε) α} {R : γ → α → Prop} {l : List γ}
    (h : ∀ c ∈ l, Succeeds P (g c) (R c)) :
    Succeeds P (l.mapM g) (fun rs => List.Forall₂ (fun r c => R c r) rs l) := by
  induction l with
  | nil => exact pure' .nil
  | cons c l ih =>
    rw [List.mapM_cons]
    refine bind (h c List.mem_cons_self) fun r hr => ?_
    refine bind (ih fun d hd => h d (List.mem_cons_of_mem _ hd)) fun rs hrs => ?_
    exact pure' (.cons hr hrs)

theorem run_eq {x : StateT σ (Except ε) α} {a : α} (h : Succeeds P x (· = a)) {s : σ}
    (hs : P s) : ∃ s', x.run s = .ok (a, s') ∧ P s' := by
  obtain ⟨b, s', hrun, hs', rfl⟩ := h s hs
  exact ⟨s', hrun, hs'⟩

end Succeeds

namespace Node

/-! ## A round over a folded tree -/

/-- The memo of a round of folding over a folded tree: each result has the key of its node. -/
abbrev MemoKeepsKeys (memo : Memo) : Prop := memo.All fun a r => sameKey true r a = true

/-- What a memo whose results keep their keys gives a node has the key of that node. -/
theorem find?_getD_sameKey {memo : Memo} (hm : MemoKeepsKeys memo) {n : Node}
    (hn : n.unhashable? = none) : sameKey true ((memo.find? n).getD n) n = true := by
  cases hfind : memo.find? n with
  | none => exact sameKey_self hn
  | some r =>
    simp only [Memo.find?, Option.map_eq_some_iff] at hfind
    obtain ⟨e, he, rfl⟩ := hfind
    have hkey := List.find?_some he
    exact sameKey_trans (hm e (List.mem_of_find?_eq_some he)) hkey hn

/-- Settling a result with the key of its node, and remembering it, gives the node itself. -/
theorem settle_succeeds {n r : Node} (h : sameKey true r n = true) (hn : n.unhashable? = none) :
    Succeeds MemoKeepsKeys (modify (fun memo : Memo => memo.insert n (settle n r)) >>= fun _ =>
      pure (settle n r) : TransformM Node) (· = n) := by
  have hsettle : settle n r = n := if_pos h
  rw [hsettle]
  exact Succeeds.bind (Succeeds.modify' fun _ hs => hs.insert (sameKey_self hn)) fun _ _ =>
    Succeeds.pure' rfl

/-- Putting a node back together from children with the keys of its own gives the node. -/
theorem rebuildM_succeeds {P : Memo → Prop} {n : Node} {cs : List Node}
    (hcs : List.Forall₂ (fun a b => sameKey true a b = true) cs n.children)
    (hn : n.unhashable? = none) : Succeeds P (Folding.rebuildM n cs n.fields) (· = n) := by
  have hfields : ∀ fld ∈ n.kind.fields, Fields.agreeOn true n.fields n.fields fld = true := by
    obtain ⟨k, f, cs₀⟩ := n
    exact fun fld hfld => agreeOn_self ((keyed_mk.1 hn).1 fld hfld)
  have hall : n.kind.fields.all (Fields.agreeOn true n.fields n.fields ·) = true :=
    List.all_eq_true.2 hfields
  have hreb : n.rebuild cs n.fields = .ok n := by
    simp only [rebuild, (sameKeys_iff_forall₂ true).2 hcs, hall, Bool.and_self, if_true]
    rfl
  unfold Folding.rebuildM TransformM.ofBuild
  rw [hreb]
  exact Succeeds.pure' rfl

theorem textMerged_cons (c : Node) (rest : List Node) :
    textMerged (shapes (c :: rest)) = true ↔
      isLiteralPiece (c.kind, c.children.map kind) = false ∧ textMerged (shapes rest) = true ∧
        (c.kind = .literal → ∀ d ∈ rest.head?, d.kind ≠ .literal) := by
  cases rest with
  | nil => simp [textMerged, shapes]
  | cons d rest =>
    simp only [textMerged, shapes, List.map_cons, List.all_cons, Bool.and_eq_true,
      decide_eq_true_eq, List.isChain_cons_cons, List.head?_cons, Option.mem_def,
      Option.some.injEq, forall_eq', Bool.not_eq_true']
    tauto

/-- A text with nothing to merge comes out of merging as it went in. -/
theorem mergeRuns_merged {P : Memo → Prop} (cs : List Node) :
    ∀ (done : List Node) (current : Option Nat), textMerged (shapes cs) = true →
      (current = none ∨ ∀ c ∈ cs.head?, c.kind ≠ .literal) →
      Succeeds P (Folding.mergeRuns cs done current) (· = done ++ cs) := by
  induction cs with
  | nil =>
    intro done current _ _
    unfold Folding.mergeRuns
    exact Succeeds.pure' (List.append_nil done).symm
  | cons c rest ih =>
    intro done current hmerged hcur
    obtain ⟨hpiece, hrest, hnext⟩ := (textMerged_cons c rest).1 hmerged
    unfold Folding.mergeRuns
    have happend : done ++ [c] ++ rest = done ++ c :: rest := by simp
    -- the fragment goes on the list as it is; a literal text opens a run that the next fragment
    -- does not continue
    have hkeep := Folding.mergeRuns_fragment_cases (R := (Succeeds P · (· = done ++ c :: rest)))
      c rest done current
      (fun hlit _ => (ih _ _ hrest (.inr (hnext hlit))).imp fun _ h => h.trans happend)
      (fun _ hlit hsome => by
        rcases hcur with h | h
        · exact absurd (h.symm.trans hsome).symm (Option.some_ne_none _)
        · exact absurd hlit (h c rfl))
      (fun _ => (ih _ _ hrest (.inl rfl)).imp fun _ h => h.trans happend)
    dsimp only
    split
    · next e hkind hchildren =>
      have he : e.kind.isLiteral = false := by
        rw [hkind, hchildren] at hpiece
        simpa [isLiteralPiece] using hpiece
      rw [if_neg (by simp [he])]
      exact Succeeds.bind (Succeeds.pure' (Q := (· = none)) rfl) fun _ hp => hp ▸ hkeep
    · exact Succeeds.bind (Succeeds.pure' (Q := (· = none)) rfl) fun _ hp => hp ▸ hkeep

/-- A node put back together from children with the keys of its own, then settled and
remembered, is the node itself. -/
theorem rebuild_settle_succeeds {n : Node} {cs : List Node}
    (hcs : List.Forall₂ (fun a b => sameKey true a b = true) cs n.children)
    (hn : n.unhashable? = none) :
    Succeeds MemoKeepsKeys (Folding.rebuildM n cs n.fields >>= fun r =>
      modify (fun memo : Memo => memo.insert n (settle n r)) >>= fun _ => pure (settle n r))
      (· = n) :=
  Succeeds.bind (rebuildM_succeeds hcs hn) fun r hr => by
    subst hr
    exact settle_succeeds (sameKey_self hn) hn

/-- A second round of folding over a folded tree gives each node back as it was, or the result
remembered for its key. -/
theorem foldM_folded {n : Node} (hn : n.Folded) (hk : n.unhashable? = none) {memo : Memo}
    (hm : MemoKeepsKeys memo) :
    ∃ memo', (foldM n).run memo = .ok ((memo.find? n).getD n, memo') ∧ MemoKeepsKeys memo' := by
  induction hn generalizing memo with
  | @mk k f cs hfolds hcs ih =>
    have hchildren := (keyed_mk.1 hk).2
    -- each child comes back with its own key
    have hchild : ∀ c ∈ cs, Succeeds MemoKeepsKeys (foldM c) (fun r => sameKey true r c = true) := by
      intro c hc memo₀ hm₀
      obtain ⟨memo', hrun, hm'⟩ := ih c hc (hchildren c hc) hm₀
      exact ⟨_, memo', hrun, hm', find?_getD_sameKey hm₀ (hchildren c hc)⟩
    rw [foldM.eq_1]
    cases hfind : memo.find? (.mk k f cs) with
    | some r =>
      simp only [StateT.run_bind, StateT.run_get, pure_bind, hfind]
      exact ⟨memo, rfl, hm⟩
    | none =>
      simp only [StateT.run_bind, StateT.run_get, pure_bind, hfind, Option.getD_none]
      refine Succeeds.run_eq ?_ hm
      split
      · -- a negation of no literal is put back as it was
        next o =>
        refine Succeeds.bind (hchild o (by simp)) fun o' ho => ?_
        have hlit : o.kind.isLiteral = false := by simpa [foldsAt, shapes] using hfolds
        obtain ⟨hnum, hstr⟩ := Kind.isLiteral_eq_false.1 hlit
        have hkind : o'.kind = o.kind := kind_eq_of_sameKey ho
        rw [hkind, if_neg hstr, if_neg hnum]
        exact rebuild_settle_succeeds (.cons ho .nil) hk
      -- an operator is put back as it was: its operands are not both literals, and no product
      -- by a number of a product that ends in a number is left to fold
      case h_2 | h_3 | h_4 | h_5 =>
        rename_i l r
        refine Succeeds.bind (hchild l (by simp)) fun l' hl => ?_
        refine Succeeds.bind (hchild r (by simp)) fun r' hr => ?_
        have hlk := kind_eq_of_sameKey hl
        have hrk := kind_eq_of_sameKey hr
        have hlc := children_kinds_of_sameKey hl
        have hnotlit : (l'.kind.isLiteral && r'.kind.isLiteral) = false := by
          rw [hlk, hrk]
          cases h : (l.kind.isLiteral && r.kind.isLiteral)
          · rfl
          · simp [foldsAt, shapes, h] at hfolds
        simp only [hnotlit, Bool.false_eq_true, if_false]
        -- a sum, a difference or a quotient is put back at once; a product first asks whether
        -- its left operand is a product that ends in a number
        first
        | exact rebuild_settle_succeeds (.cons hl (.cons hr .nil)) hk
        | split
          · next x c hmul hnum hxc =>
            split
            · next hc =>
              rw [hxc] at hlc
              simp [foldsAt, shapes, endsInNumber, ← hlk, ← hrk, hmul, hnum, ← hlc, hc] at hfolds
            · exact rebuild_settle_succeeds (.cons hl (.cons hr .nil)) hk
          · exact rebuild_settle_succeeds (.cons hl (.cons hr .nil)) hk
      · -- a text with nothing to merge keeps its fragments
        refine Succeeds.bind (Succeeds.mapM hchild) fun cs' hcs' => ?_
        have hmerged : textMerged (shapes cs') = true := by
          rw [shapes_of_forall₂ hcs']
          simpa [foldsAt] using hfolds
        refine Succeeds.bind (mergeRuns_merged cs' [] none hmerged (.inl rfl)) fun merged hm' => ?_
        rw [hm', List.nil_append]
        have hkey : sameKey true (.mk .textRoot { input := f.input } cs') (.mk .textRoot f cs) := by
          refine (sameKey_mk true _ _ _ _ _ _).2 ⟨rfl, fun fld hfld => ?_, hcs'⟩
          simp [Kind.fields] at hfld
          simp [hfld, Fields.agreeOn]
        exact settle_succeeds hkey hk
      · -- every other node is put back from its children
        refine Succeeds.bind (Succeeds.mapM hchild) fun cs' hcs' => ?_
        exact rebuild_settle_succeeds hcs' hk

theorem requireKey_ok {t : Node} (hk : t.unhashable? = none) : t.requireKey = .ok () := by
  simp only [requireKey, hk]
  rfl

/-- Folding a folded tree that has a key gives the tree back. -/
theorem fold_folded {t : Node} (ht : t.Folded) (hk : t.unhashable? = none) : t.fold = .ok t := by
  obtain ⟨memo', hrun, -⟩ := foldM_folded ht hk (Memo.All.empty _)
  have hrun' : (foldM t).run' {} = .ok t := by
    change (fun x => x.1) <$> (foldM t).run {} = _
    rw [hrun]
    rfl
  simp only [fold, requireKey_ok hk, hrun']
  rfl

end Node

end Lingo
