import Lingo.Analysis
import Lingo.Proofs.Tests

/-!
# The analysis passes keep each rule's constraints

Typing and constant folding walk the tree with a memo (`Memo`): a node whose key was met before
takes the earlier node's result. Neither pass changes what a rule tests. Typing never enters a
constraint list, and folding finds nothing to fold in one; a remembered result may come from
another rule whose list merely has the same key. So every rule of the analysed rule set carries a
constraint list with the key of its own (`TypeMap.analyze_ruleSet`), which tests what the original
list tests (`Node.rootTestsAs_of_sameKey`).

The walks are state monads over `Except`. `Keeps P x Q` says that a step `x` which succeeds keeps
the invariant `P` of the state and gives a result with property `Q`; the invariants here say what
the memo's entries hold of their results. Typing rebuilds each node with the fields of the source
but its type and constancy mark (`Typing.Retyped`), so every relation that survives such a rebuild
holds between a node and its typed form (`Typing.visit_keeps_of`).
-/

namespace Lingo

/-- A step that succeeds from a state with `P` ends in a state with `P` and gives a result with
`Q`. -/
def Keeps {σ ε α : Type} (P : σ → Prop) (x : StateT σ (Except ε) α) (Q : α → Prop) : Prop :=
  ∀ s a s', P s → x.run s = .ok (a, s') → P s' ∧ Q a

namespace Keeps

variable {σ ε α β : Type} {P : σ → Prop}

theorem pure' {a : α} {Q : α → Prop} (h : Q a) : Keeps P (pure a : StateT σ (Except ε) α) Q := by
  intro s b s' hs hrun
  cases hrun
  exact ⟨hs, h⟩

theorem bind {x : StateT σ (Except ε) α} {f : α → StateT σ (Except ε) β} {Q : α → Prop}
    {R : β → Prop} (hx : Keeps P x Q) (hf : ∀ a, Q a → Keeps P (f a) R) : Keeps P (x >>= f) R := by
  intro s b s' hs hrun
  rw [StateT.run_bind] at hrun
  cases hx' : x.run s with
  | error e => rw [hx'] at hrun; cases hrun
  | ok p =>
    rw [hx'] at hrun
    obtain ⟨hp, hq⟩ := hx s p.1 p.2 hs hx'
    exact hf p.1 hq p.2 b s' hp hrun

theorem imp {x : StateT σ (Except ε) α} {Q R : α → Prop} (hx : Keeps P x Q)
    (h : ∀ a, Q a → R a) : Keeps P x R := fun s a s' hs hrun =>
  let ⟨hp, hq⟩ := hx s a s' hs hrun
  ⟨hp, h a hq⟩

theorem get_bind {f : σ → StateT σ (Except ε) β} {R : β → Prop}
    (hf : ∀ s, P s → Keeps P (f s) R) : Keeps P (get >>= f) R := by
  intro s b s' hs hrun
  exact hf s hs s b s' hs hrun

theorem modify' {f : σ → σ} (h : ∀ s, P s → P (f s)) :
    Keeps P (modify f : StateT σ (Except ε) PUnit) (fun _ => True) := by
  intro s a s' hs hrun
  cases hrun
  exact ⟨h s hs, trivial⟩

theorem set' {s₀ : σ} (h : P s₀) : Keeps P (set s₀ : StateT σ (Except ε) PUnit) (fun _ => True) := by
  intro s a s' _ hrun
  cases hrun
  exact ⟨h, trivial⟩

theorem throw' {e : ε} {Q : α → Prop} : Keeps P (throw e : StateT σ (Except ε) α) Q := by
  intro s a s' _ hrun
  cases hrun

theorem mapM {γ : Type} {g : γ → StateT σ (Except ε) α} {R : γ → α → Prop} {l : List γ}
    (h : ∀ c ∈ l, Keeps P (g c) (R c)) :
    Keeps P (l.mapM g) (fun rs => List.Forall₂ (fun r c => R c r) rs l) := by
  induction l with
  | nil => exact pure' .nil
  | cons c l ih =>
    rw [List.mapM_cons]
    refine bind (h c List.mem_cons_self) fun r hr => ?_
    refine bind (ih fun d hd => h d (List.mem_cons_of_mem _ hd)) fun rs hrs => ?_
    exact pure' (.cons hr hrs)

end Keeps

/-- Putting a node back together gives the node itself, when the new children and fields have
the keys of its own, or a node of its kind with the new children and fields. -/
theorem Node.rebuild_cases {n r : Node} {cs : List Node} {f : Fields} (h : n.rebuild cs f = .ok r) :
    (r = n ∧ Node.sameKey true (.mk n.kind f cs) n = true) ∨ r = .mk n.kind f cs := by
  unfold Node.rebuild at h
  split at h
  · next hsame =>
    cases h
    refine .inl ⟨rfl, ?_⟩
    obtain ⟨k, f₀, cs₀⟩ := n
    simp only [Bool.and_eq_true, List.all_eq_true] at hsame
    exact (Node.sameKey_mk true k k f f₀ cs cs₀).2
      ⟨rfl, hsame.2, (Node.sameKeys_iff_forall₂ true).1 hsame.1⟩
  · right
    simp only [bind, Except.bind] at h
    split at h
    · cases h
    · split at h
      · cases h
      · split at h
        · cases h
        · cases h
          rfl

theorem Node.rebuild_eq {n r : Node} {cs : List Node} {f : Fields} (h : n.rebuild cs f = .ok r) :
    r = n ∨ r = .mk n.kind f cs := by
  rcases Node.rebuild_cases h with ⟨rfl, -⟩ | rfl
  · exact .inl rfl
  · exact .inr rfl

theorem settle_cases (n r : Node) : settle n r = n ∨ settle n r = r := by
  unfold settle
  split
  · exact .inl rfl
  · exact .inr rfl

/-- A node put back together and settled is the node itself or the node with the new children. -/
theorem settle_rebuild {k : Kind} {f : Fields} {cs cs' : List Node} {r : Node}
    (h : (Node.mk k f cs).rebuild cs' f = .ok r) :
    settle (.mk k f cs) r = .mk k f cs ∨ settle (.mk k f cs) r = .mk k f cs' := by
  rcases settle_cases (.mk k f cs) r with hs | hs <;> rw [hs]
  · exact .inl rfl
  · rcases Node.rebuild_eq h with rfl | rfl
    · exact .inl rfl
    · exact .inr rfl

/-! ## Trees that folding leaves alone -/

namespace Node

/-- A tree with no negation, arithmetic or text anywhere in it: folding keeps its key. -/
inductive FoldsInert : Node → Prop
  | mk {k : Kind} {f : Fields} {cs : List Node} (hk : k ∉ [.neg, .add, .sub, .mul, .div, .textRoot])
      (hcs : ∀ c ∈ cs, FoldsInert c) : FoldsInert (.mk k f cs)

theorem FoldsInert.leaf {k : Kind} {f : Fields} (hk : k ∉ [.neg, .add, .sub, .mul, .div, .textRoot]) :
    FoldsInert (.mk k f []) :=
  .mk hk fun _ h => nomatch h

theorem IsIdent.foldsInert {x : Node} (hx : x.IsIdent) : x.FoldsInert := by
  obtain ⟨f, s, rfl, -⟩ := hx
  exact .leaf (by decide)

theorem IsValue.foldsInert {v : Node} (hv : v.IsValue) : v.FoldsInert := by
  cases hv <;> exact .leaf (by decide)

theorem IsConstraint.foldsInert {c : Node} (hc : c.IsConstraint) : c.FoldsInert := by
  cases hc with
  | ignore hx =>
    refine .mk (by decide) fun d hd => ?_
    rcases List.mem_singleton.1 hd with rfl
    exact hx.foldsInert
  | equality _ _ hx hv =>
    refine .mk (by decide) fun d hd => ?_
    rcases List.mem_pair.1 hd with rfl | rfl
    · exact hx.foldsInert
    · exact hv.foldsInert
  | inequality _ _ hx hv =>
    refine .mk (by decide) fun d hd => ?_
    rcases List.mem_pair.1 hd with rfl | rfl
    · exact hx.foldsInert
    · subst hv
      exact .leaf (by decide)

theorem foldsInert_constraintRoot {f : Fields} {cs : List Node} (hcs : ∀ c ∈ cs, c.IsConstraint) :
    (Node.mk .constraintRoot f cs).FoldsInert :=
  .mk (by decide) fun c hc => (hcs c hc).foldsInert

/-- What has the key of a tree that folding leaves alone is left alone too. -/
theorem FoldsInert.of_sameKey {a b : Node} (h : sameKey true a b = true) (hb : b.FoldsInert) :
    a.FoldsInert := by
  induction hb generalizing a with
  | @mk k f cs hk _ ih =>
    obtain ⟨f', cs', rfl, -, hcs⟩ := sameKey_mk_right h
    refine .mk hk fun c hc => ?_
    obtain ⟨d, hd, hcd⟩ := exists_of_forall₂_left hcs hc
    exact ih d hd hcd

/-! ## What the passes keep of a node -/

/-- A rule comes out as a rule whose constraint list has the key of its own, when that list
has a key and holds no arithmetic or text. -/
def KeepsConstraints (n r : Node) : Prop :=
  ∀ f c t, n = .mk .rule f [c, t] → c.FoldsInert → c.unhashable? = none →
    ∃ f' c' t', r = .mk .rule f' [c', t'] ∧ sameKey true c' c = true

theorem KeepsConstraints.refl (n : Node) : KeepsConstraints n n := by
  intro f c t hn _ hc
  exact ⟨f, c, t, hn, sameKey_self hc⟩

/-- A rule that keeps its constraint list keeps the key of it. -/
theorem KeepsConstraints.rule {f f' : Fields} {c t t' : Node} :
    KeepsConstraints (.mk .rule f [c, t]) (.mk .rule f' [c, t']) := by
  intro f₀ c₀ t₀ hn _ hc
  cases hn
  exact ⟨f', c, t', rfl, sameKey_self hc⟩

/-- A result remembered for a node serves every node with its key. -/
theorem KeepsConstraints.of_sameKey {a n r : Node} (h : KeepsConstraints a r)
    (hkey : sameKey true a n = true) : KeepsConstraints n r := by
  intro f c t hn hinert hc
  subst hn
  obtain ⟨f₁, cs₁, rfl, -, hcs⟩ := sameKey_mk_right hkey
  obtain ⟨c₁, t₁, rfl, hc₁, -⟩ := forall₂_pair hcs
  obtain ⟨f', c', t', hr, hc'⟩ :=
    h f₁ c₁ t₁ rfl (hinert.of_sameKey hc₁) (unhashable_of_sameKey hc₁ hc)
  exact ⟨f', c', t', hr, sameKey_trans hc' hc₁ hc⟩

/-- What folding keeps: a tree that it leaves alone keeps its key, and a rule the key of its
constraint list. -/
def FoldKeeps (n r : Node) : Prop :=
  (n.FoldsInert → n.unhashable? = none → sameKey true r n = true) ∧ KeepsConstraints n r

theorem FoldKeeps.refl (n : Node) : FoldKeeps n n :=
  ⟨fun _ h => sameKey_self h, KeepsConstraints.refl n⟩

theorem FoldKeeps.settle {n r : Node} (h : FoldKeeps n r) : FoldKeeps n (settle n r) := by
  rcases settle_cases n r with h' | h' <;> rw [h']
  · exact FoldKeeps.refl n
  · exact h

theorem FoldKeeps.of_sameKey {a n r : Node} (h : FoldKeeps a r) (hkey : sameKey true a n = true) :
    FoldKeeps n r := by
  refine ⟨fun hinert hn => ?_, h.2.of_sameKey hkey⟩
  have ha := unhashable_of_sameKey hkey hn
  exact sameKey_trans (h.1 (hinert.of_sameKey hkey) ha) hkey hn

/-- Arithmetic and text make no promise. -/
theorem FoldKeeps.of_kind {k : Kind} {f : Fields} {cs : List Node} (r : Node)
    (hk : k ∈ [.neg, .add, .sub, .mul, .div, .textRoot]) : FoldKeeps (.mk k f cs) r := by
  refine ⟨fun hinert _ => ?_, fun f₀ c t hn _ _ => ?_⟩
  · cases hinert
    contradiction
  · cases hn
    simp at hk

/-- A node put back together from children that keep what folding keeps keeps it too. -/
theorem FoldKeeps.rebuild {k : Kind} {f : Fields} {cs cs' : List Node} {r : Node}
    (hr : (Node.mk k f cs).rebuild cs' f = .ok r)
    (hcs : List.Forall₂ (fun r c => FoldKeeps c r) cs' cs) : FoldKeeps (.mk k f cs) r := by
  rcases rebuild_eq hr with rfl | rfl
  · exact FoldKeeps.refl _
  refine ⟨fun hinert hn => ?_, fun f₀ c t hn hinert hc => ?_⟩
  · obtain ⟨hfields, hchildren⟩ := keyed_mk.1 hn
    cases hinert with
    | mk _ hinert =>
      refine (sameKey_mk true k k f f cs' cs).2 ⟨rfl, fun fld hfld => agreeOn_self (hfields fld hfld), ?_⟩
      exact forall₂_imp_mem hcs fun a b hb hab => hab.1 (hinert b hb) (hchildren b hb)
  · cases hn
    obtain ⟨c', t', rfl, hcc, -⟩ : ∃ c' t', cs' = [c', t'] ∧ FoldKeeps c c' ∧ FoldKeeps t t' := by
      cases hcs with
      | cons hc' hrest =>
        cases hrest with
        | cons ht' hnil =>
          cases hnil
          exact ⟨_, _, rfl, hc', ht'⟩
    exact ⟨f, c', t', rfl, hcc.1 hinert hc⟩

end Node

namespace Memo

/-- Every entry of the memo relates its node and its result by `R`. -/
def All (R : Node → Node → Prop) (memo : Memo) : Prop := ∀ e ∈ memo.entries, R e.1 e.2

theorem All.empty (R : Node → Node → Prop) : Memo.All R {} := fun _ h => nomatch h

theorem All.insert {R : Node → Node → Prop} {memo : Memo} {n r : Node} (h : memo.All R)
    (hn : R n r) : (memo.insert n r).All R := by
  intro e he
  rcases List.mem_cons.1 he with rfl | he
  · exact hn
  · exact h e he

/-- A remembered result serves a node when the relation carries over to nodes of the same key. -/
theorem All.find {R : Node → Node → Prop} {memo : Memo} {n r : Node} (h : memo.All R)
    (hR : ∀ a n r, R a r → Node.sameKey true a n = true → R n r) (hfind : memo.find? n = some r) :
    R n r := by
  simp only [find?, Option.map_eq_some_iff] at hfind
  obtain ⟨e, he, rfl⟩ := hfind
  have hkey := List.find?_some he
  exact hR e.1 n e.2 (h e (List.mem_of_find?_eq_some he)) hkey

end Memo

/-! ## Typing -/

namespace Typing

open Node

variable {P : TypingState → Prop}

theorem check_keeps {α : Type} {r : Except Failure α} :
    Keeps P (check r) (fun a => r = .ok a) := by
  cases r with
  | ok a => exact Keeps.pure' rfl
  | error e => exact Keeps.throw'

theorem rebuild_keeps {n : Node} {cs : List Node} {f : Fields} :
    Keeps P (rebuild n cs f) (fun r => n.rebuild cs f = .ok r) := by
  unfold rebuild
  cases n.rebuild cs f with
  | ok a => exact Keeps.pure' rfl
  | error e => exact Keeps.throw'

theorem report_keeps {I : Memo → Prop} {ts : List Ty} {o : Node} :
    Keeps (fun st : TypingState => I st.memo) (report ts o) (fun _ => True) := by
  unfold report
  refine Keeps.bind check_keeps fun found _ => ?_
  dsimp only
  split
  · exact Keeps.pure' trivial
  · exact Keeps.get_bind fun st hst => Keeps.set' hst

theorem varTy_keeps {m : TypeMap} {n : Node} : Keeps P (varTy m n) (fun _ => True) :=
  check_keeps.imp fun _ _ => trivial

theorem isNumber_keeps {n : Node} : Keeps P (isNumber n) (fun _ => True) :=
  Keeps.bind check_keeps fun _ _ => Keeps.pure' trivial

theorem isPlusOperand_keeps {n : Node} : Keeps P (isPlusOperand n) (fun _ => True) :=
  Keeps.bind check_keeps fun _ _ => Keeps.pure' trivial

theorem anyErrorTy_keeps {ps : List Node} : Keeps P (anyErrorTy ps) (fun _ => True) := by
  induction ps with
  | nil => exact Keeps.pure' trivial
  | cons p ps ih =>
    refine Keeps.bind check_keeps fun _ _ => ?_
    split
    · exact Keeps.pure' trivial
    · exact ih

/-- The memo of the typing walk relates each node to a result that keeps its constraints. -/
abbrev MemoKeeps (st : TypingState) : Prop := st.memo.All KeepsConstraints

theorem visitAll_keeps {m : TypeMap} {cs : List Node}
    (h : ∀ c ∈ cs, Keeps MemoKeeps (visit m c) (KeepsConstraints c)) :
    Keeps MemoKeeps (visitAll m cs) (fun rs => List.Forall₂ (fun r c => KeepsConstraints c r) rs cs) := by
  induction cs with
  | nil => exact Keeps.pure' .nil
  | cons c cs ih =>
    unfold visitAll
    refine Keeps.bind (h c List.mem_cons_self) fun r hr => ?_
    refine Keeps.bind (ih fun d hd => h d (List.mem_cons_of_mem _ hd)) fun rs hrs => ?_
    exact Keeps.pure' (.cons hr hrs)

/-- Typing keeps the key of every rule's constraint list, and so does every result it
remembers. -/
theorem visit_keeps (m : TypeMap) (n : Node) :
    Keeps MemoKeeps (visit m n) (KeepsConstraints n) := by
  induction n using Node.induction with
  | h k f cs ih =>
    rw [visit.eq_1]
    refine Keeps.get_bind fun st hst => ?_
    split
    · next r hfind => exact Keeps.pure' (hst.find (fun _ _ _ h => h.of_sameKey) hfind)
    · dsimp only
      split
      · -- a rule keeps its constraint list as it is and types its text
        next c t _ =>
        refine Keeps.bind (Keeps.modify' fun s hs => hs) fun _ _ => ?_
        refine Keeps.bind (ih t (by simp)) fun t' _ => ?_
        refine Keeps.bind rebuild_keeps fun r hr => ?_
        refine Keeps.bind (Keeps.modify' fun s hs => hs) fun _ _ => ?_
        refine Keeps.bind (Keeps.pure' (Q := fun r' => r' = r) rfl) fun r' hr' => ?_
        subst hr'
        have hkeeps : KeepsConstraints (.mk .rule f [c, t]) (settle (.mk .rule f [c, t]) r') := by
          rcases settle_rebuild hr with h | h <;> rw [h]
          · exact KeepsConstraints.refl _
          · exact KeepsConstraints.rule
        exact Keeps.bind (Keeps.modify' fun s hs => hs.insert hkeeps) fun _ _ => Keeps.pure' hkeeps
      -- every other node is no rule of two children: its result keeps nothing in particular, and
      -- each step on the way only reads the memo
      all_goals
        repeat
          first
          | (with_reducible apply Keeps.bind (ih _ (by simp))); intro _ _
          | (with_reducible apply Keeps.bind (visitAll_keeps ih)); intro _ _
          | (with_reducible apply Keeps.bind check_keeps); intro _ _
          | (with_reducible apply Keeps.bind rebuild_keeps); intro _ _
          | (with_reducible apply Keeps.bind report_keeps); intro _ _
          | (with_reducible apply Keeps.bind varTy_keeps); intro _ _
          | (with_reducible apply Keeps.bind isNumber_keeps); intro _ _
          | (with_reducible apply Keeps.bind isPlusOperand_keeps); intro _ _
          | (with_reducible apply Keeps.bind anyErrorTy_keeps); intro _ _
          | (with_reducible apply Keeps.bind (Keeps.pure' (Q := fun _ => True) trivial)); intro _ _
          | split
          | with_reducible refine Keeps.bind (Keeps.modify' fun s hs => hs) fun _ _ => ?_
          | (with_reducible refine Keeps.bind (Keeps.modify' fun s hs => Memo.All.insert hs ?_) fun _ _ => ?_
             intro _ _ _ h _ _; cases h <;> simp_all)
          | (refine Keeps.pure' ?_; intro _ _ _ h _ _; cases h <;> simp_all)

/-- The fields typing gives a node of kind `k` with fields `f`: those of `f` but the type and the
constancy mark, a variable in an expression having its map type as an expression sees it, and a
bare variable its map type. -/
structure Retyped (m : TypeMap) (k : Kind) (f f' : Fields) : Prop where
  fields : f' = { f with ty := f'.ty, const := f'.const }
  var : k = .var → ∃ ty, (m.typeOf f.name).map (·.2) = .ok ty ∧ f'.ty = some ty.narrow
  textVar : k = .textVar → ∃ ty, (m.typeOf f.name).map (·.2) = .ok ty ∧ f'.ty = some ty

/-- Any node but a variable may take any type and constancy mark. -/
theorem Retyped.other {m : TypeMap} {k : Kind} {f : Fields} {t : Option Ty} {c : Option Bool}
    (hv : k ≠ .var) (ht : k ≠ .textVar) : Retyped m k f { f with ty := t, const := c } :=
  ⟨rfl, fun h => absurd h hv, fun h => absurd h ht⟩

theorem varTy_ok {m : TypeMap} {n : Node} :
    Keeps P (varTy m n) (fun ty => (m.typeOf n.fields.name).map (·.2) = .ok ty) :=
  check_keeps

section Walk

variable {m : TypeMap} {R : Node → Node → Prop}

/-- Remembering the settled result of `n` and returning it. -/
theorem settle_insert_keeps_of (hrefl : ∀ n, R n n) {n r : Node} (hr : R n r) :
    Keeps (fun st : TypingState => st.memo.All R)
      (modify (fun s : TypingState => { s with memo := s.memo.insert n (settle n r) }) >>= fun _ =>
        pure (settle n r) : TypingM Node) (R n) := by
  have hs : R n (settle n r) := by
    rcases settle_cases n r with h | h <;> rw [h]
    · exact hrefl n
    · exact hr
  exact Keeps.bind (Keeps.modify' fun _ h => h.insert hs) fun _ _ => Keeps.pure' hs

theorem visitAll_keeps_of {cs : List Node} (h : ∀ c ∈ cs, Keeps P (visit m c) (R c)) :
    Keeps P (visitAll m cs) (fun rs => List.Forall₂ (fun r c => R c r) rs cs) := by
  induction cs with
  | nil => exact Keeps.pure' .nil
  | cons c cs ih =>
    unfold visitAll
    refine Keeps.bind (h c List.mem_cons_self) fun r hr => ?_
    refine Keeps.bind (ih fun d hd => h d (List.mem_cons_of_mem _ hd)) fun rs hrs => ?_
    exact Keeps.pure' (.cons hr hrs)

/-- A relation between nodes and their typed forms holds of every node and the form typing gives
it, and of every entry the walk remembers, when results remembered for a node carry to the nodes
of its key, every node is related to itself, and a node put back together from related children
with the fields typing gives it is related to the node. -/
theorem visit_keeps_of
    (hsame : ∀ a n r, R a r → sameKey true a n = true → R n r) (hrefl : ∀ n, R n n)
    (hrebuild : ∀ {k f cs cs' f' r}, (Node.mk k f cs).rebuild cs' f' = .ok r →
      List.Forall₂ (fun r c => R c r) cs' cs → Retyped m k f f' → R (.mk k f cs) r)
    (n : Node) : Keeps (fun st : TypingState => st.memo.All R) (visit m n) (R n) := by
  have hsettle : ∀ {k f cs cs' f'}, List.Forall₂ (fun r c => R c r) cs' cs → Retyped m k f f' →
      Keeps (fun st : TypingState => st.memo.All R) (rebuild (.mk k f cs) cs' f' >>= fun r =>
        modify (fun s : TypingState => { s with memo := s.memo.insert (.mk k f cs) (settle (.mk k f cs) r) }) >>= fun _ =>
          pure (settle (.mk k f cs) r)) (R (.mk k f cs)) := fun hcs hf =>
    Keeps.bind rebuild_keeps fun _ hr => settle_insert_keeps_of hrefl (hrebuild hr hcs hf)
  induction n using Node.induction with
  | h k f cs ih =>
    rw [visit.eq_1]
    refine Keeps.get_bind fun st hst => ?_
    split
    · next r hfind => exact Keeps.pure' (hst.find hsame hfind)
    · dsimp only
      split
      · -- rule
        next c t _ =>
        refine Keeps.bind (Keeps.modify' fun s hs => hs) fun _ _ => ?_
        refine Keeps.bind (ih t (by simp)) fun t' ht => ?_
        refine Keeps.bind rebuild_keeps fun r hr => ?_
        refine Keeps.bind (Keeps.modify' fun s hs => hs) fun _ _ => ?_
        refine Keeps.bind (Keeps.pure' (Q := fun r' => r' = r) rfl) fun r' hr' => ?_
        subst hr'
        exact settle_insert_keeps_of hrefl
          (hrebuild hr (.cons (hrefl c) (.cons ht .nil)) (Retyped.other (by decide) (by decide)))
      · -- text
        refine Keeps.bind (Keeps.modify' fun s hs => hs) fun _ _ => ?_
        exact Keeps.bind (visitAll_keeps_of ih) fun cs' hcs =>
          hsettle hcs (Retyped.other (by decide) (by decide))
      · -- constraint list
        refine Keeps.bind (Keeps.pure' (Q := (· = _)) rfl) fun r hr => ?_
        subst hr
        exact settle_insert_keeps_of hrefl (hrefl _)
      · exact hsettle (List.forall₂_same.2 fun c _ => hrefl c) (Retyped.other (by decide) (by decide))
      · exact Keeps.bind varTy_ok fun ty hty =>
          hsettle (List.forall₂_same.2 fun c _ => hrefl c) ⟨rfl, (fun h => nomatch h), fun _ => ⟨ty, hty, rfl⟩⟩
      · refine Keeps.bind (ih _ (by simp)) fun e' he => ?_
        exact Keeps.bind check_keeps fun _ _ =>
          hsettle (.cons he .nil) (Retyped.other (by decide) (by decide))
      · exact hsettle (List.forall₂_same.2 fun c _ => hrefl c) (Retyped.other (by decide) (by decide))
      · exact hsettle (List.forall₂_same.2 fun c _ => hrefl c) (Retyped.other (by decide) (by decide))
      · exact Keeps.bind varTy_ok fun ty hty =>
          hsettle (List.forall₂_same.2 fun c _ => hrefl c) ⟨rfl, (fun _ => ⟨ty, hty, rfl⟩), fun h => nomatch h⟩
      · -- negation
        refine Keeps.bind (ih _ (by simp)) fun o' ho => ?_
        repeat
          first
          | (with_reducible apply Keeps.bind isNumber_keeps); intro _ _
          | (with_reducible apply Keeps.bind report_keeps); intro _ _
          | (with_reducible apply Keeps.bind check_keeps); intro _ _
          | split
          | exact hsettle (.cons ho .nil) (Retyped.other (by decide) (by decide))
      case h_11 | h_12 | h_13 | h_14 =>
        -- arithmetic on two operands: the checks of the operands' types read nothing of the memo
        refine Keeps.bind (ih _ (by simp)) fun l' hl => ?_
        refine Keeps.bind (ih _ (by simp)) fun r' hr => ?_
        repeat
          first
          | (with_reducible apply Keeps.bind isNumber_keeps); intro _ _
          | (with_reducible apply Keeps.bind isPlusOperand_keeps); intro _ _
          | (with_reducible apply Keeps.bind report_keeps); intro _ _
          | (with_reducible apply Keeps.bind check_keeps); intro _ _
          | (with_reducible apply Keeps.bind (Keeps.pure' (Q := fun _ => True) trivial)); intro _ _
          | split
          | exact hsettle (.cons hl (.cons hr .nil)) (Retyped.other (by decide) (by decide))
      · -- a call
        refine Keeps.bind (visitAll_keeps_of ih) fun ps hps => ?_
        exact Keeps.bind anyErrorTy_keeps fun _ _ => hsettle hps (Retyped.other (by decide) (by decide))
      · -- any other node is put back together from its typed children
        exact Keeps.bind (visitAll_keeps_of ih) fun cs' hcs => hsettle hcs (Retyped.other ‹_› ‹_›)

end Walk

/-- Typing a rule set from an empty memo types each of its rules. -/
theorem visit_ruleSet {m : TypeMap} {f : Fields} {rs : List Node} {r : Node} {st : TypingState}
    (h : (visit m (.mk .ruleSet f rs)).run {} = .ok (r, st)) :
    ∃ rs', r = .mk .ruleSet f rs' ∧ List.Forall₂ (fun r' c => KeepsConstraints c r') rs' rs := by
  have hmiss : ({} : TypingState).memo.find? (.mk .ruleSet f rs) = none := rfl
  rw [visit.eq_1] at h
  simp only [StateT.run_bind, StateT.run_get, pure_bind, hmiss] at h
  obtain ⟨⟨rs', st₁⟩, hrs, h⟩ := Code.bind_eq_ok h
  obtain ⟨⟨r₀, st₂⟩, hr₀, h⟩ := Code.bind_eq_ok h
  obtain ⟨_, -, h⟩ := Code.bind_eq_ok h
  cases h
  obtain ⟨hst₁, hall⟩ := visitAll_keeps (fun c _ => visit_keeps m c) {} rs' st₁ (Memo.All.empty _) hrs
  have hreb := (rebuild_keeps (P := MemoKeeps)) st₁ r₀ st₂ hst₁ hr₀
  rcases settle_rebuild hreb.2 with hs | hs <;> rw [hs]
  · exact ⟨rs, rfl, List.forall₂_same.2 fun c _ => KeepsConstraints.refl c⟩
  · exact ⟨rs', rfl, hall⟩

end Typing

/-! ## Folding -/

namespace Folding

open Node

variable {P : Memo → Prop}

theorem arith_keeps {r : Except ArithError Datum} : Keeps P (arith r) (fun _ => True) := by
  cases r with
  | ok a => exact Keeps.pure' trivial
  | error e => exact Keeps.throw'

theorem rebuildM_keeps {n : Node} {cs : List Node} {f : Fields} :
    Keeps P (rebuildM n cs f) (fun r => n.rebuild cs f = .ok r) := by
  unfold rebuildM TransformM.ofBuild
  cases n.rebuild cs f with
  | ok a => exact Keeps.pure' rfl
  | error e => exact Keeps.throw'

theorem numbersOnly_keeps {k : Kind} {a b : Datum} :
    Keeps P (numbersOnly k a b) (fun _ => True) := by
  unfold numbersOnly
  split
  · exact Keeps.throw'
  · exact Keeps.pure' trivial

theorem joinText_keeps {v : Datum} : Keeps P (joinText v) (fun _ => True) := by
  unfold joinText
  split
  · exact Keeps.pure' trivial
  · exact arith_keeps

theorem evalBinary_keeps {k : Kind} {a b : Datum} :
    Keeps P (evalBinary k a b) (fun _ => True) := by
  unfold evalBinary
  repeat
    first
    | exact Keeps.pure' trivial
    | exact Keeps.throw'
    | exact arith_keeps
    | refine Keeps.bind joinText_keeps fun _ _ => ?_
    | refine Keeps.bind numbersOnly_keeps fun _ _ => ?_
    | refine Keeps.bind arith_keeps fun _ _ => ?_
    | split

theorem fragmentText_keeps {e : Node} : Keeps P (fragmentText e) (fun _ => True) := by
  unfold fragmentText
  split
  · exact arith_keeps
  · exact Keeps.pure' trivial

/-- A fragment that is no interpolated literal: literal text opens a run or is added to the run
being read, and anything else goes on the list and ends the run. A property of the three ways on
holds of the step. -/
theorem mergeRuns_fragment_cases {R : TransformM (List Node) → Prop} (c : Node)
    (rest done : List Node) (current : Option Nat) :
    (c.kind = .literal → current = none → R (mergeRuns rest (done ++ [c]) (some done.length))) →
    (∀ i, c.kind = .literal → current = some i →
      R (mergeRuns.mergePiece rest done current c.fields.value c.pos)) →
    (c.kind ≠ .literal → R (mergeRuns rest (done ++ [c]) none)) →
    R (if c.kind = .literal then
        (match current with
          | none => mergeRuns rest (done ++ [c]) (some done.length)
          | some _ => mergeRuns.mergePiece rest done current c.fields.value c.pos)
      else mergeRuns rest (done ++ [c]) none) := by
  -- the run's hypotheses stay outside the match, which is then the one of `mergeRuns`
  intro hopen hjoin hother
  split
  · next hlit =>
    cases current with
    | none => exact hopen hlit rfl
    | some i => exact hjoin i hlit rfl
  · next hlit => exact hother hlit

theorem mergeRuns_keeps (cs : List Node) :
    ∀ done current, Keeps P (mergeRuns cs done current) (fun _ => True) := by
  induction cs with
  | nil =>
    intro done current
    unfold mergeRuns
    exact Keeps.pure' trivial
  | cons c rest ih =>
    intro done current
    have hpiece : ∀ text pos, Keeps P (mergeRuns.mergePiece rest done current text pos)
        (fun _ => True) := by
      intro text pos
      unfold mergeRuns.mergePiece
      repeat
        first
        | exact ih _ _
        | refine Keeps.bind arith_keeps fun _ _ => ?_
        | refine Keeps.bind rebuildM_keeps fun _ _ => ?_
        | split
    unfold mergeRuns
    repeat
      first
      | exact Keeps.pure' trivial
      | exact ih _ _
      | exact hpiece _ _
      | refine Keeps.bind fragmentText_keeps fun _ _ => ?_
      | refine Keeps.bind (Q := fun _ => True) ?_ fun _ _ => ?_
      | split

end Folding

namespace Node

open Folding

/-- The memo of folding relates each node to a result that keeps what folding keeps. -/
abbrev MemoFolds (memo : Memo) : Prop := memo.All FoldKeeps

/-- Remembering the settled result of `n` and returning it. -/
theorem settle_insert_keeps {n r : Node} (hr : FoldKeeps n r) :
    Keeps MemoFolds (modify (fun memo : Memo => memo.insert n (settle n r)) >>= fun _ =>
      pure (settle n r) : TransformM Node) (FoldKeeps n) :=
  Keeps.bind (Keeps.modify' fun _ hs => Memo.All.insert hs hr.settle) fun _ _ => Keeps.pure' hr.settle

/-- Folding keeps the key of every tree without arithmetic or text, and of every rule's
constraint list, and so does every result it remembers. -/
theorem foldM_keeps (n : Node) : Keeps MemoFolds (foldM n) (FoldKeeps n) := by
  induction n using Node.induction with
  | h k f cs ih =>
    rw [foldM.eq_1]
    refine Keeps.get_bind fun memo hmemo => ?_
    split
    · next r hfind => exact Keeps.pure' (hmemo.find (fun _ _ _ h => h.of_sameKey) hfind)
    · dsimp only
      split
      -- negation, arithmetic and text promise nothing of their result; each step on the way
      -- only reads the memo
      all_goals try
        (repeat
          first
          | (with_reducible apply Keeps.bind (ih _ (by simp))); intro _ _
          | (with_reducible apply Keeps.bind (Keeps.mapM ih)); intro _ _
          | (with_reducible apply Keeps.bind arith_keeps); intro _ _
          | (with_reducible apply Keeps.bind evalBinary_keeps); intro _ _
          | (with_reducible apply Keeps.bind rebuildM_keeps); intro _ _
          | (with_reducible apply Keeps.bind (mergeRuns_keeps _ _ _)); intro _ _
          | (with_reducible apply Keeps.bind (Keeps.pure' (Q := fun _ => True) trivial)); intro _ _
          | split
          | with_reducible exact settle_insert_keeps (FoldKeeps.of_kind _ (by decide))
          | with_reducible refine Keeps.bind (Keeps.throw' (Q := fun _ => False)) fun _ h => h.elim
         done)
      -- every other node is put back together from its folded children
      refine Keeps.bind (Keeps.mapM ih) fun cs' hcs' => ?_
      refine Keeps.bind rebuildM_keeps fun r hr => ?_
      exact settle_insert_keeps (FoldKeeps.rebuild hr hcs')

/-- Folding a rule set from an empty memo folds each of its rules. -/
theorem foldM_ruleSet {f : Fields} {rs : List Node} {r : Node} {memo : Memo}
    (h : (foldM (.mk .ruleSet f rs)).run {} = .ok (r, memo)) :
    ∃ rs', r = .mk .ruleSet f rs' ∧ List.Forall₂ (fun r' c => FoldKeeps c r') rs' rs := by
  have hmiss : ({} : Memo).find? (.mk .ruleSet f rs) = none := rfl
  rw [foldM.eq_1] at h
  simp only [StateT.run_bind, StateT.run_get, pure_bind, hmiss] at h
  obtain ⟨⟨rs', memo₁⟩, hrs, h⟩ := Code.bind_eq_ok h
  obtain ⟨⟨r₀, memo₂⟩, hr₀, h⟩ := Code.bind_eq_ok h
  obtain ⟨_, -, h⟩ := Code.bind_eq_ok h
  cases h
  obtain ⟨hmemo₁, hall⟩ :=
    Keeps.mapM (fun c _ => foldM_keeps c) {} rs' memo₁ (Memo.All.empty _) hrs
  have hreb := (rebuildM_keeps (P := MemoFolds)) memo₁ r₀ memo₂ hmemo₁ hr₀
  rcases settle_rebuild hreb.2 with hs | hs <;> rw [hs]
  · exact ⟨rs, rfl, List.forall₂_same.2 fun c _ => FoldKeeps.refl c⟩
  · exact ⟨rs', rfl, hall⟩

theorem KeepsConstraints.trans {a b c : Node} (hab : KeepsConstraints a b)
    (hbc : KeepsConstraints b c) : KeepsConstraints a c := by
  intro f c₀ t hn hinert hc
  obtain ⟨f₁, c₁, t₁, rfl, h₁⟩ := hab f c₀ t hn hinert hc
  obtain ⟨f₂, c₂, t₂, rfl, h₂⟩ :=
    hbc f₁ c₁ t₁ rfl (hinert.of_sameKey h₁) (unhashable_of_sameKey h₁ hc)
  exact ⟨f₂, c₂, t₂, rfl, sameKey_trans h₂ h₁ hc⟩

/-- Rule `r'` tests what rule `r` tests: both pair a constraint list with a text, and the
constraint list of `r'` tests what that of `r` tests. -/
def RuleTestsAs (r' r : Node) : Prop :=
  ∃ f' c' t', r' = .mk .rule f' [c', t'] ∧ ∃ f c t, r = .mk .rule f [c, t] ∧ RootTestsAs c' c

theorem RuleTestsAs.catchesAll {r' r : Node} (h : RuleTestsAs r' r) :
    r'.catchesAll = r.catchesAll := by
  obtain ⟨f', c', t', rfl, f, c, t, rfl, hc⟩ := h
  exact hc.isCatchAll

theorem RuleTestsAs.ruleHolds {r' r : Node} (h : RuleTestsAs r' r) (ps : List (String × Code.Value)) :
    r'.ruleHolds ps = r.ruleHolds ps := by
  obtain ⟨f', c', t', rfl, f, c, t, rfl, hc⟩ := h
  exact hc.holds ps

/-- A rule that keeps the key of a well-formed rule's constraint list tests what that rule
tests. -/
theorem KeepsConstraints.ruleTestsAs {r r' : Node} (h : KeepsConstraints r r') (hr : r.IsRule)
    (hkey : r.unhashable? = none) : RuleTestsAs r' r := by
  cases hr with
  | @mk f cf tf cs ts hcs _ =>
    have hc : (Node.mk .constraintRoot cf cs).unhashable? = none :=
      (keyed_mk.1 hkey).2 _ List.mem_cons_self
    obtain ⟨f', c', t', rfl, hsame⟩ := h f _ _ rfl (foldsInert_constraintRoot hcs) hc
    exact ⟨f', c', t', rfl, f, _, _, rfl, rootTestsAs_of_sameKey hsame hcs⟩

end Node

namespace TypeMap

theorem typeTree_run {m : TypeMap} {t r : Node} (h : m.typeTree t = .ok r) :
    t.unhashable? = none ∧ ∃ st, (Typing.visit m t).run {} = .ok (r, st) := by
  unfold typeTree at h
  dsimp only at h
  split at h
  · cases h
  obtain ⟨_, -, h⟩ := Code.bind_eq_ok h
  obtain ⟨_, hkey, h⟩ := Code.bind_eq_ok h
  obtain ⟨⟨r', st⟩, hrun, h⟩ := Code.bind_eq_ok h
  refine ⟨?_, st, ?_⟩
  · unfold Node.requireKey at hkey
    split at hkey
    · cases hkey
    · assumption
  · dsimp only at h
    split at h
    · cases h
    · cases h
      exact hrun

theorem fold_run {t r : Node} (h : t.fold = .ok r) : ∃ memo, (Node.foldM t).run {} = .ok (r, memo) := by
  unfold Node.fold at h
  obtain ⟨_, -, h⟩ := Code.bind_eq_ok h
  change (fun x => x.1) <$> (Node.foldM t).run {} = _ at h
  cases hrun : (Node.foldM t).run {} with
  | error e => rw [hrun, Code.map_error] at h; cases h
  | ok p =>
    rw [hrun] at h
    cases h
    exact ⟨p.2, rfl⟩

theorem analyze_ruleSet {m m' : TypeMap} {sigs : List (Datum × List Datum)} {f : Fields}
    {rs : List Node} {typed : Node} (ht : (Node.mk .ruleSet f rs).IsTranslation)
    (h : m.analyze sigs (.mk .ruleSet f rs) = (m', .ok typed)) :
    ∃ rs', typed = .mk .ruleSet f rs' ∧ List.Forall₂ Node.RuleTestsAs rs' rs := by
  unfold analyze at h
  split at h
  · cases h
  · obtain ⟨typed₀, htype, hfold⟩ := Code.bind_eq_ok (Prod.mk.inj h).2
    obtain ⟨hkey, st, hvisit⟩ := typeTree_run htype
    obtain ⟨rs₀, rfl, hrs₀⟩ := Typing.visit_ruleSet hvisit
    obtain ⟨memo, hrun⟩ := fold_run hfold
    obtain ⟨rs', rfl, hrs'⟩ := Node.foldM_ruleSet hrun
    refine ⟨rs', rfl, ?_⟩
    have hrules : ∀ r ∈ rs, r.IsRule := by
      cases ht
      assumption
    have hkeys : ∀ r ∈ rs, r.unhashable? = none := (Node.keyed_mk.1 hkey).2
    -- typing, then folding: each keeps the key of every rule's constraint list
    have hkeep : List.Forall₂ (fun r' r => Node.KeepsConstraints r r') rs' rs :=
      Node.forall₂_trans (fun _ _ _ _ hab hbc => hbc.trans hab) (hrs'.imp fun _ _ h => h.2) hrs₀
    exact forall₂_imp_mem hkeep fun r' r hr h => h.ruleTestsAs (hrules r hr) (hkeys r hr)

end TypeMap

end Lingo
