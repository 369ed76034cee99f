import Lingo.Proofs.HelperUse
import Lingo.Proofs.Calling

/-!
# Modules define exactly the helpers their code calls

Emission records a helper only together with code that calls it: `number_text(e)`,
`encode_if_string(ctx, e)` and `plus_op(ctx, l, r)` are the only steps that set a flag, and each
returns the call it records, which every emitter then keeps in what it builds. A helper may also be
recorded because a recorded helper calls it: `encode_if_string` calls `number_text`, and `plus_op`
calls `encode_if_string` (`Helpers.ReadBy`). With the converse bound of `HelperUse` (the code
reads no helper the record lacks), a record shared by translations compiled one after another
(`CompiledInTurn`) names exactly the helpers that their code or the helpers it defines call
(`helperDefs_exactly_called`). Modules put those definitions first, each once.
-/

namespace Lingo

namespace Helpers

/-- Every helper of `h` is called by code that reads `xs`, or by a helper of `h`: `number_text` by
`encode_if_string`, `encode_if_string` by `plus_op`. -/
structure ReadBy (h : Helpers) (xs : List String) : Prop where
  numberText : h.numberText = true → "number_text" ∈ xs ∨ h.encodeIfString = true
  encodeIfString : h.encodeIfString = true → "encode_if_string" ∈ xs ∨ h.plusOp = true
  plusOp : h.plusOp = true → "plus_op" ∈ xs

theorem ReadBy.empty (xs : List String) : ({} : Helpers).ReadBy xs :=
  ⟨by simp, by simp, by simp⟩

theorem ReadBy.mono {h : Helpers} {xs ys : List String} (hr : h.ReadBy xs) (hsub : xs ⊆ ys) :
    h.ReadBy ys :=
  ⟨fun hn => (hr.numberText hn).imp_left (@hsub _),
    fun he => (hr.encodeIfString he).imp_left (@hsub _), fun hp => hsub (hr.plusOp hp)⟩

theorem ReadBy.union {a b : Helpers} {xs ys : List String} (ha : a.ReadBy xs) (hb : b.ReadBy ys) :
    (a.union b).ReadBy (xs ++ ys) := by
  constructor
  · simp only [union_numberText, union_encodeIfString, Bool.or_eq_true, List.mem_append]
    rintro (hn | hn)
    · rcases ha.numberText hn with h | h <;> simp [h]
    · rcases hb.numberText hn with h | h <;> simp [h]
  · simp only [union_encodeIfString, union_plusOp, Bool.or_eq_true, List.mem_append]
    rintro (he | he)
    · rcases ha.encodeIfString he with h | h <;> simp [h]
    · rcases hb.encodeIfString he with h | h <;> simp [h]
  · simp only [union_plusOp, Bool.or_eq_true, List.mem_append]
    rintro (hp | hp)
    · exact .inl (ha.plusOp hp)
    · exact .inr (hb.plusOp hp)

/-- A run from the record `h` to the record `h'` that adds only helpers called by code reading
`xs`. -/
def AddsReadBy (h h' : Helpers) (xs : List String) : Prop :=
  ∃ δ : Helpers, h' = h.union δ ∧ δ.ReadBy xs

theorem AddsReadBy.refl (h : Helpers) (xs : List String) : AddsReadBy h h xs :=
  ⟨{}, (union_empty h).symm, ReadBy.empty xs⟩

theorem AddsReadBy.mono {h h' : Helpers} {xs ys : List String} (hr : AddsReadBy h h' xs)
    (hsub : xs ⊆ ys) : AddsReadBy h h' ys := by
  obtain ⟨δ, hδ, hread⟩ := hr
  exact ⟨δ, hδ, hread.mono hsub⟩

theorem AddsReadBy.trans {h₁ h₂ h₃ : Helpers} {xs ys : List String} (h₁₂ : AddsReadBy h₁ h₂ xs)
    (h₂₃ : AddsReadBy h₂ h₃ ys) : AddsReadBy h₁ h₃ (xs ++ ys) := by
  obtain ⟨δ, rfl, hδ⟩ := h₁₂
  obtain ⟨ε, rfl, hε⟩ := h₂₃
  exact ⟨δ.union ε, union_assoc _ _ _, hδ.union hε⟩

end Helpers

/-- The names the code of an emitted translation reads: none for a constant. -/
def Emitted.names : Emitted → List String
  | .constant _ => []
  | .function _ body => Code.bodyNames body

namespace Emit

open Code EmitM Helpers

theorem numberText_addsReadBy (e : Expr) (h : Helpers) :
    AddsReadBy h (h.union { numberText := true }) (Expr.callName "number_text" [e]).names :=
  ⟨_, rfl, ⟨fun _ => .inl (by simp [Expr.callName, Expr.names]), by simp, by simp⟩⟩

theorem encodeIfString_addsReadBy (e : Expr) (h : Helpers) :
    AddsReadBy h (h.union { encodeIfString := true, numberText := true })
      (Expr.callName "encode_if_string" [ctx, e]).names :=
  ⟨_, rfl, ⟨fun _ => .inr rfl, fun _ => .inl (by simp [Expr.callName, Expr.names]), by simp⟩⟩

theorem plusOp_addsReadBy (l r : Expr) (h : Helpers) :
    AddsReadBy h (h.union { plusOp := true, encodeIfString := true, numberText := true })
      (Expr.callName "plus_op" [ctx, l, r]).names :=
  ⟨_, rfl, ⟨fun _ => .inr rfl, fun _ => .inr rfl, fun _ => by simp [Expr.callName, Expr.names]⟩⟩

/-- The code of an expression calls every helper its emission records. -/
theorem expr_addsReadBy :
    (∀ n {h h' : Helpers} {e : Expr}, (expr n).run' h = (.ok e, h') → AddsReadBy h h' e.names) ∧
      ∀ ns {h h' : Helpers} {es : List Expr}, (exprs ns).run' h = (.ok es, h') →
        AddsReadBy h h' (namesOf es) := by
  refine expr_induction _ _ ?number ?string ?var ?binary ?neg ?call ?other ?nil ?cons
  case number =>
    intro f cs h h' e hrun
    rw [expr.eq_1, run'_pure] at hrun
    cases hrun
    exact .refl _ _
  case string =>
    intro f cs h h' e hrun
    rw [expr.eq_2, run'_pure] at hrun
    cases hrun
    exact .refl _ _
  case var =>
    intro f cs h h' e hrun
    rw [expr.eq_3, run'_pure] at hrun
    cases hrun
    exact .refl _ _
  case binary =>
    intro k f op l r hop hnum hstr hvar ihl ihr h h' e hrun
    rw [expr.eq_4 f k op l r hnum hstr hvar hop] at hrun
    obtain ⟨l', h₁, hl, hrest⟩ := run'_bind_inv hrun
    obtain ⟨r', h₂, hr, hlast⟩ := run'_bind_inv hrest
    have hlr : AddsReadBy h h₂ (l'.names ++ r'.names) := (ihl hl).trans (ihr hr)
    split at hlast
    · -- the native operator keeps both operands
      rw [run'_pure] at hlast
      cases hlast
      exact hlr.mono (by simp [Expr.names])
    · -- `plus_op` takes both operands after the context
      rw [plusOp_run'] at hlast
      cases hlast
      have hnames : (Expr.callName "plus_op" [ctx, l', r']).names =
          "plus_op" :: ctxName :: (l'.names ++ r'.names) := by
        simp [Expr.callName, Expr.names, namesOf, ctx]
      refine (hlr.trans (plusOp_addsReadBy l' r' h₂)).mono fun x hx => ?_
      simp only [hnames, List.mem_append, List.mem_cons] at hx ⊢
      tauto
  case neg =>
    intro f o ih h h' e hrun
    rw [expr.eq_5] at hrun
    obtain ⟨o', h₁, ho, hlast⟩ := run'_bind_inv hrun
    rw [run'_pure] at hlast
    cases hlast
    simpa [Expr.names] using ih ho
  case call =>
    intro f args _ ih h h' e hrun
    rw [expr.eq_6] at hrun
    obtain ⟨args', h₁, hargs, hlast⟩ := run'_bind_inv hrun
    rw [run'_pure] at hlast
    cases hlast
    exact (ih hargs).mono fun x hx => by simp [Expr.names, namesOf, hx]
  case other =>
    intro k f cs h₁ h₂ h₃ h₄ h₅ h₆ h h' e hrun
    rw [expr.eq_7 f k cs] at hrun
    · rw [run'_throw] at hrun
      cases hrun
    all_goals assumption
  case nil =>
    intro h h' es hrun
    rw [exprs, run'_pure] at hrun
    cases hrun
    exact .refl _ _
  case cons =>
    intro e es ih ihs h h' es' hrun
    rw [exprs] at hrun
    obtain ⟨e', h₁, he, hrest⟩ := run'_bind_inv hrun
    obtain ⟨es'', h₂, hes, hlast⟩ := run'_bind_inv hrest
    rw [run'_pure] at hlast
    cases hlast
    exact (ih he).trans (ihs hes)

theorem textPart_addsReadBy {n : Node} {h h' : Helpers} {p : Expr × Bool}
    (hrun : (textPart n).run' h = (.ok p, h')) : AddsReadBy h h' p.1.names := by
  unfold textPart at hrun
  split at hrun
  · rw [run'_pure] at hrun
    cases hrun
    exact .refl _ _
  · dsimp only at hrun
    split at hrun
    · obtain ⟨e, h₁, he, hlast⟩ := run'_bind_inv hrun
      rw [numberText_run'] at he
      cases he
      rw [run'_pure] at hlast
      cases hlast
      exact numberText_addsReadBy _ h
    · rw [run'_pure] at hrun
      cases hrun
      exact .refl _ _
  · obtain ⟨e, h₁, he, hrest⟩ := run'_bind_inv hrun
    have hread := expr_addsReadBy.1 _ he
    split at hrest
    · -- a number is rendered by `number_text` around its code
      obtain ⟨e', h₂, he', hlast⟩ := run'_bind_inv hrest
      rw [numberText_run'] at he'
      cases he'
      rw [run'_pure] at hlast
      cases hlast
      refine (hread.trans (numberText_addsReadBy e h₁)).mono fun x hx => ?_
      simp only [List.mem_append] at hx
      rcases hx with hx | hx <;> simp_all [Expr.callName, Expr.names, namesOf]
    · rw [run'_pure] at hrest
      cases hrest
      exact hread
  · rw [run'_throw] at hrun
    cases hrun

/-- The names of a run being joined, if there is one. -/
def groupNames (group : Option Expr) : List String := (group.map Expr.names).getD []

/-- Encoding keeps every piece: the pieces already encoded, the run being read and every part
end up in the encoded list. -/
theorem encodeParts_names {parts : List (Expr × Bool)} {group : Option Expr} {done r : List Expr}
    {h h' : Helpers} (hrun : (encodeParts parts group done).run' h = (.ok r, h')) :
    namesOf done ⊆ namesOf r ∧ groupNames group ⊆ namesOf r ∧
      ∀ p ∈ parts, p.1.names ⊆ namesOf r := by
  have hclose : ∀ group : Option Expr, groupNames group ⊆ namesOf (closeRun group) := by
    intro group x hx
    cases group <;> simp_all [groupNames, closeRun_names]
  induction parts generalizing group done h with
  | nil =>
    rw [encodeParts, run'_pure] at hrun
    cases hrun
    refine ⟨fun x hx => by simp [hx], fun x hx => ?_, List.forall_mem_nil _⟩
    simp [hclose group hx]
  | cons p rest ih =>
    obtain ⟨e, _ | _⟩ := p
    · -- a value on its own closes the run and is encoded by itself
      obtain ⟨enc, h₁, henc, hrest⟩ := run'_bind_inv hrun
      rw [encodeIfString_run'] at henc
      cases henc
      obtain ⟨hdone, -, hparts⟩ := ih hrest
      refine ⟨fun x hx => hdone (by simp [hx]), fun x hx => hdone (by simp [hclose group hx]), ?_⟩
      intro p hp x hx
      rcases List.mem_cons.1 hp with rfl | hp
      · exact hdone (by simp [namesOf, Expr.callName, Expr.names, hx])
      · exact hparts p hp hx
    · -- literal text joins the run
      obtain ⟨hdone, hgroup, hparts⟩ := ih hrun
      have hjoined : groupNames group ++ e.names ⊆ namesOf r := fun x hx => hgroup (by
        cases group <;> simpa [groupNames, Expr.names] using hx)
      refine ⟨hdone, fun x hx => hjoined (List.mem_append_left _ hx), ?_⟩
      intro p hp x hx
      rcases List.mem_cons.1 hp with rfl | hp
      · exact hjoined (List.mem_append_right _ hx)
      · exact hparts p hp hx

/-- The encoded pieces call every helper encoding records: `encode_if_string` around each value
that stands on its own. -/
theorem encodeParts_addsReadBy {parts : List (Expr × Bool)} {group : Option Expr}
    {done r : List Expr} {h h' : Helpers}
    (hrun : (encodeParts parts group done).run' h = (.ok r, h')) : AddsReadBy h h' (namesOf r) := by
  induction parts generalizing group done h with
  | nil =>
    rw [encodeParts, run'_pure] at hrun
    cases hrun
    exact .refl _ _
  | cons p rest ih =>
    obtain ⟨e, _ | _⟩ := p
    · obtain ⟨enc, h₁, henc, hrest⟩ := run'_bind_inv hrun
      rw [encodeIfString_run'] at henc
      cases henc
      -- the call is one of the pieces encoded so far, which the result keeps
      have hkept : (Expr.callName "encode_if_string" [ctx, e]).names ⊆ namesOf r := fun x hx =>
        (encodeParts_names hrest).1 (by simp [namesOf, hx])
      refine ((encodeIfString_addsReadBy e h).trans (ih hrest)).mono fun x hx => ?_
      rcases List.mem_append.1 hx with hx | hx
      · exact hkept hx
      · exact hx
    · exact ih hrun

theorem mapM_addsReadBy {γ α : Type} {f : γ → EmitM α} {names : α → List String}
    (hf : ∀ c {h h' : Helpers} {a : α}, (f c).run' h = (.ok a, h') → AddsReadBy h h' (names a))
    {cs : List γ} {h h' : Helpers} {as : List α} (hrun : (cs.mapM f).run' h = (.ok as, h')) :
    AddsReadBy h h' (as.flatMap names) := by
  induction cs generalizing h as with
  | nil =>
    rw [List.mapM_nil, run'_pure] at hrun
    cases hrun
    exact .refl _ _
  | cons c cs ih =>
    rw [List.mapM_cons] at hrun
    obtain ⟨a, h₁, ha, hrest⟩ := run'_bind_inv hrun
    obtain ⟨as', h₂, has, hlast⟩ := run'_bind_inv hrest
    rw [run'_pure] at hlast
    cases hlast
    simpa using (hf c ha).trans (ih has)

/-- The code of a text calls every helper its emission records. -/
theorem textOfParts_addsReadBy {nodes : List Node} {h h' : Helpers} {e : Expr}
    (hrun : (textOfParts nodes).run' h = (.ok e, h')) : AddsReadBy h h' e.names := by
  obtain ⟨parts, h₁, hparts, hrest⟩ := run'_bind_inv hrun
  obtain ⟨encoded, h₂, hencoded, hlast⟩ := run'_bind_inv hrest
  rw [run'_pure] at hlast
  cases hlast
  -- the text is the sum of the encoded pieces
  have hnames : ((Expr.sum? encoded).getD (.str "")).names = namesOf encoded := by
    cases encoded with
    | nil => simp [Expr.sum?, Expr.str, Expr.names, namesOf]
    | cons x xs => simp [Expr.sum?, names_foldl_add, namesOf]
  rw [hnames]
  have hparts' := (encodeParts_names hencoded).2.2
  refine ((mapM_addsReadBy (fun _ _ _ _ => textPart_addsReadBy) hparts).trans
    (encodeParts_addsReadBy hencoded)).mono fun x hx => ?_
  rcases List.mem_append.1 hx with hx | hx
  · obtain ⟨p, hp, hxp⟩ := List.mem_flatMap.1 hx
    exact hparts' p hp hxp
  · exact hx

theorem text_addsReadBy {root : Node} {h h' : Helpers} {e : Expr}
    (hrun : (text root).run' h = (.ok e, h')) : AddsReadBy h h' e.names := by
  unfold text at hrun
  split at hrun
  · exact textOfParts_addsReadBy hrun
  · rw [run'_throw] at hrun
    cases hrun

theorem failsType_addsReadBy {v : Datum} {t : Ty} {h h' : Helpers} {e : Expr}
    (hrun : (failsType v t).run' h = (.ok e, h')) : AddsReadBy h h' [] := by
  cases t
  case numberOrString =>
    -- the scratch variable is no helper
    obtain ⟨_, h₁, hmod, hlast⟩ := run'_bind_inv hrun
    rw [run'_modify] at hmod
    cases hmod
    rw [run'_pure] at hlast
    cases hlast
    exact ⟨{ scratch := true }, by cases h; simp [union], ⟨by simp, by simp, by simp⟩⟩
  case error =>
    rw [failsType, run'_throw] at hrun
    cases hrun
  all_goals
    rw [failsType, run'_pure] at hrun
    cases hrun
    exact .refl _ _

theorem typeGuards_addsReadBy {m : TypeMap} {h h' : Helpers} {gs : List Stmt}
    (hrun : (typeGuards m).run' h = (.ok gs, h')) : AddsReadBy h h' [] := by
  obtain ⟨vgs, h₁, hvgs, hlast⟩ := run'_bind_inv hrun
  rw [run'_pure] at hlast
  cases hlast
  have hguard : ∀ (vi : Datum × VarInfo) {h h' : Helpers} {s : Stmt},
      (typeGuard vi.1 vi.2.ty).run' h = (.ok s, h') → AddsReadBy h h' [] := by
    intro vi h h' s hs
    obtain ⟨test, h₁, htest, hlast⟩ := run'_bind_inv hs
    rw [run'_pure] at hlast
    cases hlast
    exact failsType_addsReadBy htest
  exact (mapM_addsReadBy hguard hvgs).mono fun x hx => by simp at hx

theorem filterMapM_addsReadBy {γ α : Type} {f : γ → EmitM (Option α)}
    (hf : ∀ c {h h' : Helpers} {a : Option α}, (f c).run' h = (.ok a, h') → AddsReadBy h h' [])
    {cs : List γ} {h h' : Helpers} {as : List α} (hrun : (cs.filterMapM f).run' h = (.ok as, h')) :
    AddsReadBy h h' [] := by
  induction cs generalizing h as with
  | nil =>
    rw [List.filterMapM_nil, run'_pure] at hrun
    cases hrun
    exact .refl _ _
  | cons c cs ih =>
    rw [List.filterMapM_cons] at hrun
    obtain ⟨o, h₁, ho, hrest⟩ := run'_bind_inv hrun
    cases o with
    | none => simpa using (hf c ho).trans (ih hrest)
    | some a =>
      obtain ⟨as', h₂, has, hlast⟩ := run'_bind_inv hrest
      rw [run'_pure] at hlast
      cases hlast
      simpa using (hf c ho).trans (ih has)

theorem constraintTest_addsReadBy {c : Node} {h h' : Helpers} {t : Option Expr}
    (hrun : (constraintTest c).run' h = (.ok t, h')) : AddsReadBy h h' [] := by
  unfold constraintTest at hrun
  split at hrun
  case h_1 =>
    rw [run'_pure] at hrun
    cases hrun
    exact .refl _ _
  case h_4 =>
    rw [run'_throw] at hrun
    cases hrun
  -- an equality and an inequality are emitted alike, and neither records a helper
  all_goals
    obtain ⟨x, h₁, hx, hlast⟩ := run'_bind_inv hrun
    unfold constrained? at hx
    split at hx
    · rw [run'_pure] at hx
      cases hx
      split at hlast
      · rw [run'_pure] at hlast
        cases hlast
        exact .refl _ _
      · rw [run'_throw] at hlast
        cases hlast
    · rw [run'_throw] at hx
      cases hx

theorem nodesOf_addsReadBy {n : Node} {h h' : Helpers} {cs : List Node}
    (hrun : (nodesOf n).run' h = (.ok cs, h')) : AddsReadBy h h' [] := by
  unfold nodesOf at hrun
  split at hrun
  · rw [run'_pure] at hrun
    cases hrun
    exact .refl _ _
  · rw [run'_throw] at hrun
    cases hrun

theorem rulePart_addsReadBy {rule : Node} {i : Nat} {part : String} {h h' : Helpers} {c : Node}
    (hrun : (rulePart rule i part).run' h = (.ok c, h')) : AddsReadBy h h' [] := by
  unfold rulePart at hrun
  split at hrun
  · rw [run'_pure] at hrun
    cases hrun
    exact .refl _ _
  · rw [run'_throw] at hrun
    cases hrun

/-- The statement of a rule records no helper and returns the text it is given. -/
theorem ruleStmt_addsReadBy {constraints : Node} {e : Expr} {h h' : Helpers} {s : Stmt}
    (hrun : (ruleStmt constraints e).run' h = (.ok s, h')) :
    AddsReadBy h h' [] ∧ e.names ⊆ s.names := by
  obtain ⟨cs, h₁, hcs, hrest⟩ := run'_bind_inv hrun
  obtain ⟨tests, h₂, htests, hlast⟩ := run'_bind_inv hrest
  have hquiet : AddsReadBy h h₂ [] :=
    (nodesOf_addsReadBy hcs).trans (filterMapM_addsReadBy (fun _ _ _ _ => constraintTest_addsReadBy) htests)
  split at hlast
  all_goals
    rw [run'_pure] at hlast
    cases hlast
    exact ⟨hquiet, fun x hx => by simp [Stmt.names, bodyNames, hx]⟩

theorem ruleStmts_addsReadBy {rules : List Node} {h h' : Helpers} {r : List Stmt × Bool}
    (hrun : (ruleStmts rules).run' h = (.ok r, h')) : AddsReadBy h h' (bodyNames r.1) := by
  induction rules generalizing h r with
  | nil =>
    rw [ruleStmts, run'_pure] at hrun
    cases hrun
    exact .refl _ _
  | cons rule rest ih =>
    rw [ruleStmts] at hrun
    obtain ⟨tr, h₁, htr, hrun⟩ := run'_bind_inv hrun
    obtain ⟨e, h₂, he, hrun⟩ := run'_bind_inv hrun
    obtain ⟨cs, h₃, hcs, hrun⟩ := run'_bind_inv hrun
    obtain ⟨s, h₄, hs, hrun⟩ := run'_bind_inv hrun
    obtain ⟨⟨ss, returned⟩, h₅, hss, hlast⟩ := run'_bind_inv hrun
    rw [run'_pure] at hlast
    cases hlast
    obtain ⟨hstmt, hkept⟩ := ruleStmt_addsReadBy hs
    -- the rule's text is kept in its statement, which heads the statements
    refine ((((rulePart_addsReadBy htr).trans (text_addsReadBy he)).trans
      ((rulePart_addsReadBy hcs).trans hstmt)).trans (ih hss)).mono fun x hx => ?_
    simp only [List.nil_append, List.append_nil, List.mem_append] at hx
    simp only [bodyNames, List.mem_append]
    rcases hx with hx | hx
    · exact .inl (hkept hx)
    · exact .inr hx

/-- The code of an emitted translation calls every helper its emission records. -/
theorem translation_addsReadBy {m : TypeMap} {name : String} {root : Node} {h h' : Helpers}
    {e : Emitted} (hrun : (translation m name root).run' h = (.ok e, h')) :
    AddsReadBy h h' e.names := by
  have hgeneral : (simple.general m name root).run' h = (.ok e, h') → AddsReadBy h h' e.names := by
    intro hg
    obtain ⟨gs, h₁, hgs, hrest⟩ := run'_bind_inv hg
    obtain ⟨t, h₂, ht, hlast⟩ := run'_bind_inv hrest
    rw [run'_pure] at hlast
    cases hlast
    -- the text is returned after the guards
    refine ((typeGuards_addsReadBy hgs).trans (text_addsReadBy ht)).mono fun x hx => ?_
    rw [List.nil_append] at hx
    simp [Emitted.names, Stmt.names, bodyNames, hx]
  unfold translation at hrun
  split at hrun
  · unfold simple at hrun
    split at hrun
    · rw [run'_pure] at hrun
      cases hrun
      exact .refl _ _
    · split at hrun
      · rw [run'_pure] at hrun
        cases hrun
        exact .refl _ _
      · exact hgeneral hrun
    · exact hgeneral hrun
  · unfold constrained at hrun
    dsimp only at hrun
    split at hrun
    · obtain ⟨_, _, hthrow, -⟩ := run'_bind_inv hrun
      rw [run'_throw] at hthrow
      cases hthrow
    · obtain ⟨gs, h₁, hgs, hrest⟩ := run'_bind_inv hrun
      obtain ⟨⟨stmts, returned⟩, h₂, hstmts, hlast⟩ := run'_bind_inv hrest
      rw [run'_pure] at hlast
      cases hlast
      -- the rules' statements follow the guards
      refine ((typeGuards_addsReadBy hgs).trans (ruleStmts_addsReadBy hstmts)).mono fun x hx => ?_
      rw [List.nil_append] at hx
      simp [Emitted.names, bodyNames_append, hx]
  · rw [run'_throw] at hrun
    cases hrun

end Emit

/-! ## The helpers a module defines -/

/-- The name a statement defines a function under, if it is a definition. -/
def Code.Stmt.definedName? : Code.Stmt → Option String
  | .define f _ _ => some f
  | _ => none

namespace Emit

open Code

/-- The helpers a record defines, by name. -/
theorem mem_helperDefs_definedName {H : Helpers} {x : String} :
    x ∈ (helperDefs H).filterMap Stmt.definedName? ↔
      (x = "number_text" ∧ H.numberText = true) ∨
        (x = "encode_if_string" ∧ H.encodeIfString = true) ∨ (x = "plus_op" ∧ H.plusOp = true) := by
  unfold helperDefs
  cases H.numberText <;> cases H.encodeIfString <;> cases H.plusOp <;>
    simp [numberTextDef, encodeIfStringDef, plusOpDef, Stmt.definedName?, eq_comm]

/-- Each helper is defined once. -/
theorem helperDefs_nodup (H : Helpers) : ((helperDefs H).filterMap Stmt.definedName?).Nodup := by
  unfold helperDefs
  cases H.numberText <;> cases H.encodeIfString <;> cases H.plusOp <;>
    simp [numberTextDef, encodeIfStringDef, plusOpDef, Stmt.definedName?]

/-- Among the helpers, `encode_if_string` calls `number_text` and `plus_op` calls
`encode_if_string`; `number_text` calls none. -/
theorem helperDefs_call {H : Helpers} {x : String} (hx : x ∈ helperNames) :
    (∃ s ∈ helperDefs H, x ∈ s.names) ↔
      (x = "number_text" ∧ H.encodeIfString = true) ∨ (x = "encode_if_string" ∧ H.plusOp = true) := by
  simp only [helperNames, List.mem_cons, List.not_mem_nil, or_false] at hx
  unfold helperDefs
  rcases hx with rfl | rfl | rfl <;>
    cases H.numberText <;> cases H.encodeIfString <;> cases H.plusOp <;>
    simp [numberTextDef, encodeIfStringDef, plusOpDef, Stmt.names, bodyNames, Expr.names, namesOf,
      isinstanceOf, Expr.callName, Expr.method, ctxMethod, ctx, ctxName, value]

theorem fixedNames_not_helper {x : String} (hx : x ∈ fixedNames) : x ∉ helperNames := by
  revert x
  decide

/-- A record lets code read a helper only when it records it. -/
theorem reads_helper {H : Helpers} {x : String} (hx : H.Reads x) (hh : x ∈ helperNames) :
    (x = "number_text" ∧ H.numberText = true) ∨ (x = "encode_if_string" ∧
      H.encodeIfString = true) ∨ (x = "plus_op" ∧ H.plusOp = true) :=
  hx.resolve_left fun hf => fixedNames_not_helper hf hh

end Emit

/-- A translation compiled with a record of helpers went through analysis and the checks, and was
emitted from the map analysis left, continuing the record. -/
theorem compileTranslation_emits {m m' : TypeMap} {h h' : Helpers} {o : CompileOptions} {t : Node}
    {e : Emitted} (hc : compileTranslation m h o t = (m', h', .ok e)) :
    ∃ typed, m.analyze o.signatures t = (m', .ok typed) ∧ o.check typed = .ok () ∧
      (Emit.translation m' o.name typed).run' h = (.ok e, h') := by
  unfold compileTranslation at hc
  split at hc
  · cases hc
  · next m₁ typed hanalyze =>
    split at hc
    · cases hc
    · next hcheck =>
      cases hrun : (Emit.translation m₁ o.name typed).run' h with
      | mk r h₁ =>
        rw [hrun] at hc
        cases hc
        exact ⟨typed, hanalyze, hcheck, hrun⟩

/-- Translations compiled one after another, each against a map and options of its own, passing
one record of helpers along, as a table or a session compiles them: from the record `h`, compiling
`calls` in order succeeds every time, emits `es` and leaves the record `h'`. -/
inductive CompiledInTurn : Helpers → List (TypeMap × CompileOptions × Node) → List Emitted →
    Helpers → Prop
  | nil (h : Helpers) : CompiledInTurn h [] [] h
  | cons {h h₁ h' : Helpers} {m m' : TypeMap} {o : CompileOptions} {t : Node} {e : Emitted}
      {calls : List (TypeMap × CompileOptions × Node)} {es : List Emitted}
      (hc : compileTranslation m h o t = (m', h₁, .ok e)) (hrest : CompiledInTurn h₁ calls es h') :
      CompiledInTurn h ((m, o, t) :: calls) (e :: es) h'

namespace CompiledInTurn

open Helpers

variable {h H : Helpers} {calls : List (TypeMap × CompileOptions × Node)} {es : List Emitted}

/-- The record left after compiling in turn adds only helpers the emitted code calls. -/
theorem addsReadBy (hrun : CompiledInTurn h calls es H) : AddsReadBy h H (es.flatMap Emitted.names) := by
  induction hrun with
  | nil h => exact .refl _ _
  | cons hc _ ih =>
    obtain ⟨_, -, -, hemit⟩ := compileTranslation_emits hc
    simpa using (Emit.translation_addsReadBy hemit).trans ih

/-- Every helper the emitted code calls is in the record left at the end. -/
theorem reads (hrun : CompiledInTurn h calls es H) : ∀ e ∈ es, ∀ x ∈ e.names, H.Reads x := by
  induction hrun with
  | nil h => exact List.forall_mem_nil _
  | @cons h h₁ H m m' o t e calls es hc hrest ih =>
    obtain ⟨_, -, -, hemit⟩ := compileTranslation_emits hc
    intro e' he'
    rcases List.mem_cons.1 he' with rfl | he'
    · -- what the record allows after this translation, the final record still allows
      obtain ⟨δ, rfl, -⟩ := hrest.addsReadBy
      cases e' with
      | constant v => exact List.forall_mem_nil _
      | function f body => exact (Emit.translation_reads hemit).union_left δ
    · exact ih e' he'

/-- Compiling in turn keeps each helper of the record with the helpers it calls. -/
theorem consistent (hrun : CompiledInTurn h calls es H) (hh : h.Consistent) : H.Consistent := by
  induction hrun with
  | nil h => exact hh
  | @cons h h₁ H m m' o t e calls es hc _ ih =>
    obtain ⟨typed, -, -, hemit⟩ := compileTranslation_emits hc
    have hadds := Emit.translation_adds m' o.name typed
    rw [hadds.run'_eq h] at hemit
    obtain ⟨-, rfl⟩ := Prod.mk.inj hemit
    exact ih (hh.union hadds.consistent)

end CompiledInTurn

open Code Emit in
/-- A module of translations compiled in turn from a fresh record, as a table is compiled, defines
each helper at most once, and defines it exactly when the code of one of the translations, or a
helper the module defines, calls it: `number_text` when a translation or `encode_if_string` calls
it, `encode_if_string` when a translation or `plus_op` calls it, `plus_op` when a translation
calls it. The module of one translation and the module of a table both put these definitions
before everything else (`Emit.translationModule`, `Emit.translationsModule`). -/
theorem helperDefs_exactly_called {calls : List (TypeMap × CompileOptions × Node)}
    {es : List Emitted} {H : Helpers} (hrun : CompiledInTurn {} calls es H) :
    ((helperDefs H).filterMap Stmt.definedName?).Nodup ∧
      ∀ x ∈ helperNames, (x ∈ (helperDefs H).filterMap Stmt.definedName? ↔
        (∃ e ∈ es, x ∈ e.names) ∨ ∃ s ∈ helperDefs H, x ∈ s.names) := by
  have hread : H.ReadBy (es.flatMap Emitted.names) := by
    obtain ⟨δ, rfl, hδ⟩ := hrun.addsReadBy
    simpa using hδ
  have hcons := hrun.consistent Helpers.Consistent.empty
  -- a helper some translation calls is recorded
  have hrecorded : ∀ x ∈ helperNames, (∃ e ∈ es, x ∈ e.names) →
      (x = "number_text" ∧ H.numberText = true) ∨ (x = "encode_if_string" ∧
        H.encodeIfString = true) ∨ (x = "plus_op" ∧ H.plusOp = true) := by
    rintro x hx ⟨e, he, hxe⟩
    exact reads_helper (hrun.reads e he x hxe) hx
  have hcalled : ∀ x, x ∈ es.flatMap Emitted.names → ∃ e ∈ es, x ∈ e.names := fun x hx =>
    List.mem_flatMap.1 hx
  refine ⟨helperDefs_nodup H, fun x hx => ?_⟩
  rw [mem_helperDefs_definedName, helperDefs_call hx]
  have hrec := hrecorded x hx
  simp only [helperNames, List.mem_cons, List.not_mem_nil, or_false] at hx
  rcases hx with rfl | rfl | rfl
  · -- `number_text`: called by a translation, or by `encode_if_string`
    simp only [true_and, String.reduceEq, false_and, or_false]
    constructor
    · intro hn
      exact (hread.numberText hn).imp_left (hcalled _)
    · rintro (hc | he)
      · simpa using hrec hc
      · exact hcons.encodes he
  · -- `encode_if_string`: called by a translation, or by `plus_op`
    simp only [true_and, String.reduceEq, false_and, false_or, or_false]
    constructor
    · intro he
      exact (hread.encodeIfString he).imp_left (hcalled _)
    · rintro (hc | hp)
      · simpa using hrec hc
      · exact hcons.adds hp
  · -- `plus_op`: called by a translation only
    simp only [true_and, String.reduceEq, false_and, false_or, or_false]
    constructor
    · exact fun hp => hcalled _ (hread.plusOp hp)
    · intro hc
      simpa using hrec hc


/-- A table of `{{$x + "a"}}` and `{{$n * 2}}`: the first calls `plus_op`, the second
`number_text`, and `plus_op` calls `encode_if_string`, so the module defines all three helpers. -/
theorem helperDefs_exactly_called_plus_times :
    ∃ es H, CompiledInTurn {}
      [({}, {}, .mk .textRoot {} [.mk .textExpr {}
          [.mk .add {} [.mk .var { name := .str "x" } [], .mk .stringLit { value := .str "a" } []]]]),
        ({}, {}, .mk .textRoot {} [.mk .textExpr {}
          [.mk .mul {} [.mk .var { name := .str "n" } [], .mk .number { value := .int 2 } []]]])]
      es H ∧
    (((Emit.helperDefs H).filterMap Code.Stmt.definedName?).Nodup ∧
      ∀ x ∈ Code.helperNames, (x ∈ (Emit.helperDefs H).filterMap Code.Stmt.definedName? ↔
        (∃ e ∈ es, x ∈ e.names) ∨ ∃ s ∈ Emit.helperDefs H, x ∈ s.names)) := by
  have h₁ := (rfl : compileTranslation {} {} {} (.mk .textRoot {} [.mk .textExpr {}
    [.mk .add {} [.mk .var { name := .str "x" } [], .mk .stringLit { value := .str "a" } []]]]) = _)
  conv at h₁ => rhs; cbv
  have h₂ := (rfl : compileTranslation {}
    { scratch := true, encodeIfString := true, plusOp := true, numberText := true } {}
    (.mk .textRoot {} [.mk .textExpr {}
      [.mk .mul {} [.mk .var { name := .str "n" } [], .mk .number { value := .int 2 } []]]]) = _)
  conv at h₂ => rhs; cbv
  have hrun := CompiledInTurn.cons h₁ (.cons h₂ (.nil _))
  exact ⟨_, _, hrun, helperDefs_exactly_called hrun⟩

end Lingo
