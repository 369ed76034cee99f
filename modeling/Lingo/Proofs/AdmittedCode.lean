import Lingo.Proofs.ScalarLiterals
import Lingo.Proofs.Tables

/-!
# The host admits compiled code

Before a module runs, the host refuses a literal that is not a scalar, a variable named like a
constant and a binding of its own name. Emitted code reads only the parameters of its function,
the built-ins and the helpers, binds only the scratch variable of type tests, and writes as
literals its own texts, the values of the literals and comparisons of the analysed tree, and the
names of the variables and functions of the map. So a translation whose literals are scalars,
emitted under a map named by scalars, is code the host admits (`Emit.translation_admitted`), and
so is every translation that compiles from a well-formed tree under signatures that no safe text
names (`compileTranslation_admitted`).
-/

namespace Lingo

namespace Code

/-- An expression the host admits: no literal but a scalar, no variable named like a constant,
and no binding of the host's name. -/
def Expr.Admitted (e : Expr) : Prop := e.fault? = none ∧ e.bindsHostName = false

/-- A statement the host admits. -/
def Stmt.Admitted (s : Stmt) : Prop := s.fault? = none ∧ s.bindsHostName = false

theorem faultIn?_eq_none_iff {es : List Expr} : faultIn? es = none ↔ ∀ e ∈ es, e.fault? = none := by
  induction es with
  | nil => simp [faultIn?]
  | cons e es ih => simp [faultIn?, ih]

theorem anyBindsHostName_eq_false_iff {es : List Expr} :
    anyBindsHostName es = false ↔ ∀ e ∈ es, e.bindsHostName = false := by
  induction es with
  | nil => simp [anyBindsHostName]
  | cons e es ih => simp [anyBindsHostName, ih]

namespace Expr

@[simp] theorem admitted_const (d : Datum) : (Expr.const d).Admitted ↔ d.IsScalar := by
  cases d <;> simp [Admitted, Expr.fault?, Expr.bindsHostName, constantValue?, Datum.IsScalar]

@[simp] theorem admitted_name (x : String) : (Expr.name x).Admitted ↔ x ∉ constantNames := by
  simp [Admitted, Expr.fault?, Expr.bindsHostName, constantName?]

@[simp] theorem admitted_attr (o : Expr) (f : String) : (Expr.attr o f).Admitted ↔ o.Admitted := by
  simp [Admitted, Expr.fault?, Expr.bindsHostName]

@[simp] theorem admitted_call (f : Expr) (args : List Expr) :
    (Expr.call f args).Admitted ↔ f.Admitted ∧ ∀ a ∈ args, a.Admitted := by
  simp only [Admitted, Expr.fault?, Expr.bindsHostName, Option.orElse_eq_none, Bool.or_eq_false_iff,
    faultIn?_eq_none_iff, anyBindsHostName_eq_false_iff]
  grind

@[simp] theorem admitted_index (o k : Expr) :
    (Expr.index o k).Admitted ↔ o.Admitted ∧ k.Admitted := by
  simp only [Admitted, Expr.fault?, Expr.bindsHostName, Option.orElse_eq_none, Bool.or_eq_false_iff]
  tauto

@[simp] theorem admitted_arith (op : ArithOp) (l r : Expr) :
    (Expr.arith op l r).Admitted ↔ l.Admitted ∧ r.Admitted := by
  simp only [Admitted, Expr.fault?, Expr.bindsHostName, Option.orElse_eq_none, Bool.or_eq_false_iff]
  tauto

@[simp] theorem admitted_minus (e : Expr) : (Expr.minus e).Admitted ↔ e.Admitted := by
  simp [Admitted, Expr.fault?, Expr.bindsHostName]

@[simp] theorem admitted_not (e : Expr) : (Expr.not e).Admitted ↔ e.Admitted := by
  simp [Admitted, Expr.fault?, Expr.bindsHostName]

@[simp] theorem admitted_logic (op : Conn) (parts : List Expr) :
    (Expr.logic op parts).Admitted ↔ ∀ a ∈ parts, a.Admitted := by
  simp only [Admitted, Expr.fault?, Expr.bindsHostName, faultIn?_eq_none_iff,
    anyBindsHostName_eq_false_iff]
  grind

@[simp] theorem admitted_compare (l : Expr) (op : CmpOp) (r : Expr) :
    (Expr.compare l op r).Admitted ↔ l.Admitted ∧ r.Admitted := by
  simp only [Admitted, Expr.fault?, Expr.bindsHostName, Option.orElse_eq_none, Bool.or_eq_false_iff]
  tauto

@[simp] theorem admitted_bind (x : String) (v : Expr) :
    (Expr.bind x v).Admitted ↔ x ≠ hostName ∧ v.Admitted := by
  simp only [Admitted, Expr.fault?, Expr.bindsHostName, Bool.or_eq_false_iff, beq_eq_false_iff_ne]
  tauto

@[simp] theorem admitted_tuple (items : List Expr) :
    (Expr.tuple items).Admitted ↔ ∀ a ∈ items, a.Admitted := by
  simp only [Admitted, Expr.fault?, Expr.bindsHostName, faultIn?_eq_none_iff,
    anyBindsHostName_eq_false_iff]
  grind

end Expr

namespace Stmt

@[simp] theorem admitted_ifThen (t : Expr) (body : List Stmt) :
    (Stmt.ifThen t body).Admitted ↔ t.Admitted ∧ ∀ s ∈ body, s.Admitted := by
  simp only [Admitted, Expr.Admitted, Stmt.fault?, Stmt.bindsHostName, Option.orElse_eq_none,
    Bool.or_eq_false_iff, faultInBody?_eq_none_iff, bodyBindsHostName_eq_false_iff]
  grind

@[simp] theorem admitted_ret (e : Expr) : (Stmt.ret e).Admitted ↔ e.Admitted := by
  simp [Admitted, Expr.Admitted, Stmt.fault?, Stmt.bindsHostName]

@[simp] theorem admitted_raise (e : Expr) : (Stmt.raise e).Admitted ↔ e.Admitted := by
  simp [Admitted, Expr.Admitted, Stmt.fault?, Stmt.bindsHostName]

end Stmt

end Code

/-- A function the host admits is one whose every statement it admits. -/
theorem Emitted.admitted_function (f : String) (body : List Code.Stmt) :
    (Emitted.function f body).Admitted ↔ ∀ s ∈ body, s.Admitted := by
  simp only [Emitted.Admitted, faultInBody?_eq_none_iff, bodyBindsHostName_eq_false_iff,
    Code.Stmt.Admitted, ← forall_and]

/-! ## Emitted code is admitted -/

namespace Code.Expr

@[simp] theorem admitted_str (s : String) : (Expr.str s).Admitted := by
  simp [Expr.str]

@[simp] theorem admitted_callName (fn : String) (args : List Expr) :
    (Expr.callName fn args).Admitted ↔ fn ∉ constantNames ∧ ∀ a ∈ args, a.Admitted := by
  simp [Expr.callName]

@[simp] theorem admitted_method (o : Expr) (m : String) (args : List Expr) :
    (Expr.method o m args).Admitted ↔ o.Admitted ∧ ∀ a ∈ args, a.Admitted := by
  simp [Expr.method]

/-- Operands joined by `+` are admitted when each is. -/
theorem admitted_sum? {es : List Expr} (hes : ∀ e ∈ es, e.Admitted) {s : Expr}
    (hs : Expr.sum? es = some s) : s.Admitted := by
  cases es with
  | nil => cases hs
  | cons e es =>
    cases hs
    -- the sum grows from the first operand, one operand at a time
    have hfold : ∀ (rest : List Expr) (acc : Expr), acc.Admitted → (∀ x ∈ rest, x.Admitted) →
        (rest.foldl (.arith .add) acc).Admitted := by
      intro rest
      induction rest with
      | nil => exact fun _ hacc _ => hacc
      | cons x rest ih =>
        intro acc hacc hrest
        exact ih _ ((admitted_arith _ _ _).2 ⟨hacc, hrest x List.mem_cons_self⟩)
          fun y hy => hrest y (List.mem_cons_of_mem _ hy)
    exact hfold es e (hes e List.mem_cons_self) fun x hx => hes x (List.mem_cons_of_mem _ hx)

end Code.Expr

namespace Node

theorem ScalarData.of_mem_children {n c : Node} (h : n.ScalarData) (hc : c ∈ n.children) :
    c.ScalarData := by
  cases h with
  | mk _ _ hcs => exact hcs c hc

theorem Plain.of_mem_children {n c : Node} (h : n.Plain) (hc : c ∈ n.children) : c.Plain := by
  cases h with
  | mk _ _ hcs => exact hcs c hc

/-- A plain node of a kind that carries a name names it by a scalar. -/
theorem Plain.name_isScalar {n : Node} (h : n.Plain) (hk : n.kind.has .name) :
    n.fields.name.IsScalar := by
  cases h with
  | mk _ hname _ =>
    obtain ⟨s, hs⟩ := hname hk
    exact hs ▸ Datum.isScalar_str s

/-- The value a comparison is made against, in a tree with scalar literals, is a scalar. -/
theorem ScalarData.rhs_isScalar {c x v : Node} (h : c.ScalarData)
    (hk : c.kind = .equality ∨ c.kind = .inequality) (hc : c.children = [x, v]) :
    v.fields.value.IsScalar := by
  cases h with
  | mk _ hrhs hcs =>
    obtain rfl : _ = [x, v] := hc
    exact (hcs v (by simp)).value (hrhs hk v rfl)

end Node

namespace Emit

open Code EmitM

@[simp] theorem admitted_paramLookup (v : Datum) : (paramLookup v).Admitted ↔ v.IsScalar := by
  simp [paramLookup, keyOf, paramsName, constantNames]

@[simp] theorem admitted_paramGet (v : Datum) : (paramGet v).Admitted ↔ v.IsScalar := by
  simp [paramGet, keyOf, paramsName, constantNames]

@[simp] theorem admitted_ctx : ctx.Admitted := by
  simp [ctx, ctxName, constantNames]

@[simp] theorem admitted_ctxMethod (m : String) (args : List Expr) :
    (ctxMethod m args).Admitted ↔ ∀ a ∈ args, a.Admitted := by
  simp [ctxMethod]

/-- Items emitted by a filtering emission each come from an item emitted on its own. -/
theorem filterMapM_inv {γ α : Type} {f : γ → EmitM (Option α)} {cs : List γ} {h h' : Helpers}
    {as : List α} (hrun : (cs.filterMapM f).run' h = (.ok as, h')) :
    ∀ a ∈ as, ∃ c ∈ cs, ∃ h₁ h₂, (f c).run' h₁ = (.ok (some a), h₂) := by
  induction cs generalizing h as with
  | nil =>
    rw [List.filterMapM_nil, run'_pure] at hrun
    cases hrun
    exact List.forall_mem_nil _
  | cons c cs ih =>
    rw [List.filterMapM_cons] at hrun
    obtain ⟨o, h₁, ho, hrest⟩ := run'_bind_inv hrun
    cases o with
    | none =>
      intro a ha
      obtain ⟨c', hc', hrun'⟩ := ih hrest a ha
      exact ⟨c', List.mem_cons_of_mem _ hc', hrun'⟩
    | some b =>
      obtain ⟨bs, h₂, hbs, hlast⟩ := run'_bind_inv hrest
      rw [run'_pure] at hlast
      cases hlast
      intro a ha
      rcases List.mem_cons.1 ha with rfl | ha
      · exact ⟨c, List.mem_cons_self, h, h₁, ho⟩
      · obtain ⟨c', hc', hrun'⟩ := ih hbs a ha
        exact ⟨c', List.mem_cons_of_mem _ hc', hrun'⟩

/-- The code of an expression of a plain tree with scalar literals is admitted: it writes the
tree's values and names as literals, and reads only fixed names and helpers. -/
theorem expr_admitted :
    (∀ n {h h' : Helpers} {e : Expr}, (expr n).run' h = (.ok e, h') → n.ScalarData → n.Plain →
      e.Admitted) ∧
    ∀ ns {h h' : Helpers} {es : List Expr}, (exprs ns).run' h = (.ok es, h') →
      (∀ n ∈ ns, n.ScalarData ∧ n.Plain) → ∀ e ∈ es, e.Admitted := by
  refine expr_induction _ _ ?number ?string ?var ?binary ?neg ?call ?other ?nil ?cons
  case number =>
    intro f cs h h' e hrun hs _
    rw [expr.eq_1, run'_pure] at hrun
    cases hrun
    exact (Expr.admitted_const _).2 (hs.value rfl)
  case string =>
    intro f cs h h' e hrun hs _
    rw [expr.eq_2, run'_pure] at hrun
    cases hrun
    exact (Expr.admitted_const _).2 (hs.value rfl)
  case var =>
    intro f cs h h' e hrun _ hp
    rw [expr.eq_3, run'_pure] at hrun
    cases hrun
    exact (admitted_paramLookup _).2 (hp.name_isScalar rfl)
  case binary =>
    intro k f op l r hop hnum hstr hvar ihl ihr h h' e hrun hs hp
    rw [expr.eq_4 f k op l r hnum hstr hvar hop] at hrun
    obtain ⟨l', h₁, hl, hrest⟩ := run'_bind_inv hrun
    obtain ⟨r', h₂, hr, hlast⟩ := run'_bind_inv hrest
    have hl' : l'.Admitted := ihl hl (hs.of_mem_children (by simp [Node.children]))
      (hp.of_mem_children (by simp [Node.children]))
    have hr' : r'.Admitted := ihr hr (hs.of_mem_children (by simp [Node.children]))
      (hp.of_mem_children (by simp [Node.children]))
    split at hlast
    · rw [run'_pure] at hlast
      cases hlast
      exact (Expr.admitted_arith _ _ _).2 ⟨hl', hr'⟩
    · rw [plusOp_run'] at hlast
      cases hlast
      simp [constantNames, hl', hr']
  case neg =>
    intro f o ih h h' e hrun hs hp
    rw [expr.eq_5] at hrun
    obtain ⟨o', h₁, ho, hlast⟩ := run'_bind_inv hrun
    rw [run'_pure] at hlast
    cases hlast
    exact (Expr.admitted_minus _).2 (ih ho (hs.of_mem_children (by simp [Node.children]))
      (hp.of_mem_children (by simp [Node.children])))
  case call =>
    intro f args _ ih h h' e hrun hs hp
    rw [expr.eq_6] at hrun
    obtain ⟨args', h₁, hargs, hlast⟩ := run'_bind_inv hrun
    rw [run'_pure] at hlast
    cases hlast
    have hargs' := ih hargs fun a ha => ⟨hs.of_mem_children ha, hp.of_mem_children ha⟩
    have hname : f.name.IsScalar := hp.name_isScalar rfl
    refine (Expr.admitted_call _ _).2 ⟨by simp [keyOf, fnsName, constantNames, hname], ?_⟩
    exact List.forall_mem_cons.2 ⟨admitted_ctx, hargs'⟩
  case other =>
    intro k f cs h₁ h₂ h₃ h₄ h₅ h₆ h h' e hrun
    rw [expr.eq_7 f k cs] at hrun
    · rw [run'_throw] at hrun
      cases hrun
    all_goals assumption
  case nil =>
    intro h h' es hrun _
    rw [exprs, run'_pure] at hrun
    cases hrun
    exact List.forall_mem_nil _
  case cons =>
    intro e es ih ihs h h' es' hrun hnodes
    rw [exprs] at hrun
    obtain ⟨e', h₁, he, hrest⟩ := run'_bind_inv hrun
    obtain ⟨es'', h₂, hes, hlast⟩ := run'_bind_inv hrest
    rw [run'_pure] at hlast
    cases hlast
    have he' := ih he (hnodes e List.mem_cons_self).1 (hnodes e List.mem_cons_self).2
    have hes' := ihs hes fun n hn => hnodes n (List.mem_cons_of_mem _ hn)
    exact List.forall_mem_cons.2 ⟨he', hes'⟩

theorem textPart_admitted {n : Node} {h h' : Helpers} {p : Expr × Bool}
    (hrun : (textPart n).run' h = (.ok p, h')) (hs : n.ScalarData) (hp : n.Plain) :
    p.1.Admitted := by
  unfold textPart at hrun
  split at hrun
  · next hk =>
    rw [run'_pure] at hrun
    cases hrun
    exact (Expr.admitted_const _).2 (hs.value (by rw [hk]; rfl))
  · next hk =>
    have hname : n.fields.name.IsScalar := hp.name_isScalar (by rw [hk]; rfl)
    dsimp only at hrun
    split at hrun
    · obtain ⟨e, h₁, he, hlast⟩ := run'_bind_inv hrun
      rw [numberText_run'] at he
      cases he
      rw [run'_pure] at hlast
      cases hlast
      simp [constantNames, hname]
    · rw [run'_pure] at hrun
      cases hrun
      exact (admitted_paramLookup _).2 hname
  · next x _ hcs =>
    have hx : x ∈ n.children := by simp [hcs]
    obtain ⟨e, h₁, he, hrest⟩ := run'_bind_inv hrun
    have he' : e.Admitted := expr_admitted.1 _ he (hs.of_mem_children hx) (hp.of_mem_children hx)
    split at hrest
    · obtain ⟨e', h₂, he'', hlast⟩ := run'_bind_inv hrest
      rw [numberText_run'] at he''
      cases he''
      rw [run'_pure] at hlast
      cases hlast
      simp [constantNames, he']
    · rw [run'_pure] at hrest
      cases hrest
      exact he'
  · rw [run'_throw] at hrun
    cases hrun

theorem closeRun_admitted {group : Option Expr} (hgroup : ∀ g, group = some g → g.Admitted) :
    ∀ e ∈ closeRun group, e.Admitted := by
  cases group with
  | none => exact List.forall_mem_nil _
  | some g => simp [closeRun, hgroup g rfl]

theorem encodeParts_admitted {parts : List (Expr × Bool)} {group : Option Expr} {done r : List Expr}
    {h h' : Helpers} (hrun : (encodeParts parts group done).run' h = (.ok r, h'))
    (hparts : ∀ p ∈ parts, p.1.Admitted) (hgroup : ∀ g, group = some g → g.Admitted)
    (hdone : ∀ e ∈ done, e.Admitted) : ∀ e ∈ r, e.Admitted := by
  induction parts generalizing group done h with
  | nil =>
    rw [encodeParts, run'_pure] at hrun
    cases hrun
    exact List.forall_mem_append.2 ⟨hdone, closeRun_admitted hgroup⟩
  | cons p rest ih =>
    obtain ⟨e, _ | _⟩ := p
    · -- a value on its own closes the run and is encoded by itself
      obtain ⟨enc, h₁, henc, hrest⟩ := run'_bind_inv hrun
      rw [encodeIfString_run'] at henc
      cases henc
      have he : e.Admitted := hparts _ List.mem_cons_self
      refine ih hrest (fun p hp => hparts p (List.mem_cons_of_mem _ hp))
        (fun _ h => absurd h.symm (Option.some_ne_none _)) ?_
      simp only [List.forall_mem_append, List.forall_mem_singleton]
      exact ⟨⟨hdone, closeRun_admitted hgroup⟩, by simp [constantNames, he]⟩
    · -- literal text joins the run
      refine ih hrun (fun p hp => hparts p (List.mem_cons_of_mem _ hp)) ?_ hdone
      intro g hg
      cases hg
      have he : e.Admitted := hparts _ List.mem_cons_self
      cases group with
      | none => exact he
      | some g' => exact (Expr.admitted_arith _ _ _).2 ⟨hgroup g' rfl, he⟩

theorem textOfParts_admitted {nodes : List Node} {h h' : Helpers} {e : Expr}
    (hrun : (textOfParts nodes).run' h = (.ok e, h')) (hnodes : ∀ n ∈ nodes, n.ScalarData ∧ n.Plain) :
    e.Admitted := by
  obtain ⟨parts, h₁, hparts, hrest⟩ := run'_bind_inv hrun
  obtain ⟨encoded, h₂, hencoded, hlast⟩ := run'_bind_inv hrest
  have hparts' : ∀ p ∈ parts, p.1.Admitted := by
    intro p hp
    obtain ⟨n, hn, h₃, h₄, hrun'⟩ := Node.exists_of_forall₂_left (mapM_inv hparts).flip hp
    exact textPart_admitted hrun' (hnodes n hn).1 (hnodes n hn).2
  have henc := encodeParts_admitted hencoded hparts' (fun _ h => absurd h.symm (Option.some_ne_none _))
    (List.forall_mem_nil _)
  rw [run'_pure] at hlast
  cases hlast
  cases hsum : Expr.sum? encoded with
  | none => simp
  | some s => simpa using Expr.admitted_sum? henc hsum

theorem text_admitted {root : Node} {h h' : Helpers} {e : Expr}
    (hrun : (text root).run' h = (.ok e, h')) (hs : root.ScalarData) (hp : root.Plain) :
    e.Admitted := by
  unfold text at hrun
  split at hrun
  · exact textOfParts_admitted hrun fun n hn => ⟨hs.of_mem_children hn, hp.of_mem_children hn⟩
  · rw [run'_throw] at hrun
    cases hrun

theorem failsType_admitted {v : Datum} {t : Ty} {h h' : Helpers} {e : Expr}
    (hrun : (failsType v t).run' h = (.ok e, h')) (hv : v.IsScalar) : e.Admitted := by
  cases t
  case numberOrString =>
    obtain ⟨_, h₁, hmod, hlast⟩ := run'_bind_inv hrun
    rw [run'_pure] at hlast
    cases hlast
    simp [isinstanceOf, scratchName, hostName, constantNames, hv]
  case error =>
    rw [failsType, run'_throw] at hrun
    cases hrun
  all_goals
    rw [failsType, run'_pure] at hrun
    cases hrun
    simp [isinstanceOf, keyOf, paramsName, constantNames, hv]

theorem raiseTypeError_admitted (message : String) : (raiseTypeError message).Admitted := by
  simp [raiseTypeError, constantNames]

/-- The guards of a map named by scalars are admitted. -/
theorem typeGuards_admitted {m : TypeMap} {h h' : Helpers} {gs : List Stmt}
    (hrun : (typeGuards m).run' h = (.ok gs, h')) (hm : m.ScalarNames) : ∀ s ∈ gs, s.Admitted := by
  obtain ⟨vgs, h₁, hvgs, hlast⟩ := run'_bind_inv hrun
  rw [run'_pure] at hlast
  cases hlast
  intro s hs
  rcases List.mem_append.1 hs with hs | hs
  · obtain ⟨⟨v, i⟩, hvi, h₂, h₃, hguard⟩ := Node.exists_of_forall₂_left (mapM_inv hvgs).flip hs
    obtain ⟨test, h₄, htest, hlast⟩ := run'_bind_inv hguard
    rw [run'_pure] at hlast
    cases hlast
    exact (Stmt.admitted_ifThen _ _).2 ⟨failsType_admitted htest (hm.vars _ hvi),
      List.forall_mem_singleton.2 (raiseTypeError_admitted _)⟩
  · obtain ⟨f, hf, rfl⟩ := List.mem_map.1 hs
    obtain ⟨e, he, rfl⟩ := List.mem_map.1 hf
    have hname : e.1.IsScalar := hm.functions e he
    simp [functionGuard, keyOf, fnsName, constantNames, hname, raiseTypeError_admitted]

theorem constraintTest_admitted {c : Node} {h h' : Helpers} {t : Expr}
    (hrun : (constraintTest c).run' h = (.ok (some t), h')) (hs : c.ScalarData) (hp : c.Plain) :
    t.Admitted := by
  unfold constraintTest at hrun
  split at hrun
  case h_1 =>
    rw [run'_pure] at hrun
    cases hrun
  case h_4 =>
    rw [run'_throw] at hrun
    cases hrun
  -- an equality and an inequality are emitted alike
  all_goals
    next x rhs hk hcs =>
    obtain ⟨y, h₁, hy, hlast⟩ := run'_bind_inv hrun
    have hy' : y.IsScalar := by
      unfold constrained? at hy
      split at hy
      · next hname =>
        rw [run'_pure] at hy
        cases hy
        obtain ⟨s, rfl⟩ := hp.nameOf_str hname
        exact Datum.isScalar_str s
      · rw [run'_throw] at hy
        cases hy
    have hrhs : rhs.fields.value.IsScalar := hs.rhs_isScalar (by simp [hk]) hcs
    split at hlast
    · rw [run'_pure] at hlast
      cases hlast
      simp [hy', hrhs]
    · rw [run'_throw] at hlast
      cases hlast

theorem ruleStmt_admitted {constraints : Node} {e : Expr} {h h' : Helpers} {s : Stmt}
    (hrun : (ruleStmt constraints e).run' h = (.ok s, h')) (hs : constraints.ScalarData)
    (hp : constraints.Plain) (he : e.Admitted) : s.Admitted := by
  obtain ⟨cs, h₁, hcs, hrest⟩ := run'_bind_inv hrun
  obtain ⟨tests, h₂, htests, hlast⟩ := run'_bind_inv hrest
  -- the constraints are the children of the constraint list
  have hcs' : cs = constraints.children := by
    unfold nodesOf at hcs
    split at hcs
    · rw [run'_pure] at hcs
      cases hcs
      rfl
    · rw [run'_throw] at hcs
      cases hcs
  subst hcs'
  have hts : ∀ t ∈ tests, t.Admitted := by
    intro t ht
    obtain ⟨c, hc, h₃, h₄, hrun'⟩ := filterMapM_inv htests t ht
    exact constraintTest_admitted hrun' (hs.of_mem_children hc) (hp.of_mem_children hc)
  split at hlast
  all_goals
    rw [run'_pure] at hlast
    cases hlast
  · exact (Stmt.admitted_ret _).2 he
  · simp [hts _ List.mem_cons_self, he]
  · exact (Stmt.admitted_ifThen _ _).2 ⟨(Expr.admitted_logic _ _).2 hts,
      List.forall_mem_singleton.2 ((Stmt.admitted_ret _).2 he)⟩

/-- The part of a rule that emission reads is one of its children. -/
theorem rulePart_mem {rule : Node} {i : Nat} {part : String} {h h' : Helpers} {c : Node}
    (hrun : (rulePart rule i part).run' h = (.ok c, h')) : c ∈ rule.children := by
  unfold rulePart at hrun
  split at hrun
  · next hc =>
    rw [run'_pure] at hrun
    cases hrun
    exact List.mem_of_getElem? hc
  · rw [run'_throw] at hrun
    cases hrun

theorem ruleStmts_admitted {rules : List Node} {h h' : Helpers} {r : List Stmt × Bool}
    (hrun : (ruleStmts rules).run' h = (.ok r, h')) (hrules : ∀ n ∈ rules, n.ScalarData ∧ n.Plain) :
    ∀ s ∈ r.1, s.Admitted := by
  induction rules generalizing h r with
  | nil =>
    rw [ruleStmts, run'_pure] at hrun
    cases hrun
    exact List.forall_mem_nil _
  | cons rule rest ih =>
    rw [ruleStmts] at hrun
    obtain ⟨tr, h₁, htr, hrun⟩ := run'_bind_inv hrun
    obtain ⟨e, h₂, he, hrun⟩ := run'_bind_inv hrun
    obtain ⟨cs, h₃, hcs, hrun⟩ := run'_bind_inv hrun
    obtain ⟨s, h₄, hs, hrun⟩ := run'_bind_inv hrun
    obtain ⟨⟨ss, returned⟩, h₅, hss, hlast⟩ := run'_bind_inv hrun
    rw [run'_pure] at hlast
    cases hlast
    obtain ⟨hrs, hrp⟩ := hrules rule List.mem_cons_self
    have htr := rulePart_mem htr
    have hcs := rulePart_mem hcs
    have he' : e.Admitted := text_admitted he (hrs.of_mem_children htr) (hrp.of_mem_children htr)
    exact List.forall_mem_cons.2 ⟨ruleStmt_admitted hs (hrs.of_mem_children hcs)
      (hrp.of_mem_children hcs) he', ih hss fun n hn => hrules n (List.mem_cons_of_mem _ hn)⟩

theorem noMatch_admitted : noMatch.Admitted := by
  simp [noMatch, constantNames]

/-- A function that guards its parameters and returns the text of a plain tree with scalar
literals, under a map named by scalars, is code the host admits. -/
theorem general_admitted {m : TypeMap} {name : String} {root : Node} {h h' : Helpers}
    {e : Emitted} (hrun : (simple.general m name root).run' h = (.ok e, h')) (hm : m.ScalarNames)
    (hs : root.ScalarData) (hp : root.Plain) : e.Admitted := by
  obtain ⟨gs, h₁, hgs, hrest⟩ := run'_bind_inv hrun
  obtain ⟨t, h₂, ht, hlast⟩ := run'_bind_inv hrest
  rw [run'_pure] at hlast
  cases hlast
  rw [Emitted.admitted_function]
  exact List.forall_mem_append.2 ⟨typeGuards_admitted hgs hm,
    List.forall_mem_singleton.2 ((Stmt.admitted_ret _).2 (text_admitted ht hs hp))⟩

/-- The emitted form of a text is admitted: an empty text and a single literal are constants of
a scalar value, anything else is a guarded function. -/
theorem simple_admitted {m : TypeMap} {name : String} {root : Node} {h h' : Helpers}
    {e : Emitted} (hrun : (simple m name root).run' h = (.ok e, h')) (hm : m.ScalarNames)
    (hs : root.ScalarData) (hp : root.Plain) : e.Admitted := by
  unfold simple at hrun
  split at hrun
  · rw [run'_pure] at hrun
    cases hrun
    rfl
  · next n hcs =>
    split at hrun
    · next hk =>
      rw [run'_pure] at hrun
      cases hrun
      have hn : n.ScalarData := hs.of_mem_children (by simp [hcs])
      obtain ⟨s, hv⟩ := hn.value (by rw [hk]; rfl)
      simp [Emitted.Admitted, constantValue?, hv]
    · exact general_admitted hrun hm hs hp
  · exact general_admitted hrun hm hs hp

/-- The emitted form of a rule set is admitted: the guards, one statement per rule, and the
refusal when no rule matches. -/
theorem constrained_admitted {m : TypeMap} {name : String} {root : Node} {h h' : Helpers}
    {e : Emitted} (hrun : (constrained m name root).run' h = (.ok e, h')) (hm : m.ScalarNames)
    (hs : root.ScalarData) (hp : root.Plain) : e.Admitted := by
  unfold constrained at hrun
  dsimp only at hrun
  split at hrun
  · obtain ⟨_, _, hthrow, -⟩ := run'_bind_inv hrun
    rw [run'_throw] at hthrow
    cases hthrow
  · obtain ⟨gs, h₁, hgs, hrest⟩ := run'_bind_inv hrun
    obtain ⟨⟨stmts, returned⟩, h₂, hstmts, hlast⟩ := run'_bind_inv hrest
    rw [run'_pure] at hlast
    cases hlast
    have hstmts' := ruleStmts_admitted hstmts fun n hn =>
      ⟨hs.of_mem_children hn, hp.of_mem_children hn⟩
    have hend : ∀ s ∈ (if returned then [] else [noMatch]), s.Admitted := by
      split
      · exact List.forall_mem_nil _
      · exact List.forall_mem_singleton.2 noMatch_admitted
    rw [Emitted.admitted_function]
    exact List.forall_mem_append.2 ⟨List.forall_mem_append.2 ⟨typeGuards_admitted hgs hm,
      hstmts'⟩, hend⟩

/-- A translation of a plain tree with scalar literals, emitted under a map named by scalars, is
code the host admits. -/
theorem translation_admitted {m : TypeMap} {name : String} {root : Node} {h h' : Helpers}
    {e : Emitted} (hrun : (translation m name root).run' h = (.ok e, h')) (hm : m.ScalarNames)
    (hs : root.ScalarData) (hp : root.Plain) : e.Admitted := by
  unfold translation at hrun
  split at hrun
  · exact simple_admitted hrun hm hs hp
  · exact constrained_admitted hrun hm hs hp
  · rw [run'_throw] at hrun
    cases hrun

end Emit

/-- Every translation that compiles from a well-formed tree, against a map named by scalars and
under signatures that no safe text names, is code the host admits. -/
theorem compileTranslation_admitted {m m' : TypeMap} {h h' : Helpers} {o : CompileOptions}
    {t : Node} {e : Emitted} (ht : t.IsTranslation) (hm : m.ScalarNames)
    (hsigs : ∀ q ∈ o.signatures, ∀ x, q.1 ≠ .safe x)
    (hc : compileTranslation m h o t = (m', h', .ok e)) : e.Admitted := by
  obtain ⟨typed, hanalyze, -, hemit⟩ := compileTranslation_emits hc
  exact Emit.translation_admitted hemit (TypeMap.analyze_scalarNames hm hsigs ht.plain hanalyze)
    (TypeMap.analyze_scalarData ht.scalarData hanalyze)
    (TypeMap.analyze_keepsUses hanalyze ht.plain).1

end Lingo
