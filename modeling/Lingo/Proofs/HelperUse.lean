import Lingo.Proofs.Emission
import Lingo.Proofs.Frame
import Lingo.Proofs.Keys

/-!
# The helpers emission records, and the names its code reads

Emission runs in `EmitM`, whose state is the record of helpers, and it only ever sets flags in
that record. `EmitM.Adds` says so of a step: from every record it gives the same result and adds
the same flags, those it sets from an empty record, and each helper it records comes with the
helpers that one calls (`Helpers.Consistent`). Every emitter is such a step (`translation_adds`):
a translation emitted after others, with the record they left, is emitted as it is alone, and the
shared record is the union of the records of each.

The second half bounds what emitted code reads (`Helpers.Reads`): the fixed names (the
parameters of the emitted functions and of the helpers, the scratch variable, the built-ins the
code calls) and the helpers that its emission recorded (`translation_reads`). Last, the name a
translation is emitted under names its function and changes nothing else (`translation_named`).
-/

namespace Lingo

namespace Helpers

/-- The helpers either record needs. -/
def union (a b : Helpers) : Helpers where
  scratch := a.scratch || b.scratch
  encodeIfString := a.encodeIfString || b.encodeIfString
  plusOp := a.plusOp || b.plusOp
  numberText := a.numberText || b.numberText

@[simp] theorem union_scratch (a b : Helpers) : (a.union b).scratch = (a.scratch || b.scratch) := rfl

@[simp] theorem union_encodeIfString (a b : Helpers) :
    (a.union b).encodeIfString = (a.encodeIfString || b.encodeIfString) := rfl

@[simp] theorem union_plusOp (a b : Helpers) : (a.union b).plusOp = (a.plusOp || b.plusOp) := rfl

@[simp] theorem union_numberText (a b : Helpers) :
    (a.union b).numberText = (a.numberText || b.numberText) := rfl

@[simp] theorem union_empty (a : Helpers) : a.union {} = a := by
  simp [union]

@[simp] theorem empty_union (a : Helpers) : ({} : Helpers).union a = a := by
  simp [union]

theorem union_assoc (a b c : Helpers) : (a.union b).union c = a.union (b.union c) := by
  simp [union, Bool.or_assoc]

/-- A record in which each helper comes with the helpers it calls: `encode_if_string` calls
`number_text`, and `plus_op` calls `encode_if_string`. -/
structure Consistent (h : Helpers) : Prop where
  encodes : h.encodeIfString = true → h.numberText = true
  adds : h.plusOp = true → h.encodeIfString = true

theorem Consistent.empty : ({} : Helpers).Consistent := ⟨by simp, by simp⟩

theorem Consistent.union {a b : Helpers} (ha : a.Consistent) (hb : b.Consistent) :
    (a.union b).Consistent := by
  constructor
  · simp only [Helpers.union, Bool.or_eq_true]
    exact Or.imp ha.encodes hb.encodes
  · simp only [Helpers.union, Bool.or_eq_true]
    exact Or.imp ha.adds hb.adds

end Helpers

namespace EmitM

variable {α β : Type}

theorem run'_bind (x : EmitM α) (f : α → EmitM β) (h : Helpers) :
    (x >>= f).run' h = match x.run' h with
      | (.ok a, h₁) => (f a).run' h₁
      | (.error e, h₁) => (.error e, h₁) := by
  simp only [run', ExceptT.run_bind, StateT.run_bind]
  cases hx : (ExceptT.run x).run h with
  | mk r h₁ => cases r <;> rfl

theorem run'_modify (f : Helpers → Helpers) (h : Helpers) :
    (modify f : EmitM PUnit).run' h = (.ok ⟨⟩, f h) := rfl

/-- An emission step that adds the same helpers to every record, those it records from an empty
one, and that records each helper with the helpers it calls. -/
structure Adds (x : EmitM α) : Prop where
  run'_eq : ∀ h, x.run' h = ((x.run' {}).1, h.union (x.run' {}).2)
  consistent : (x.run' {}).2.Consistent

namespace Adds

theorem pure' (a : α) : Adds (pure a : EmitM α) :=
  ⟨fun h => by simp [run'_pure], by simpa [run'_pure] using Helpers.Consistent.empty⟩

theorem throw' (f : Failure) : Adds (throw f : EmitM α) :=
  ⟨fun h => by simp [run'_throw], by simpa [run'_throw] using Helpers.Consistent.empty⟩

theorem bind {x : EmitM α} {f : α → EmitM β} (hx : Adds x) (hf : ∀ a, Adds (f a)) :
    Adds (x >>= f) := by
  have hrun := hx.run'_eq
  have hcons := hx.consistent
  cases hx₀ : x.run' {} with
  | mk r δ =>
    rw [hx₀] at hrun hcons
    cases r with
    | error e =>
      refine ⟨fun h => ?_, ?_⟩
      · rw [run'_bind, run'_bind, hrun, hx₀]
      · rw [run'_bind, hx₀]
        exact hcons
    | ok a =>
      refine ⟨fun h => ?_, ?_⟩
      · rw [run'_bind, run'_bind, hrun, hx₀]
        dsimp only
        rw [(hf a).run'_eq, (hf a).run'_eq δ, Helpers.union_assoc]
      · rw [run'_bind, hx₀]
        dsimp only
        rw [(hf a).run'_eq δ]
        exact hcons.union (hf a).consistent

theorem modify' {f : Helpers → Helpers} (hf : ∀ h, f h = h.union (f {})) (hc : (f {}).Consistent) :
    Adds (modify f : EmitM PUnit) :=
  ⟨fun h => by rw [run'_modify, run'_modify, ← hf], by rwa [run'_modify]⟩

theorem mapM {γ : Type} {f : γ → EmitM α} (hf : ∀ c, Adds (f c)) (cs : List γ) :
    Adds (cs.mapM f) := by
  induction cs with
  | nil => exact pure' []
  | cons c cs ih =>
    rw [List.mapM_cons]
    exact (hf c).bind fun a => ih.bind fun as => pure' _

theorem filterMapM {γ : Type} {f : γ → EmitM (Option α)} (hf : ∀ c, Adds (f c)) (cs : List γ) :
    Adds (cs.filterMapM f) := by
  induction cs with
  | nil => exact pure' []
  | cons c cs ih =>
    rw [List.filterMapM_cons]
    refine (hf c).bind fun a => ?_
    cases a with
    | none => exact ih
    | some b => exact ih.bind fun bs => pure' _

end Adds

end EmitM

namespace Emit

open Code EmitM

theorem numberText_adds (e : Expr) : Adds (numberText e) :=
  (Adds.modify' (fun h => by simp [Helpers.union]) ⟨by simp, by simp⟩).bind fun _ => .pure' _

theorem encodeIfString_adds (e : Expr) : Adds (encodeIfString e) :=
  (Adds.modify' (fun h => by simp [Helpers.union]) ⟨fun _ => rfl, by simp⟩).bind fun _ => .pure' _

theorem plusOp_adds (l r : Expr) : Adds (plusOp l r) :=
  (Adds.modify' (fun h => by simp [Helpers.union]) ⟨fun _ => rfl, fun _ => rfl⟩).bind
    fun _ => .pure' _

/-- Induction along the cases of `expr` and `exprs`, in the order `expr` tries them: literals and
variables, a native operator on two operands, a negation, a call with its arguments, and any other
node, which is refused. -/
theorem expr_induction (motive_1 : Node → Prop) (motive_2 : List Node → Prop)
    (number : ∀ f cs, motive_1 (.mk .number f cs))
    (string : ∀ f cs, motive_1 (.mk .stringLit f cs))
    (var : ∀ f cs, motive_1 (.mk .var f cs))
    (binary : ∀ k f op l r, arithOf k = some op → k ≠ .number → k ≠ .stringLit → k ≠ .var →
      motive_1 l → motive_1 r → motive_1 (.mk k f [l, r]))
    (neg : ∀ f o, motive_1 o → motive_1 (.mk .neg f [o]))
    (call : ∀ f args, (∀ op l r, arithOf .call = some op → args = [l, r] → False) →
      motive_2 args → motive_1 (.mk .call f args))
    (other : ∀ k f cs, k ≠ .number → k ≠ .stringLit → k ≠ .var → k ≠ .call →
      (∀ o, k = .neg → cs = [o] → False) → (∀ op l r, arithOf k = some op → cs = [l, r] → False) →
      motive_1 (.mk k f cs))
    (nil : motive_2 []) (cons : ∀ e es, motive_1 e → motive_2 es → motive_2 (e :: es)) :
    (∀ n, motive_1 n) ∧ ∀ ns, motive_2 ns := by
  have hlist : ∀ ns : List Node, (∀ n ∈ ns, motive_1 n) → motive_2 ns := by
    intro ns hns
    induction ns with
    | nil => exact nil
    | cons e es ih =>
      exact cons e es (hns e List.mem_cons_self) (ih fun n hn => hns n (List.mem_cons_of_mem _ hn))
  have hnode : ∀ n, motive_1 n := by
    intro n
    induction n using Node.induction with
    | h k f cs ih =>
      by_cases hnum : k = .number
      · subst hnum
        exact number f cs
      by_cases hstr : k = .stringLit
      · subst hstr
        exact string f cs
      by_cases hvar : k = .var
      · subst hvar
        exact var f cs
      by_cases hbin : ∃ op l r, arithOf k = some op ∧ cs = [l, r]
      · obtain ⟨op, l, r, hop, rfl⟩ := hbin
        exact binary k f op l r hop hnum hstr hvar (ih l (by simp)) (ih r (by simp))
      have hbin' : ∀ op l r, arithOf k = some op → cs = [l, r] → False :=
        fun op l r hop hcs => hbin ⟨op, l, r, hop, hcs⟩
      by_cases hneg : ∃ o, k = .neg ∧ cs = [o]
      · obtain ⟨o, rfl, rfl⟩ := hneg
        exact neg f o (ih o (by simp))
      by_cases hcall : k = .call
      · subst hcall
        exact call f cs hbin' (hlist cs ih)
      exact other k f cs hnum hstr hvar hcall (fun o hk hcs => hneg ⟨o, hk, hcs⟩) hbin'
  exact ⟨hnode, fun ns => hlist ns fun n _ => hnode n⟩

theorem expr_adds : (∀ n, Adds (expr n)) ∧ ∀ ns, Adds (exprs ns) := by
  refine expr_induction _ _ ?number ?string ?var ?binary ?neg ?call ?other ?nil ?cons
  case number => intro f cs; rw [expr]; exact .pure' _
  case string => intro f cs; rw [expr]; exact .pure' _
  case var => intro f cs; rw [expr]; exact .pure' _
  case binary =>
    intro k f op l r hop hnum hstr hvar ihl ihr
    rw [expr.eq_4 f k op l r hnum hstr hvar hop]
    refine ihl.bind fun l' => ihr.bind fun r' => ?_
    split
    · exact .pure' _
    · exact plusOp_adds l' r'
  case neg => intro f o ih; rw [expr]; exact ih.bind fun _ => .pure' _
  case call => intro f args _ ih; rw [expr]; exact ih.bind fun _ => .pure' _
  case other =>
    -- the hypotheses of the last equation are those of the induction, in an order of their own
    intro k f cs h₁ h₂ h₃ h₄ h₅ h₆
    rw [expr.eq_7 f k cs]
    · exact .throw' _
    all_goals assumption
  case nil => rw [exprs]; exact .pure' _
  case cons => intro e es ih ihs; rw [exprs]; exact ih.bind fun _ => ihs.bind fun _ => .pure' _

theorem textPart_adds (n : Node) : Adds (textPart n) := by
  unfold textPart
  split
  · exact .pure' _
  · dsimp only
    split
    · exact (numberText_adds _).bind fun _ => .pure' _
    · exact .pure' _
  · refine (expr_adds.1 _).bind fun e => ?_
    split
    · exact (numberText_adds _).bind fun _ => .pure' _
    · exact .pure' _
  · exact .throw' _

theorem encodeParts_adds (parts : List (Expr × Bool)) :
    ∀ group done, Adds (encodeParts parts group done) := by
  induction parts with
  | nil => exact fun _ _ => .pure' _
  | cons p rest ih =>
    obtain ⟨e, _ | _⟩ := p
    · exact fun group done => (encodeIfString_adds e).bind fun _ => ih _ _
    · exact fun group done => ih _ _

theorem textOfParts_adds (nodes : List Node) : Adds (textOfParts nodes) :=
  (Adds.mapM textPart_adds nodes).bind fun _ => (encodeParts_adds _ _ _).bind fun _ => .pure' _

theorem text_adds (root : Node) : Adds (text root) := by
  unfold text
  split
  · exact textOfParts_adds _
  · exact .throw' _

theorem failsType_adds (v : Datum) (t : Ty) : Adds (failsType v t) := by
  cases t
  case numberOrString =>
    exact (Adds.modify' (fun h => by simp [Helpers.union]) ⟨by simp, by simp⟩).bind fun _ => .pure' _
  case error => exact .throw' _
  all_goals exact .pure' _

theorem typeGuard_adds (v : Datum) (t : Ty) : Adds (typeGuard v t) :=
  (failsType_adds v t).bind fun _ => .pure' _

theorem typeGuards_adds (m : TypeMap) : Adds (typeGuards m) :=
  (Adds.mapM (fun _ => typeGuard_adds _ _) _).bind fun _ => .pure' _

theorem constrained?_adds (c : Node) : Adds (constrained? c) := by
  unfold constrained?
  split
  · exact .pure' _
  · exact .throw' _

theorem constraintTest_adds (c : Node) : Adds (constraintTest c) := by
  unfold constraintTest
  split
  case h_1 => exact .pure' _
  case h_4 => exact .throw' _
  -- an equality and an inequality are emitted alike
  all_goals
    refine (constrained?_adds c).bind fun x => ?_
    split
    · exact .pure' _
    · exact .throw' _

theorem nodesOf_adds (n : Node) : Adds (nodesOf n) := by
  unfold nodesOf
  split
  · exact .pure' _
  · exact .throw' _

theorem ruleStmt_adds (constraints : Node) (e : Expr) : Adds (ruleStmt constraints e) := by
  refine (nodesOf_adds _).bind fun cs => (Adds.filterMapM constraintTest_adds cs).bind fun ts => ?_
  split
  all_goals exact .pure' _

theorem rulePart_adds (rule : Node) (i : Nat) (part : String) : Adds (rulePart rule i part) := by
  unfold rulePart
  split
  · exact .pure' _
  · exact .throw' _

theorem ruleStmts_adds (rules : List Node) : Adds (ruleStmts rules) := by
  induction rules with
  | nil => exact .pure' _
  | cons rule rest ih =>
    exact (rulePart_adds _ _ _).bind fun _ => (text_adds _).bind fun _ =>
      (rulePart_adds _ _ _).bind fun _ => (ruleStmt_adds _ _).bind fun _ => ih.bind fun _ => .pure' _

theorem translation_adds (m : TypeMap) (name : String) (root : Node) :
    Adds (translation m name root) := by
  have hgeneral : Adds (simple.general m name root) :=
    (typeGuards_adds m).bind fun _ => (text_adds root).bind fun _ => .pure' _
  unfold translation
  split
  · unfold simple
    split
    · exact .pure' _
    · split
      · exact .pure' _
      · exact hgeneral
    · exact hgeneral
  · unfold constrained
    dsimp only
    -- a rule set without rules is refused; either way the guards come before the rules
    split
    · exact (Adds.throw' _).bind fun _ =>
        (typeGuards_adds m).bind fun _ => (ruleStmts_adds _).bind fun _ => .pure' _
    · exact (typeGuards_adds m).bind fun _ => (ruleStmts_adds _).bind fun _ => .pure' _
  · exact .throw' _

/-! ## The names emitted code reads -/

/-- The names emitted code reads besides the helpers: the parameters of emitted functions and of
the helpers, the scratch variable, the built-ins the code calls, and the name of the built-ins. -/
def fixedNames : List String :=
  [paramsName, fnsName, ctxName, scratchName, "value", "lhs", "rhs", "isinstance", "callable", "str",
    "int", "float", "bool", "TypeError", "ValueError", builtinsName]

end Emit

namespace Helpers

/-- The names that code emitted with the helpers of `h` may read: the fixed names and the helpers
that `h` records. -/
def Reads (h : Helpers) (x : String) : Prop :=
  x ∈ Emit.fixedNames ∨ (x = "number_text" ∧ h.numberText = true) ∨
    (x = "encode_if_string" ∧ h.encodeIfString = true) ∨ (x = "plus_op" ∧ h.plusOp = true)

/-- Names that code emitted with the helpers of `h` may read. -/
def Covers (h : Helpers) (xs : List String) : Prop := ∀ x ∈ xs, h.Reads x

@[simp] theorem covers_nil (h : Helpers) : h.Covers [] := List.forall_mem_nil _

@[simp] theorem covers_cons {h : Helpers} {x : String} {xs : List String} :
    h.Covers (x :: xs) ↔ h.Reads x ∧ h.Covers xs := List.forall_mem_cons

@[simp] theorem covers_append {h : Helpers} {xs ys : List String} :
    h.Covers (xs ++ ys) ↔ h.Covers xs ∧ h.Covers ys := List.forall_mem_append

theorem covers_bodyNames {h : Helpers} {ss : List Code.Stmt} :
    h.Covers (Code.bodyNames ss) ↔ ∀ s ∈ ss, h.Covers s.names := by
  induction ss with
  | nil => simp [Code.bodyNames]
  | cons s ss ih => simp [Code.bodyNames, ih]

theorem covers_namesOf {h : Helpers} {es : List Code.Expr} :
    h.Covers (Code.namesOf es) ↔ ∀ e ∈ es, h.Covers e.names := by
  induction es with
  | nil => simp [Code.namesOf]
  | cons e es ih => simp [Code.namesOf, ih]

theorem Reads.union_left {h : Helpers} {x : String} (hx : h.Reads x) (h' : Helpers) :
    (h.union h').Reads x := by
  simp only [Reads, union, Bool.or_eq_true] at hx ⊢
  tauto

theorem Reads.union_right {h' : Helpers} {x : String} (hx : h'.Reads x) (h : Helpers) :
    (h.union h').Reads x := by
  simp only [Reads, union, Bool.or_eq_true] at hx ⊢
  tauto

theorem Covers.union_left {h : Helpers} {xs : List String} (hc : h.Covers xs) (h' : Helpers) :
    (h.union h').Covers xs := fun x hx => (hc x hx).union_left h'

theorem Covers.union_right {h' : Helpers} {xs : List String} (hc : h'.Covers xs) (h : Helpers) :
    (h.union h').Covers xs := fun x hx => (hc x hx).union_right h

end Helpers

namespace EmitM.Adds

variable {α γ : Type} {x : EmitM α}

/-- What a record lets code read, it still does after a step that adds helpers. -/
theorem covers (hx : Adds x) {h h' : Helpers} {r : Except Failure α} (hrun : x.run' h = (r, h'))
    {xs : List String} (hc : h.Covers xs) : h'.Covers xs := by
  rw [hx.run'_eq h] at hrun
  cases hrun
  exact hc.union_left _

/-- Items emitted one after another each read what the record left at the end allows. -/
theorem mapM_covers {f : γ → EmitM α} {names : α → List String} (hadds : ∀ c, Adds (f c))
    (hf : ∀ c {h h' : Helpers} {a : α}, (f c).run' h = (.ok a, h') → h'.Covers (names a))
    {cs : List γ} {h h' : Helpers} {as : List α} (hrun : (cs.mapM f).run' h = (.ok as, h')) :
    ∀ a ∈ as, h'.Covers (names a) := by
  induction cs generalizing h as with
  | nil =>
    rw [List.mapM_nil, run'_pure] at hrun
    cases hrun
    exact List.forall_mem_nil _
  | cons c cs ih =>
    rw [List.mapM_cons] at hrun
    obtain ⟨a, h₁, ha, hrest⟩ := run'_bind_inv hrun
    obtain ⟨as', h₂, has, hlast⟩ := run'_bind_inv hrest
    rw [run'_pure] at hlast
    cases hlast
    intro a' ha'
    rcases List.mem_cons.1 ha' with rfl | ha'
    · exact (Adds.mapM hadds cs).covers has (hf c ha)
    · exact ih has a' ha'

/-- The items kept by a filtering emission each read what the record left at the end allows. -/
theorem filterMapM_covers {f : γ → EmitM (Option α)} {names : α → List String}
    (hadds : ∀ c, Adds (f c))
    (hf : ∀ c {h h' : Helpers} {a : α}, (f c).run' h = (.ok (some a), h') → h'.Covers (names a))
    {cs : List γ} {h h' : Helpers} {as : List α} (hrun : (cs.filterMapM f).run' h = (.ok as, h')) :
    ∀ a ∈ as, h'.Covers (names a) := by
  induction cs generalizing h as with
  | nil =>
    rw [List.filterMapM_nil, run'_pure] at hrun
    cases hrun
    exact List.forall_mem_nil _
  | cons c cs ih =>
    rw [List.filterMapM_cons] at hrun
    obtain ⟨o, h₁, ho, hrest⟩ := run'_bind_inv hrun
    cases o with
    | none => exact ih hrest
    | some a =>
      obtain ⟨as', h₂, has, hlast⟩ := run'_bind_inv hrest
      rw [run'_pure] at hlast
      cases hlast
      intro a' ha'
      rcases List.mem_cons.1 ha' with rfl | ha'
      · exact (Adds.filterMapM hadds cs).covers has (hf c ho)
      · exact ih has a' ha'

end EmitM.Adds

namespace Emitted

/-- The emitted translation under another name: a function renamed, a constant as it is. -/
def named : Emitted → String → Emitted
  | .constant v, _ => .constant v
  | .function _ body, name => .function name body

end Emitted

namespace Emit

open Code EmitM

theorem numberText_run' (e : Expr) (h : Helpers) :
    (numberText e).run' h = (.ok (Expr.callName "number_text" [e]), h.union { numberText := true }) :=
  (numberText_adds e).run'_eq h

theorem encodeIfString_run' (e : Expr) (h : Helpers) :
    (encodeIfString e).run' h = (.ok (Expr.callName "encode_if_string" [ctx, e]),
      h.union { encodeIfString := true, numberText := true }) :=
  (encodeIfString_adds e).run'_eq h

theorem plusOp_run' (l r : Expr) (h : Helpers) :
    (plusOp l r).run' h = (.ok (Expr.callName "plus_op" [ctx, l, r]),
      h.union { plusOp := true, encodeIfString := true, numberText := true }) :=
  (plusOp_adds l r).run'_eq h

theorem expr_reads :
    (∀ n {h h' : Helpers} {e : Expr}, (expr n).run' h = (.ok e, h') → h'.Covers e.names) ∧
      ∀ ns {h h' : Helpers} {es : List Expr}, (exprs ns).run' h = (.ok es, h') →
        h'.Covers (namesOf es) := by
  refine expr_induction _ _ ?number ?string ?var ?binary ?neg ?call ?other ?nil ?cons
  case number =>
    intro f cs h h' e hrun
    rw [expr.eq_1, run'_pure] at hrun
    cases hrun
    simp [Expr.names]
  case string =>
    intro f cs h h' e hrun
    rw [expr.eq_2, run'_pure] at hrun
    cases hrun
    simp [Expr.names]
  case var =>
    intro f cs h h' e hrun
    rw [expr.eq_3, run'_pure] at hrun
    cases hrun
    simp [Expr.names, paramLookup, keyOf, Helpers.Reads, fixedNames]
  case binary =>
    intro k f op l r hop hnum hstr hvar ihl ihr h h' e hrun
    rw [expr.eq_4 f k op l r hnum hstr hvar hop] at hrun
    obtain ⟨l', h₁, hl, hrest⟩ := run'_bind_inv hrun
    obtain ⟨r', h₂, hr, hlast⟩ := run'_bind_inv hrest
    have hl' : h₂.Covers l'.names := (expr_adds.1 r).covers hr (ihl hl)
    have hr' : h₂.Covers r'.names := ihr hr
    split at hlast
    · rw [run'_pure] at hlast
      cases hlast
      simp [Expr.names, hl', hr']
    · rw [plusOp_run'] at hlast
      cases hlast
      simp [Expr.names, Expr.callName, namesOf, ctx, hl'.union_left, hr'.union_left, Helpers.Reads,
        fixedNames]
  case neg =>
    intro f o ih h h' e hrun
    rw [expr.eq_5] at hrun
    obtain ⟨o', h₁, ho, hlast⟩ := run'_bind_inv hrun
    rw [run'_pure] at hlast
    cases hlast
    simpa [Expr.names] using ih ho
  case call =>
    intro f args _ ih h h' e hrun
    rw [expr.eq_6] at hrun
    obtain ⟨args', h₁, hargs, hlast⟩ := run'_bind_inv hrun
    rw [run'_pure] at hlast
    cases hlast
    simp [Expr.names, namesOf, keyOf, ctx, ih hargs, Helpers.Reads, fixedNames]
  case other =>
    intro k f cs h₁ h₂ h₃ h₄ h₅ h₆ h h' e hrun
    rw [expr.eq_7 f k cs] at hrun
    · rw [run'_throw] at hrun
      cases hrun
    all_goals assumption
  case nil =>
    intro h h' es hrun
    rw [exprs, run'_pure] at hrun
    cases hrun
    simp [namesOf]
  case cons =>
    intro e es ih ihs h h' es' hrun
    rw [exprs] at hrun
    obtain ⟨e', h₁, he, hrest⟩ := run'_bind_inv hrun
    obtain ⟨es'', h₂, hes, hlast⟩ := run'_bind_inv hrest
    rw [run'_pure] at hlast
    cases hlast
    simp [namesOf, (expr_adds.2 es).covers hes (ih he), ihs hes]

theorem textPart_reads {n : Node} {h h' : Helpers} {p : Expr × Bool}
    (hrun : (textPart n).run' h = (.ok p, h')) : h'.Covers p.1.names := by
  unfold textPart at hrun
  split at hrun
  · rw [run'_pure] at hrun
    cases hrun
    simp [Expr.names]
  · dsimp only at hrun
    split at hrun
    · obtain ⟨e, h₁, he, hlast⟩ := run'_bind_inv hrun
      rw [numberText_run'] at he
      cases he
      rw [run'_pure] at hlast
      cases hlast
      simp [Expr.names, Expr.callName, namesOf, paramLookup, keyOf, Helpers.Reads, fixedNames]
    · rw [run'_pure] at hrun
      cases hrun
      simp [Expr.names, paramLookup, keyOf, Helpers.Reads, fixedNames]
  · obtain ⟨e, h₁, he, hrest⟩ := run'_bind_inv hrun
    have hcov := expr_reads.1 _ he
    split at hrest
    · obtain ⟨e', h₂, he', hlast⟩ := run'_bind_inv hrest
      rw [numberText_run'] at he'
      cases he'
      rw [run'_pure] at hlast
      cases hlast
      simp [Expr.names, Expr.callName, namesOf, hcov.union_left, Helpers.Reads, fixedNames]
    · rw [run'_pure] at hrest
      cases hrest
      exact hcov
  · rw [run'_throw] at hrun
    cases hrun

theorem closeRun_names (group : Option Expr) :
    namesOf (closeRun group) = match group with
      | some g => ctxName :: g.names
      | none => [] := by
  cases group <;> simp [closeRun, namesOf, ctxMethod, Expr.method, Expr.names, ctx]

theorem encodeParts_reads {parts : List (Expr × Bool)} {group : Option Expr} {done r : List Expr}
    {h h' : Helpers} (hrun : (encodeParts parts group done).run' h = (.ok r, h'))
    (hparts : ∀ p ∈ parts, h.Covers p.1.names) (hgroup : ∀ g, group = some g → h.Covers g.names)
    (hdone : h.Covers (namesOf done)) : h'.Covers (namesOf r) := by
  have hclose : ∀ {h : Helpers} {group : Option Expr}, (∀ g, group = some g → h.Covers g.names) →
      h.Covers (namesOf (closeRun group)) := by
    intro h group hg
    cases group with
    | none => simp [closeRun, namesOf]
    | some g => simp [closeRun_names, hg g rfl, Helpers.Reads, fixedNames]
  induction parts generalizing group done h with
  | nil =>
    rw [encodeParts, run'_pure] at hrun
    cases hrun
    simp [hdone, hclose hgroup]
  | cons p rest ih =>
    obtain ⟨e, _ | _⟩ := p
    · -- a value on its own closes the run and is encoded by itself
      obtain ⟨enc, h₁, henc, hrest⟩ := run'_bind_inv hrun
      rw [encodeIfString_run'] at henc
      cases henc
      have he : h.Covers e.names := hparts _ List.mem_cons_self
      refine ih hrest (fun p hp => (hparts p (List.mem_cons_of_mem _ hp)).union_left _)
        (fun _ h => absurd h.symm (Option.some_ne_none _)) ?_
      simp [hdone.union_left, (hclose hgroup).union_left, Expr.callName, Expr.names, namesOf, ctx,
        he.union_left, Helpers.Reads, fixedNames]
    · -- literal text joins the run
      refine ih hrun (fun p hp => hparts p (List.mem_cons_of_mem _ hp)) ?_ hdone
      intro g hg
      cases hg
      have he : h.Covers e.names := hparts _ List.mem_cons_self
      cases group with
      | none => exact he
      | some g' => simp [Expr.names, hgroup g' rfl, he]

theorem textOfParts_reads {nodes : List Node} {h h' : Helpers} {e : Expr}
    (hrun : (textOfParts nodes).run' h = (.ok e, h')) : h'.Covers e.names := by
  obtain ⟨parts, h₁, hparts, hrest⟩ := run'_bind_inv hrun
  obtain ⟨encoded, h₂, hencoded, hlast⟩ := run'_bind_inv hrest
  have hcov : h₂.Covers (namesOf encoded) :=
    encodeParts_reads hencoded (Adds.mapM_covers textPart_adds (fun _ _ _ _ => textPart_reads) hparts)
      (fun _ h => absurd h.symm (Option.some_ne_none _)) (by simp [namesOf])
  rw [run'_pure] at hlast
  cases hlast
  cases encoded with
  | nil => simp [Expr.sum?, Expr.str, Expr.names]
  | cons x xs => simpa [Expr.sum?, names_foldl_add, namesOf] using hcov

theorem text_reads {root : Node} {h h' : Helpers} {e : Expr} (hrun : (text root).run' h = (.ok e, h')) :
    h'.Covers e.names := by
  unfold text at hrun
  split at hrun
  · exact textOfParts_reads hrun
  · rw [run'_throw] at hrun
    cases hrun

theorem failsType_reads {v : Datum} {t : Ty} {h h' : Helpers} {e : Expr}
    (hrun : (failsType v t).run' h = (.ok e, h')) : h'.Covers e.names := by
  cases t
  case numberOrString =>
    obtain ⟨_, h₁, hmod, hlast⟩ := run'_bind_inv hrun
    rw [run'_pure] at hlast
    cases hlast
    simp [isinstanceOf, Expr.callName, Expr.method, ctxMethod, paramGet, keyOf, ctx, Expr.names,
      namesOf, Helpers.Reads, fixedNames]
  case error =>
    rw [failsType, run'_throw] at hrun
    cases hrun
  all_goals
    rw [failsType, run'_pure] at hrun
    cases hrun
    simp [isinstanceOf, Expr.callName, Expr.method, ctxMethod, paramGet, keyOf, ctx, Expr.names,
      namesOf, Expr.str, Helpers.Reads, fixedNames]

theorem typeGuard_reads {v : Datum} {t : Ty} {h h' : Helpers} {s : Stmt}
    (hrun : (typeGuard v t).run' h = (.ok s, h')) : h'.Covers s.names := by
  obtain ⟨test, h₁, htest, hlast⟩ := run'_bind_inv hrun
  rw [run'_pure] at hlast
  cases hlast
  simp [Stmt.names, bodyNames, raiseTypeError, Expr.callName, Expr.names, namesOf, Expr.str,
    failsType_reads htest, Helpers.Reads, fixedNames]

theorem functionGuard_names (f : Datum) (h : Helpers) : h.Covers (functionGuard f).names := by
  simp [functionGuard, Stmt.names, bodyNames, raiseTypeError, Expr.callName, Expr.method, keyOf,
    Expr.names, namesOf, Expr.str, Helpers.Reads, fixedNames]

theorem typeGuards_reads {m : TypeMap} {h h' : Helpers} {gs : List Stmt}
    (hrun : (typeGuards m).run' h = (.ok gs, h')) : h'.Covers (bodyNames gs) := by
  obtain ⟨vgs, h₁, hvgs, hlast⟩ := run'_bind_inv hrun
  rw [run'_pure] at hlast
  cases hlast
  rw [Helpers.covers_bodyNames]
  intro s hs
  rcases List.mem_append.1 hs with hs | hs
  · exact Adds.mapM_covers (fun _ => typeGuard_adds _ _) (fun _ _ _ _ => typeGuard_reads) hvgs s hs
  · obtain ⟨f, -, rfl⟩ := List.mem_map.1 hs
    exact functionGuard_names f _

theorem constraintTest_reads {c : Node} {h h' : Helpers} {t : Expr}
    (hrun : (constraintTest c).run' h = (.ok (some t), h')) : h'.Covers t.names := by
  unfold constraintTest at hrun
  split at hrun
  case h_1 =>
    rw [run'_pure] at hrun
    cases hrun
  case h_4 =>
    rw [run'_throw] at hrun
    cases hrun
  -- an equality and an inequality are emitted alike
  all_goals
    obtain ⟨x, h₁, hx, hlast⟩ := run'_bind_inv hrun
    split at hlast
    · rw [run'_pure] at hlast
      cases hlast
      simp [paramLookup, keyOf, Expr.names, Helpers.Reads, fixedNames]
    · rw [run'_throw] at hlast
      cases hlast

theorem ruleStmt_reads {constraints : Node} {e : Expr} {h h' : Helpers} {s : Stmt}
    (hrun : (ruleStmt constraints e).run' h = (.ok s, h')) (he : h.Covers e.names) :
    h'.Covers s.names := by
  obtain ⟨cs, h₁, hcs, hrest⟩ := run'_bind_inv hrun
  obtain ⟨tests, h₂, htests, hlast⟩ := run'_bind_inv hrest
  have he₂ : h₂.Covers e.names :=
    (Adds.filterMapM constraintTest_adds cs).covers htests ((nodesOf_adds _).covers hcs he)
  have hts : ∀ t ∈ tests, h₂.Covers t.names :=
    Adds.filterMapM_covers constraintTest_adds (fun _ _ _ _ => constraintTest_reads) htests
  split at hlast
  all_goals
    rw [run'_pure] at hlast
    cases hlast
  · simp [Stmt.names, he₂]
  · simp [Stmt.names, bodyNames, he₂, hts _ List.mem_cons_self]
  · simp [Stmt.names, bodyNames, Expr.names, he₂, Helpers.covers_namesOf.2 hts]

theorem ruleStmts_reads {rules : List Node} {h h' : Helpers} {r : List Stmt × Bool}
    (hrun : (ruleStmts rules).run' h = (.ok r, h')) : h'.Covers (bodyNames r.1) := by
  induction rules generalizing h r with
  | nil =>
    rw [ruleStmts, run'_pure] at hrun
    cases hrun
    simp [bodyNames]
  | cons rule rest ih =>
    rw [ruleStmts] at hrun
    obtain ⟨tr, h₁, htr, hrun⟩ := run'_bind_inv hrun
    obtain ⟨e, h₂, he, hrun⟩ := run'_bind_inv hrun
    obtain ⟨cs, h₃, hcs, hrun⟩ := run'_bind_inv hrun
    obtain ⟨s, h₄, hs, hrun⟩ := run'_bind_inv hrun
    obtain ⟨⟨ss, returned⟩, h₅, hss, hlast⟩ := run'_bind_inv hrun
    have hs' : h₄.Covers s.names := ruleStmt_reads hs ((rulePart_adds _ _ _).covers hcs (text_reads he))
    rw [run'_pure] at hlast
    cases hlast
    simp [bodyNames, (ruleStmts_adds rest).covers hss hs', ih hss]

/-- The body of an emitted function reads only what the record of helpers it leaves allows. -/
theorem translation_reads {m : TypeMap} {name f : String} {root : Node} {h h' : Helpers}
    {body : List Stmt} (hrun : (translation m name root).run' h = (.ok (.function f body), h')) :
    h'.Covers (bodyNames body) := by
  have hgeneral : (simple.general m name root).run' h = (.ok (.function f body), h') →
      h'.Covers (bodyNames body) := by
    intro hg
    obtain ⟨gs, h₁, hgs, hrest⟩ := run'_bind_inv hg
    obtain ⟨e, h₂, he, hlast⟩ := run'_bind_inv hrest
    have hgs' : h₂.Covers (bodyNames gs) := (text_adds root).covers he (typeGuards_reads hgs)
    rw [run'_pure] at hlast
    cases hlast
    simp [bodyNames, Stmt.names, hgs', text_reads he]
  unfold translation at hrun
  split at hrun
  · unfold simple at hrun
    split at hrun
    · rw [run'_pure] at hrun
      cases hrun
    · split at hrun
      · rw [run'_pure] at hrun
        cases hrun
      · exact hgeneral hrun
    · exact hgeneral hrun
  · unfold constrained at hrun
    dsimp only at hrun
    split at hrun
    · -- a rule set without rules is refused
      obtain ⟨_, _, hthrow, -⟩ := run'_bind_inv hrun
      rw [run'_throw] at hthrow
      cases hthrow
    · obtain ⟨gs, h₁, hgs, hrest⟩ := run'_bind_inv hrun
      obtain ⟨⟨stmts, returned⟩, h₂, hstmts, hlast⟩ := run'_bind_inv hrest
      have hgs' : h₂.Covers (bodyNames gs) := (ruleStmts_adds _).covers hstmts (typeGuards_reads hgs)
      rw [run'_pure] at hlast
      cases hlast
      have hno : h'.Covers (bodyNames (if returned then [] else [noMatch])) := by
        split
        · simp [bodyNames]
        · simp [bodyNames, noMatch, Stmt.names, Expr.callName, Expr.names, namesOf, Expr.str,
            Helpers.Reads, fixedNames]
      simp [hgs', ruleStmts_reads hstmts, hno]
  · rw [run'_throw] at hrun
    cases hrun

/-- The name of an emitted function is the only thing its name changes. -/
theorem translation_named (m : TypeMap) (name name' : String) (root : Node) :
    translation m name root = (·.named name) <$> translation m name' root := by
  unfold translation
  split
  · unfold simple
    split
    · simp [Emitted.named]
    · split
      · simp [Emitted.named]
      · simp [simple.general, Emitted.named]
    · simp [simple.general, Emitted.named]
  · unfold constrained
    dsimp only
    split
    · simp
    · simp [Emitted.named]
  · simp

end Emit

end Lingo
