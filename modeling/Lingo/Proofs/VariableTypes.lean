import Lingo.Proofs.ConflictFree
import Lingo.Proofs.SharedInference
import Lingo.Proofs.SymbolCheck

/-!
# Typing gives variables the types inference found

Inference records the uses of each variable and joins them into its type; typing then rebuilds the
tree bottom-up from the frozen map. The two are different recursions over the tree, and they
agree. Typing gives every variable in an expression its map type as an expression sees it and
every bare `$x` its map type (`Node.VarsTyped`), and when the map fits the uses, every variable
an operator reads has a type the operator takes (`Node.OperandsFit`). So no mismatch typing
reports names a variable: a misused operand is a string literal, a call or a mixed `+`.

`TypeMap.typing_agrees_with_inference` puts this together for a map a caller filled and
inference left without conflicts.
-/

namespace Lingo

namespace Node

/-- Every variable that typing reaches in `r` carries the type `τ` gives its name: a variable in an
expression as an expression sees it (`Ty.narrow`), a bare `$x` as it is. Typing leaves constraint
lists, the constraint list of a rule and the children of variables and literals as they are. -/
inductive VarsTyped (τ : Datum → Option Ty) : Node → Prop
  | var {f : Fields} {cs : List Node} (hty : f.ty = (τ f.name).map Ty.narrow) :
      VarsTyped τ (.mk .var f cs)
  | textVar {f : Fields} {cs : List Node} (hty : f.ty = τ f.name) : VarsTyped τ (.mk .textVar f cs)
  | kept {k : Kind} {f : Fields} {cs : List Node}
      (hk : k ∈ [.constraintRoot, .literal, .number, .stringLit]) : VarsTyped τ (.mk k f cs)
  | rule {f : Fields} {c t : Node} (ht : VarsTyped τ t) : VarsTyped τ (.mk .rule f [c, t])
  | node {k : Kind} {f : Fields} {cs : List Node}
      (hk : k ∉ [.var, .textVar, .constraintRoot, .literal, .number, .stringLit])
      (hcs : ∀ c ∈ cs, VarsTyped τ c) : VarsTyped τ (.mk k f cs)

/-- Every variable that an operator of `n` reads has a type under `τ` that the operator takes: a
number under unary minus, `-`, `*` and `/`, and under `+` a type that an expression sees as a
number, a string or either. -/
inductive OperandsFit (τ : Datum → Option Ty) : Node → Prop
  | mk {k : Kind} {f : Fields} {cs : List Node}
      (hnum : k ∈ [.neg, .sub, .mul, .div] → ∀ c ∈ cs, c.kind = .var →
        τ c.fields.name = some .number)
      (hplus : k = .add → ∀ c ∈ cs, c.kind = .var →
        ∃ ty, τ c.fields.name = some ty ∧ ty.narrow.isPlusOperand = true)
      (hcs : ∀ c ∈ cs, OperandsFit τ c) : OperandsFit τ (.mk k f cs)

/-- What typing keeps of a node `n` in its typed form `r`: the kind and the name of a variable,
with every variable of `r` typed by `τ` and fitting the operators that read it. -/
structure TypedVars (τ : Datum → Option Ty) (n r : Node) : Prop where
  kind : r.kind = n.kind
  name : n.kind = .var → r.fields.name = n.fields.name
  varsTyped : r.VarsTyped τ
  operandsFit : r.OperandsFit τ

section Transfer

variable {τ : Datum → Option Ty}

theorem OperandsFit.children {k : Kind} {f : Fields} {cs : List Node}
    (h : (Node.mk k f cs).OperandsFit τ) : ∀ c ∈ cs, c.OperandsFit τ := by
  cases h
  assumption

theorem OperandsFit.leaf {k : Kind} {f : Fields} : (Node.mk k f []).OperandsFit τ :=
  .mk (fun _ _ hc => nomatch hc) (fun _ _ hc => nomatch hc) (fun _ hc => nomatch hc)

/-- A key names the variables its nodes read: two nodes of a key, the second plain, read
variables of the same names in the same places. -/
theorem name_of_sameKey {k : Kind} {a b : Node} (h : sameKey true a b = true) (hb : b.Plain)
    (hk : b.kind = k) (hname : k.has .name) : a.fields.name = b.fields.name := by
  obtain ⟨kb, fb, csb⟩ := b
  obtain ⟨f', cs', rfl, hf, -⟩ := sameKey_mk_right h
  cases hb with
  | mk _ hplain _ =>
    subst hk
    obtain ⟨s, hs⟩ := hplain hname
    have hagree := hf .name (List.elem_iff.1 hname)
    simp only [Fields.agreeOn, hs, Datum.agree_str_right] at hagree
    simp [hagree, hs, fields]

/-- Both typed and source forms carry the variables typing reached: the variables of a node and of
a node of its key carry the same types. -/
theorem VarsTyped.of_sameKey {a b : Node} (h : sameKey true a b = true) (hb : b.Plain)
    (ha : a.VarsTyped τ) : b.VarsTyped τ := by
  induction ha generalizing b with
  | @var f cs hty =>
    obtain ⟨kb, fb, csb⟩ := b
    obtain ⟨rfl, hf, -⟩ := (sameKey_mk true _ _ _ _ _ _).1 h
    have hname : f.name = fb.name := name_of_sameKey (k := .var) h hb rfl rfl
    have hty' := hf .ty (by decide)
    simp only [Fields.agreeOn, beq_iff_eq] at hty'
    exact .var (by rw [← hty', ← hname]; exact hty)
  | @textVar f cs hty =>
    obtain ⟨kb, fb, csb⟩ := b
    obtain ⟨rfl, hf, -⟩ := (sameKey_mk true _ _ _ _ _ _).1 h
    have hname : f.name = fb.name := name_of_sameKey (k := .textVar) h hb rfl rfl
    have hty' := hf .ty (by decide)
    simp only [Fields.agreeOn, beq_iff_eq] at hty'
    exact .textVar (by rw [← hty', ← hname]; exact hty)
  | kept hk =>
    obtain ⟨kb, fb, csb⟩ := b
    obtain ⟨rfl, -, -⟩ := (sameKey_mk true _ _ _ _ _ _).1 h
    exact .kept hk
  | rule _ ih =>
    obtain ⟨kb, fb, csb⟩ := b
    obtain ⟨rfl, -, hcs⟩ := (sameKey_mk true _ _ _ _ _ _).1 h
    obtain ⟨c', t', rfl⟩ : ∃ c' t', csb = [c', t'] := by
      rcases hcs with _ | ⟨_, _ | ⟨_, hnil⟩⟩
      cases hnil
      exact ⟨_, _, rfl⟩
    exact .rule (ih (List.forall₂_cons.1 (List.forall₂_cons.1 hcs).2).1
      (hb.children _ (by simp)))
  | node hk _ ih =>
    obtain ⟨kb, fb, csb⟩ := b
    obtain ⟨rfl, -, hcs⟩ := (sameKey_mk true _ _ _ _ _ _).1 h
    refine .node hk fun c' hc' => ?_
    obtain ⟨c, hc, hkey⟩ := exists_of_forall₂_left hcs.flip hc'
    exact ih c hc hkey (hb.children c' hc')

theorem kind_of_sameKey {a b : Node} (h : sameKey true a b = true) : a.kind = b.kind := by
  obtain ⟨ka, fa, csa⟩ := a
  obtain ⟨kb, fb, csb⟩ := b
  exact ((sameKey_mk true _ _ _ _ _ _).1 h).1

theorem OperandsFit.of_sameKey {a b : Node} (h : sameKey true a b = true) (hb : b.Plain)
    (ha : a.OperandsFit τ) : b.OperandsFit τ := by
  induction ha generalizing b with
  | @mk k f cs hnum hplus _ ih =>
    obtain ⟨kb, fb, csb⟩ := b
    obtain ⟨rfl, -, hcs⟩ := (sameKey_mk true _ _ _ _ _ _).1 h
    -- each child of `b` has a child of `a` of its key, which reads the same variable
    have hname : ∀ c' ∈ csb, c'.kind = .var →
        ∃ c ∈ cs, c.kind = .var ∧ c.fields.name = c'.fields.name := by
      intro c' hc' hv
      obtain ⟨c, hc, hkey⟩ := exists_of_forall₂_left hcs.flip hc'
      exact ⟨c, hc, (kind_of_sameKey hkey).trans hv,
        name_of_sameKey (k := .var) hkey (hb.children c' hc') hv rfl⟩
    refine .mk (fun hk c' hc' hv => ?_) (fun hk c' hc' hv => ?_) (fun c' hc' => ?_)
    · obtain ⟨c, hc, hcv, hcn⟩ := hname c' hc' hv
      rw [← hcn]
      exact hnum hk c hc hcv
    · obtain ⟨c, hc, hcv, hcn⟩ := hname c' hc' hv
      rw [← hcn]
      exact hplus hk c hc hcv
    · obtain ⟨c, hc, hkey⟩ := exists_of_forall₂_left hcs.flip hc'
      exact ih c hc hkey (hb.children c' hc')

/-- The fields of a node are not read by the fit of its operands. -/
theorem OperandsFit.retype_fields {k : Kind} {f : Fields} {cs : List Node} (f' : Fields)
    (h : (Node.mk k f cs).OperandsFit τ) : (Node.mk k f' cs).OperandsFit τ := by
  cases h with
  | mk hnum hplus hcs => exact .mk hnum hplus hcs

/-- Typed children keep the fit of the operands of their parent. -/
theorem OperandsFit.retype {k : Kind} {f f' : Fields} {cs cs' : List Node}
    (h : (Node.mk k f cs).OperandsFit τ) (hcs : List.Forall₂ (fun r c => TypedVars τ c r) cs' cs) :
    (Node.mk k f' cs').OperandsFit τ := by
  cases h with
  | mk hnum hplus _ =>
    have hname : ∀ c' ∈ cs', c'.kind = .var →
        ∃ c ∈ cs, c.kind = .var ∧ c'.fields.name = c.fields.name := by
      intro c' hc' hv
      obtain ⟨c, hc, hcr⟩ := exists_of_forall₂_left hcs hc'
      have hcv : c.kind = .var := hcr.kind.symm.trans hv
      exact ⟨c, hc, hcv, hcr.name hcv⟩
    refine .mk (fun hk c' hc' hv => ?_) (fun hk c' hc' hv => ?_) (fun c' hc' => ?_)
    · obtain ⟨c, hc, hcv, hcn⟩ := hname c' hc' hv
      rw [hcn]
      exact hnum hk c hc hcv
    · obtain ⟨c, hc, hcv, hcn⟩ := hname c' hc' hv
      rw [hcn]
      exact hplus hk c hc hcv
    · obtain ⟨c, -, hcr⟩ := exists_of_forall₂_left hcs hc'
      exact hcr.operandsFit

namespace TypedVars

theorem of_sameKey {a n r : Node} (h : TypedVars τ a r) (hkey : sameKey true a n = true)
    (hn : n.Plain) : TypedVars τ n r where
  kind := h.kind.trans (kind_of_sameKey hkey)
  name hv := (h.name ((kind_of_sameKey hkey).trans hv)).trans
    (name_of_sameKey (k := .var) hkey hn hv rfl)
  varsTyped := h.varsTyped
  operandsFit := h.operandsFit

/-- A plain node of the key of one of its typed forms is a typed form of itself. -/
theorem self {n a : Node} (h : TypedVars τ n a) (hkey : sameKey true a n = true) (hn : n.Plain) :
    TypedVars τ n n :=
  ⟨rfl, fun _ => rfl, h.varsTyped.of_sameKey hkey hn, h.operandsFit.of_sameKey hkey hn⟩

theorem settle {n r : Node} (h : TypedVars τ n r) (hn : n.Plain) : TypedVars τ n (settle n r) := by
  unfold Lingo.settle
  split
  · next hkey => exact h.self hkey hn
  · exact h

theorem rebuild {k : Kind} {f f' : Fields} {cs cs' : List Node} {r : Node}
    (hr : (Node.mk k f cs).rebuild cs' f' = .ok r) (hn : (Node.mk k f cs).Plain)
    (h : TypedVars τ (.mk k f cs) (.mk k f' cs')) : TypedVars τ (.mk k f cs) r := by
  rcases Node.rebuild_cases hr with ⟨rfl, hkey⟩ | rfl
  · exact h.self hkey hn
  · exact h

/-- A node that typing descends into, rebuilt from typed children. -/
theorem descend {k : Kind} {f f' : Fields} {cs cs' : List Node}
    (hk : k ∉ [.var, .textVar, .constraintRoot, .literal, .number, .stringLit])
    (hfit : (Node.mk k f cs).OperandsFit τ) (hcs : List.Forall₂ (fun r c => TypedVars τ c r) cs' cs) :
    TypedVars τ (.mk k f cs) (.mk k f' cs') where
  kind := rfl
  name hv := absurd (show k = .var from hv) fun h => hk (by simp [h])
  varsTyped := .node hk fun c' hc' => by
    obtain ⟨c, -, hc⟩ := exists_of_forall₂_left hcs hc'
    exact hc.varsTyped
  operandsFit := hfit.retype hcs

/-- A node whose children typing leaves as they are. -/
theorem kept {k : Kind} {f g : Fields} {cs : List Node}
    (hk : k ∈ [.constraintRoot, .literal, .number, .stringLit]) (hfit : (Node.mk k f cs).OperandsFit τ) :
    TypedVars τ (.mk k f cs) (.mk k g cs) where
  kind := rfl
  name hv := absurd hk (by simp [show k = .var from hv])
  varsTyped := .kept hk
  operandsFit := hfit.retype_fields g

/-- A variable that typing made an operand carries its map type as an expression sees it. -/
theorem ty_of_var {o o' : Node} (h : TypedVars τ o o') (hv : o'.kind = .var) :
    o'.fields.ty = (τ o.fields.name).map Ty.narrow := by
  have hname := h.name (h.kind.symm.trans hv)
  obtain ⟨k', f', cs'⟩ := o'
  cases h.varsTyped with
  | var hty => rw [← hname]; exact hty
  | textVar => cases hv
  | kept hk => simp [show k' = .var from hv] at hk
  | rule => cases hv
  | node hk => simp [show k' = .var from hv] at hk

/-- A variable operand of unary minus, `-`, `*` or `/` is typed a number. -/
theorem number_of_var {k : Kind} {f : Fields} {cs : List Node} {o o' : Node}
    (hfit : (Node.mk k f cs).OperandsFit τ) (hk : k ∈ [.neg, .sub, .mul, .div]) (ho : o ∈ cs)
    (h : TypedVars τ o o') (hv : o'.kind = .var) : o'.fields.ty = some .number := by
  cases hfit with
  | mk hnum _ _ =>
    rw [h.ty_of_var hv, hnum hk o ho (h.kind.symm.trans hv)]
    rfl

/-- A variable operand of `+` is typed a number, a string or either. -/
theorem plusOperand_of_var {f : Fields} {cs : List Node} {o o' : Node}
    (hfit : (Node.mk .add f cs).OperandsFit τ) (ho : o ∈ cs) (h : TypedVars τ o o')
    (hv : o'.kind = .var) : (o'.fields.ty.map Ty.isPlusOperand).getD false = true := by
  cases hfit with
  | mk _ hplus _ =>
    obtain ⟨ty, hty, hplus'⟩ := hplus rfl o ho (h.kind.symm.trans hv)
    rw [h.ty_of_var hv, hty]
    exact hplus'

end TypedVars

end Transfer

section Uses

/-! ## Operands fit a map that fits the uses -/

variable {m : TypeMap} {us : List (Datum × Ty)} {g : Datum → Option (List Ty)}

theorem uses_sub_usesAll {c : Node} {cs : List Node} (hc : c ∈ cs) (ctx : Option Ty) :
    ∀ p ∈ c.uses g ctx, p ∈ Node.usesAll g ctx cs := fun p hp => by
  rw [usesAll_eq_flatMap]
  exact List.mem_flatMap.2 ⟨c, hc, hp⟩

theorem uses_sub_usesArgs {c : Node} {cs : List Node} (hc : c ∈ cs) (types : Option (List Ty))
    (i : Nat) : ∃ ctx, ∀ p ∈ c.uses g ctx, p ∈ Node.usesArgs g types i cs := by
  induction cs generalizing i with
  | nil => cases hc
  | cons d rest ih =>
    rcases List.mem_cons.1 hc with rfl | hc
    · exact ⟨_, fun p hp => List.mem_append_left _ hp⟩
    · obtain ⟨ctx, h⟩ := ih hc (i + 1)
      exact ⟨ctx, fun p hp => List.mem_append_right _ (h p hp)⟩

/-- An operand of an operator records its uses where a number is asked, or, under `+`, where a
number or a string is. -/
theorem operand_uses {k : Kind} {f : Fields} {cs : List Node} {c : Node}
    (hk : k ∈ [.neg, .add, .sub, .mul, .div]) (hc : c ∈ cs) (ctx : Option Ty) :
    ∃ ctx', (ctx' = some .number ∨ k = .add ∧ ctx' = some .numberOrString) ∧
      ∀ p ∈ c.uses g ctx', p ∈ (Node.mk k f cs).uses g ctx := by
  simp only [List.mem_cons, List.not_mem_nil, or_false] at hk
  rcases hk with rfl | rfl | rfl | rfl | rfl
  case inr.inl =>
    by_cases hn : ctx = some .number
    · refine ⟨some .number, .inl rfl, fun p hp => ?_⟩
      simp only [Node.uses, hn, if_true]
      exact uses_sub_usesAll hc _ p hp
    · refine ⟨some .numberOrString, .inr ⟨rfl, rfl⟩, fun p hp => ?_⟩
      simp only [Node.uses, hn, if_false]
      exact uses_sub_usesAll hc _ p hp
  all_goals
    refine ⟨some .number, .inl rfl, fun p hp => ?_⟩
    simp only [Node.uses]
    exact uses_sub_usesAll hc _ p hp

/-- A variable of an expression records one use, of the type its place asks for. -/
theorem IsExpr.var_use {c : Node} (hc : c.IsExpr) (hv : c.kind = .var) :
    ∃ s, c.fields.name = .str s ∧ ∀ ctx, c.uses g ctx = [(.str s, ctx.getD .unknown)] := by
  cases hc with
  | var hx => exact ⟨_, hx, fun ctx => by simp [Node.uses, hx]⟩
  | @binary k _ _ _ hk =>
    simp only [kind] at hv
    subst hv
    simp [Kind.isBinary] at hk
  | _ => cases hv

/-- An operator whose operands are expressions that fit the map fits it, when the map fits the
uses it records. -/
theorem operandsFit_operator (hfit : m.FitsUses us) {k : Kind} {f : Fields} {cs : List Node}
    (hk : k ∈ [.neg, .add, .sub, .mul, .div]) (hcs : ∀ c ∈ cs, c.IsExpr)
    (ih : ∀ c ∈ cs, ∀ ctx, (∀ p ∈ c.uses g ctx, p ∈ us) → c.OperandsFit m.typeOf?)
    {ctx : Option Ty} (hsub : ∀ p ∈ (Node.mk k f cs).uses g ctx, p ∈ us) :
    (Node.mk k f cs).OperandsFit m.typeOf? := by
  refine .mk (fun hnum c hc hv => ?_) (fun hadd c hc hv => ?_) (fun c hc => ?_)
  · obtain ⟨ctx', hctx', hsub'⟩ := operand_uses (g := g) (f := f) hk hc ctx
    obtain ⟨s, hs, huses⟩ := (hcs c hc).var_use (g := g) hv
    rcases hctx' with rfl | ⟨rfl, -⟩
    · rw [hs]
      exact hfit.number s (hsub _ (hsub' _ (by simp [huses])))
    · simp at hnum
  · obtain ⟨ctx', hctx', hsub'⟩ := operand_uses (g := g) (f := f) hk hc ctx
    obtain ⟨s, hs, huses⟩ := (hcs c hc).var_use (g := g) hv
    rw [hs]
    rcases hctx' with rfl | ⟨-, rfl⟩
    · exact ⟨.number, hfit.number s (hsub _ (hsub' _ (by simp [huses]))), rfl⟩
    · exact hfit.numberOrString s (hsub _ (hsub' _ (by simp [huses])))
  · obtain ⟨ctx', -, hsub'⟩ := operand_uses (g := g) (f := f) hk hc ctx
    exact ih c hc ctx' fun p hp => hsub p (hsub' p hp)

theorem IsExpr.operandsFit (hfit : m.FitsUses us) {e : Node} (he : e.IsExpr) :
    ∀ ctx, (∀ p ∈ e.uses g ctx, p ∈ us) → e.OperandsFit m.typeOf? := by
  induction he with
  | number | stringLit | var => exact fun _ _ => OperandsFit.leaf
  | @neg f e he ih =>
    refine fun ctx hsub => operandsFit_operator hfit (by decide) (fun c hc => ?_) (fun c hc => ?_) hsub
    · rw [List.mem_singleton.1 hc]
      exact he
    · rw [List.mem_singleton.1 hc]
      exact ih
  | @binary k f l r hk hl hr ihl ihr =>
    have hop : k ∈ [.neg, .add, .sub, .mul, .div] := by
      rcases Kind.isBinary_cases hk with rfl | rfl | rfl | rfl <;> decide
    refine fun ctx hsub => operandsFit_operator hfit hop (fun c hc => ?_) (fun c hc => ?_) hsub
    · rcases List.mem_pair.1 hc with rfl | rfl
      · exact hl
      · exact hr
    · rcases List.mem_pair.1 hc with rfl | rfl
      · exact ihl
      · exact ihr
  | @call f x args hx hargs ih =>
    intro ctx hsub
    refine .mk (fun h => absurd h (by decide)) (fun h => absurd h (by decide)) fun a ha => ?_
    obtain ⟨ctx', hsub'⟩ := uses_sub_usesArgs (g := g) ha (g f.name) 0
    exact ih a ha ctx' fun p hp => hsub p (by simp only [Node.uses]; exact hsub' p hp)

theorem IsText.operandsFit (hfit : m.FitsUses us) {t : Node} (ht : t.IsText) (ctx : Option Ty)
    (hsub : ∀ p ∈ t.uses g ctx, p ∈ us) : t.OperandsFit m.typeOf? := by
  cases ht with
  | literal => exact OperandsFit.leaf
  | textVar => exact OperandsFit.leaf
  | textExpr he =>
    refine .mk (fun h => absurd h (by decide)) (fun h => absurd h (by decide)) fun c hc => ?_
    rw [List.mem_singleton.1 hc]
    refine he.operandsFit (g := g) hfit none fun p hp => hsub p ?_
    simp only [Node.uses]
    exact uses_sub_usesAll (List.mem_singleton_self _) _ p hp

/-- A constraint reads its variable outside any expression: it has no operator. -/
theorem IsConstraint.operandsFit {τ : Datum → Option Ty} {c : Node} (hc : c.IsConstraint) :
    c.OperandsFit τ := by
  have hvalue : ∀ {v : Node}, v.IsValue → v.OperandsFit τ := by
    intro v hv
    cases hv <;> exact OperandsFit.leaf
  have hident : ∀ {x : Node}, x.IsIdent → x.OperandsFit τ := by
    rintro x ⟨f, s, rfl, -⟩
    exact OperandsFit.leaf
  cases hc with
  | ignore hx =>
    exact .mk (fun h => absurd h (by decide)) (fun h => absurd h (by decide)) (by simpa using hident hx)
  | equality _ _ hx hv =>
    exact .mk (fun h => absurd h (by decide)) (fun h => absurd h (by decide))
      (by simpa using ⟨hident hx, hvalue hv⟩)
  | inequality _ _ hx hv =>
    subst hv
    exact .mk (fun h => absurd h (by decide)) (fun h => absurd h (by decide))
      (by simpa using ⟨hident hx, OperandsFit.leaf⟩)

theorem IsRule.operandsFit (hfit : m.FitsUses us) {r : Node} (hr : r.IsRule) (ctx : Option Ty)
    (hsub : ∀ p ∈ r.uses g ctx, p ∈ us) : r.OperandsFit m.typeOf? := by
  cases hr with
  | @mk f cf tf cs ts hcs hts =>
    have hconstraints : (Node.mk .constraintRoot cf cs).OperandsFit m.typeOf? :=
      .mk (fun h => absurd h (by decide)) (fun h => absurd h (by decide))
        fun c hc => (hcs c hc).operandsFit
    have htext : (Node.mk .textRoot tf ts).OperandsFit m.typeOf? := by
      refine .mk (fun h => absurd h (by decide)) (fun h => absurd h (by decide)) fun t ht => ?_
      refine (hts t ht).operandsFit (g := g) hfit ctx fun p hp => hsub p ?_
      simp only [Node.uses, Node.usesAll]
      exact List.mem_append_right _ (List.mem_append_left _ (uses_sub_usesAll ht _ p hp))
    exact .mk (fun h => absurd h (by decide)) (fun h => absurd h (by decide))
      (by simpa using ⟨hconstraints, htext⟩)

/-- Every operator of a well-formed translation reads variables of types it takes, in a map that
fits the uses of the translation. -/
theorem IsTranslation.operandsFit {t : Node} (hfit : m.FitsUses (t.uses g none))
    (ht : t.IsTranslation) : t.OperandsFit m.typeOf? := by
  cases ht with
  | text hts =>
    refine .mk (fun h => absurd h (by decide)) (fun h => absurd h (by decide)) fun c hc => ?_
    refine (hts c hc).operandsFit (g := g) hfit none fun p hp => ?_
    simp only [Node.uses]
    exact uses_sub_usesAll hc _ p hp
  | rules _ hrs =>
    refine .mk (fun h => absurd h (by decide)) (fun h => absurd h (by decide)) fun r hr => ?_
    refine (hrs r hr).operandsFit (g := g) hfit none fun p hp => ?_
    simp only [Node.uses]
    exact uses_sub_usesAll hr _ p hp

end Uses

end Node

namespace Typing

section TypedVariables

variable {m : TypeMap} {τ : Datum → Option Ty}

/-- The state of a typing walk that types variables from `τ`: every remembered result is a typed
form of its node, and no recorded mismatch names a variable. -/
def Clean (τ : Datum → Option Ty) (st : TypingState) : Prop :=
  st.memo.All (Node.TypedVars τ) ∧ ∀ e ∈ st.errors, e.var = .none

theorem isNumber_spec {P : TypingState → Prop} {n : Node} :
    Keeps P (isNumber n) (fun b => n.fields.ty = some .number → b = true) := by
  unfold isNumber
  refine Keeps.bind check_keeps fun t ht => Keeps.pure' fun hn => ?_
  unfold tyOf at ht
  split at ht
  · cases ht
    simp [hn]
  · cases ht

theorem isPlusOperand_spec {P : TypingState → Prop} {n : Node} :
    Keeps P (isPlusOperand n)
      (fun b => (n.fields.ty.map Ty.isPlusOperand).getD false = true → b = true) := by
  unfold isPlusOperand
  refine Keeps.bind check_keeps fun t ht => Keeps.pure' fun hn => ?_
  unfold tyOf at ht
  split at ht
  · cases ht
    exact hn
  · cases ht

/-- A mismatch reported at an operand that is no variable names no variable. -/
theorem report_clean {ts : List Ty} {o : Node} (ho : o.kind ≠ .var) :
    Keeps (Clean τ) (report ts o) (fun _ => True) := by
  unfold report
  refine Keeps.bind check_keeps fun _ _ => ?_
  dsimp only
  split
  · exact Keeps.pure' trivial
  · refine Keeps.get_bind fun st hst => Keeps.set' ⟨hst.1, fun e he => ?_⟩
    rcases List.mem_append.1 he with he | he
    · exact hst.2 e he
    · -- the operand is no variable, so the mismatch names none
      obtain rfl := List.mem_singleton.1 he
      rfl

theorem settle_insert_clean {n r : Node} (hr : Node.TypedVars τ n r) :
    Keeps (Clean τ)
      (modify (fun s : TypingState => { s with memo := s.memo.insert n r }) >>= fun _ =>
        pure r : TypingM Node) (Node.TypedVars τ n) :=
  Keeps.bind (Keeps.modify' fun _ hs => ⟨hs.1.insert hr, hs.2⟩) fun _ _ => Keeps.pure' hr

/-- Typing a plain tree whose operands fit `τ`, from a map whose types `τ` reads: the result is a
typed form of the tree, and so is every result the walk remembers, and no mismatch it records
names a variable. -/
theorem visit_typedVars (hτ : ∀ v ty, (m.typeOf v).map (·.2) = .ok ty → τ v = some ty)
    (n : Node) (hn : n.Plain) (hfit : n.OperandsFit τ) :
    Keeps (Clean τ) (visit m n) (Node.TypedVars τ n) := by
  induction n using Node.induction with
  | h k f cs ih =>
    have ih' : ∀ c ∈ cs, Keeps (Clean τ) (visit m c) (Node.TypedVars τ c) :=
      fun c hc => ih c hc (hn.children c hc) (hfit.children c hc)
    have hfinish : ∀ {cs' f'}, Node.TypedVars τ (.mk k f cs) (.mk k f' cs') →
        Keeps (Clean τ) (rebuild (.mk k f cs) cs' f' >>= fun r =>
          modify (fun s : TypingState =>
            { s with memo := s.memo.insert (.mk k f cs) (settle (.mk k f cs) r) }) >>= fun _ =>
              pure (settle (.mk k f cs) r)) (Node.TypedVars τ (.mk k f cs)) := fun h =>
      Keeps.bind rebuild_keeps fun _ hr => settle_insert_clean ((h.rebuild hr hn).settle hn)
    rw [visit.eq_1]
    refine Keeps.get_bind fun st hst => ?_
    split
    · -- a remembered result of a node of the same key
      next r hfind =>
      have hfound : (Node.mk k f cs).Plain → Node.TypedVars τ (.mk k f cs) r :=
        Memo.All.find (R := fun a r => a.Plain → Node.TypedVars τ a r) (fun e he _ => hst.1 e he)
          (fun a n r h hkey hn => (h (Node.Plain.of_sameKey hkey hn).1).of_sameKey hkey hn) hfind
      exact Keeps.pure' (hfound hn)
    · dsimp only
      split
      · -- a rule keeps its constraint list and types its text
        next c t _ =>
        refine Keeps.bind (Keeps.modify' fun s hs => hs) fun _ _ => ?_
        refine Keeps.bind (ih' t (by simp)) fun t' ht => ?_
        refine Keeps.bind rebuild_keeps fun r hr => ?_
        refine Keeps.bind (Keeps.modify' fun s hs => hs) fun _ _ => ?_
        refine Keeps.bind (Keeps.pure' (Q := fun r' => r' = r) rfl) fun r' hr' => ?_
        subst hr'
        have hrule : Node.TypedVars τ (.mk .rule f [c, t]) (.mk .rule f [c, t']) :=
          ⟨rfl, (fun h => by cases h), .rule ht.varsTyped,
            .mk (fun h => absurd h (by decide)) (fun h => absurd h (by decide))
              (by simpa using ⟨hfit.children c (by simp), ht.operandsFit⟩)⟩
        exact settle_insert_clean ((hrule.rebuild hr hn).settle hn)
      · -- a text
        refine Keeps.bind (Keeps.modify' fun s hs => hs) fun _ _ => ?_
        exact Keeps.bind (visitAll_keeps_of ih') fun cs' hcs =>
          hfinish (Node.TypedVars.descend (by decide) hfit hcs)
      · -- a constraint list is left as it is
        refine Keeps.bind (Keeps.pure' (Q := (· = _)) rfl) fun r hr => ?_
        subst hr
        exact settle_insert_clean ((Node.TypedVars.kept (g := f) (by decide) hfit).settle hn)
      · exact hfinish (Node.TypedVars.kept (by decide) hfit)
      · exact Keeps.bind varTy_ok fun ty hty =>
          hfinish ⟨rfl, (fun h => by cases h), .textVar (hτ f.name ty hty).symm,
            hfit.retype_fields _⟩
      · refine Keeps.bind (ih' _ (by simp)) fun e' he => ?_
        exact Keeps.bind check_keeps fun _ _ =>
          hfinish (Node.TypedVars.descend (by decide) hfit (.cons he .nil))
      · exact hfinish (Node.TypedVars.kept (by decide) hfit)
      · exact hfinish (Node.TypedVars.kept (by decide) hfit)
      · exact Keeps.bind varTy_ok fun ty hty =>
          hfinish ⟨rfl, fun _ => rfl, .var (by
            show some ty.narrow = (τ f.name).map Ty.narrow
            rw [hτ f.name ty hty]
            rfl), hfit.retype_fields _⟩
      · -- unary minus: a variable operand is a number, so a report is never at a variable
        next o _ =>
        refine Keeps.bind (ih' o (by simp)) fun o' ho => ?_
        refine Keeps.bind isNumber_spec fun b hb => ?_
        have hnot : (!b) = true → o'.kind ≠ .var := fun hnb hv => by
          simp [hb (ho.number_of_var hfit (by decide) (by simp) hv)] at hnb
        repeat
          first
          | (with_reducible apply Keeps.bind (report_clean (hnot ‹_›))); intro _ _
          | (with_reducible apply Keeps.bind check_keeps); intro _ _
          | split
          | exact hfinish (Node.TypedVars.descend (by decide) hfit (.cons ho .nil))
      · -- `+`: a variable operand is a number, a string or either
        next l r _ =>
        refine Keeps.bind (ih' l (by simp)) fun l' hl => ?_
        refine Keeps.bind (ih' r (by simp)) fun r' hr => ?_
        refine Keeps.bind isPlusOperand_spec fun bl hbl => ?_
        refine Keeps.bind isPlusOperand_spec fun br hbr => ?_
        have hnotl : (!bl) = true → l'.kind ≠ .var := fun hnb hv => by
          simp [hbl (hl.plusOperand_of_var hfit (by simp) hv)] at hnb
        have hnotr : (!br) = true → r'.kind ≠ .var := fun hnb hv => by
          simp [hbr (hr.plusOperand_of_var hfit (by simp) hv)] at hnb
        repeat
          first
          | (with_reducible apply Keeps.bind (report_clean (hnotl ‹_›))); intro _ _
          | (with_reducible apply Keeps.bind (report_clean (hnotr ‹_›))); intro _ _
          | (with_reducible apply Keeps.bind check_keeps); intro _ _
          | (with_reducible apply Keeps.bind (Keeps.pure' (Q := fun _ => True) trivial)); intro _ _
          | split
          | exact hfinish (Node.TypedVars.descend (by decide) hfit (.cons hl (.cons hr .nil)))
      case h_12 | h_13 | h_14 =>
        -- `-`, `*` and `/`: variable operands are numbers
        next l r _ =>
        refine Keeps.bind (ih' l (by simp)) fun l' hl => ?_
        refine Keeps.bind (ih' r (by simp)) fun r' hr => ?_
        refine Keeps.bind isNumber_spec fun bl hbl => ?_
        refine Keeps.bind isNumber_spec fun br hbr => ?_
        have hnotl : (!bl) = true → l'.kind ≠ .var := fun hnb hv => by
          simp [hbl (hl.number_of_var hfit (by decide) (by simp) hv)] at hnb
        have hnotr : (!br) = true → r'.kind ≠ .var := fun hnb hv => by
          simp [hbr (hr.number_of_var hfit (by decide) (by simp) hv)] at hnb
        repeat
          first
          | (with_reducible apply Keeps.bind (report_clean (hnotl ‹_›))); intro _ _
          | (with_reducible apply Keeps.bind (report_clean (hnotr ‹_›))); intro _ _
          | (with_reducible apply Keeps.bind check_keeps); intro _ _
          | (with_reducible apply Keeps.bind (Keeps.pure' (Q := fun _ => True) trivial)); intro _ _
          | split
          | exact hfinish (Node.TypedVars.descend (by decide) hfit (.cons hl (.cons hr .nil)))
      · -- a call
        refine Keeps.bind (visitAll_keeps_of ih') fun ps hps => ?_
        exact Keeps.bind anyErrorTy_keeps fun _ _ =>
          hfinish (Node.TypedVars.descend (by decide) hfit hps)
      · -- any other node is put back together from its typed children
        refine Keeps.bind (visitAll_keeps_of ih') fun cs' hcs => hfinish ?_
        refine Node.TypedVars.descend ?_ hfit hcs
        simp only [List.mem_cons, List.not_mem_nil, or_false, not_or]
        exact ⟨‹_›, ‹_›, ‹_›, ‹_›, ‹_›, ‹_›⟩


/-! ## Typing fails with a type conflict only through what it records -/

/-- A failure other than a type conflict. -/
def NoMismatch : Failure → Prop
  | .typeMismatch _ => False
  | _ => True

/-- Every failure of `x`, from any state, is one that `F` allows. -/
def FailsOnly (F : Failure → Prop) {α : Type} (x : TypingM α) : Prop :=
  ∀ s e, x.run s = .error e → F e

namespace FailsOnly

variable {F : Failure → Prop} {α β : Type}

theorem pure' (a : α) : FailsOnly F (pure a : TypingM α) := by
  intro _ _ h
  cases h

theorem bind {x : TypingM α} {f : α → TypingM β} (hx : FailsOnly F x)
    (hf : ∀ a, FailsOnly F (f a)) : FailsOnly F (x >>= f) := by
  intro s e h
  rw [StateT.run_bind] at h
  cases hx' : x.run s with
  | error e' =>
    rw [hx'] at h
    cases h
    exact hx s _ hx'
  | ok p =>
    rw [hx'] at h
    exact hf p.1 p.2 e h

theorem get_bind {g : TypingState → TypingM α} (hg : ∀ s, FailsOnly F (g s)) :
    FailsOnly F (get >>= g) := fun s e h => hg s s e h

theorem modify' (f : TypingState → TypingState) : FailsOnly F (modify f : TypingM PUnit) := by
  intro _ _ h
  cases h

theorem set' (s₀ : TypingState) : FailsOnly F (set s₀ : TypingM PUnit) := by
  intro _ _ h
  cases h

theorem check' {r : Except Failure α} (h : ∀ e, r = .error e → F e) : FailsOnly F (check r) := by
  cases r with
  | ok a => exact pure' a
  | error e =>
    intro _ _ h'
    cases h'
    exact h e rfl

end FailsOnly

theorem tyOf_noMismatch {n : Node} : ∀ e, tyOf n = .error e → NoMismatch e := by
  intro e h
  unfold tyOf at h
  split at h <;> cases h
  trivial

theorem constOf_noMismatch {n : Node} : ∀ e, constOf n = .error e → NoMismatch e := by
  intro e h
  unfold constOf at h
  split at h <;> cases h
  trivial

theorem typeOf_noMismatch {m : TypeMap} {v : Datum} :
    ∀ e, (m.typeOf v).map (·.2) = .error e → NoMismatch e := by
  intro e h
  cases hv : v.unhashable? with
  | some kind =>
    simp [TypeMap.typeOf, TypeMap.getInfo, Datum.hashable, hv, bind, Except.bind, throw, throwThe,
      MonadExceptOf.throw, Except.map] at h
    subst h
    trivial
  | none =>
    cases hidx : m.indexOf? v with
    | some i =>
      simp [TypeMap.typeOf, TypeMap.getInfo, Datum.hashable, hv, hidx, Except.map] at h
    | none =>
      cases hf : m.frozen <;>
        simp [TypeMap.typeOf, TypeMap.getInfo, Datum.hashable, hv, hidx, hf, bind, Except.bind,
          throw, throwThe, MonadExceptOf.throw, Except.map] at h
      subst h
      trivial

theorem rebuild_noMismatch {n : Node} {cs : List Node} {f : Fields} :
    FailsOnly NoMismatch (rebuild n cs f) := by
  unfold rebuild
  split
  · exact FailsOnly.pure' _
  · intro _ _ h
    cases h
    trivial

theorem varTy_noMismatch {m : TypeMap} {n : Node} : FailsOnly NoMismatch (varTy m n) :=
  FailsOnly.check' typeOf_noMismatch

theorem report_noMismatch {ts : List Ty} {o : Node} : FailsOnly NoMismatch (report ts o) := by
  unfold report
  refine FailsOnly.bind (FailsOnly.check' tyOf_noMismatch) fun _ => ?_
  dsimp only
  split
  · exact FailsOnly.pure' _
  · exact FailsOnly.get_bind fun _ => FailsOnly.set' _

theorem isNumber_noMismatch {n : Node} : FailsOnly NoMismatch (isNumber n) :=
  FailsOnly.bind (FailsOnly.check' tyOf_noMismatch) fun _ => FailsOnly.pure' _

theorem isPlusOperand_noMismatch {n : Node} : FailsOnly NoMismatch (isPlusOperand n) :=
  FailsOnly.bind (FailsOnly.check' tyOf_noMismatch) fun _ => FailsOnly.pure' _

theorem anyErrorTy_noMismatch {ps : List Node} : FailsOnly NoMismatch (anyErrorTy ps) := by
  induction ps with
  | nil => exact FailsOnly.pure' _
  | cons p ps ih =>
    refine FailsOnly.bind (FailsOnly.check' tyOf_noMismatch) fun _ => ?_
    split
    · exact FailsOnly.pure' _
    · exact ih

/-- Typing fails with no type conflict of its own: the conflicts it finds are recorded, and a
failure is a malformed node or a variable the map lacks. -/
theorem visit_noMismatch (m : TypeMap) (n : Node) : FailsOnly NoMismatch (visit m n) := by
  induction n using Node.induction with
  | h k f cs ih =>
    have hall : FailsOnly NoMismatch (visitAll m cs) := by
      clear f
      induction cs with
      | nil => exact FailsOnly.pure' _
      | cons c rest ihl =>
        unfold visitAll
        exact FailsOnly.bind (ih c (.head _)) fun _ =>
          FailsOnly.bind (ihl fun d hd => ih d (.tail _ hd)) fun _ => FailsOnly.pure' _
    rw [visit.eq_1]
    refine FailsOnly.get_bind fun st => ?_
    split
    · exact FailsOnly.pure' _
    · dsimp only
      split
      all_goals
        repeat
          first
          | with_reducible exact FailsOnly.pure' _
          | (with_reducible apply FailsOnly.bind (ih _ (by simp))); intro _
          | (with_reducible apply FailsOnly.bind hall); intro _
          | (with_reducible apply FailsOnly.bind (FailsOnly.modify' _)); intro _
          | (with_reducible apply FailsOnly.bind (FailsOnly.check' tyOf_noMismatch)); intro _
          | (with_reducible apply FailsOnly.bind (FailsOnly.check' constOf_noMismatch)); intro _
          | (with_reducible apply FailsOnly.bind varTy_noMismatch); intro _
          | (with_reducible apply FailsOnly.bind rebuild_noMismatch); intro _
          | (with_reducible apply FailsOnly.bind report_noMismatch); intro _
          | (with_reducible apply FailsOnly.bind isNumber_noMismatch); intro _
          | (with_reducible apply FailsOnly.bind isPlusOperand_noMismatch); intro _
          | (with_reducible apply FailsOnly.bind anyErrorTy_noMismatch); intro _
          | (with_reducible apply FailsOnly.bind (FailsOnly.pure' _)); intro _
          | split

end TypedVariables

end Typing

namespace TypeMap

/-- A frozen map gives a variable a type only from an entry it holds. -/
theorem typeOf?_of_typeOf {m : TypeMap} (hf : m.frozen = true) {v : Datum} {ty : Ty}
    (h : (m.typeOf v).map (·.2) = .ok ty) : m.typeOf? v = some ty := by
  cases hv : v.unhashable? with
  | some kind => simp [typeOf, getInfo, Datum.hashable, hv, bind, Except.bind, throw, throwThe, MonadExceptOf.throw, Except.map] at h
  | none =>
    cases hidx : m.indexOf? v with
    | none => simp [typeOf, getInfo, Datum.hashable, hv, hidx, hf, bind, Except.bind, throw, throwThe, MonadExceptOf.throw, Except.map] at h
    | some i =>
      have hfind : m.info? v = (m.vars[i]?).map (·.2) := by
        unfold info?
        rw [List.find?_eq_bind_findIdx?_getElem?]
        unfold indexOf? at hidx
        rw [hidx]
        rfl
      have hlt : i < m.vars.length := (List.findIdx?_eq_some_iff_getElem.1 hidx).1
      simp [typeOf, getInfo, Datum.hashable, hv, hidx, Except.map,
        List.getElem?_eq_getElem hlt] at h
      simp [typeOf?, hfind, List.getElem?_eq_getElem hlt, h]
/-- A type conflict that typing a tree raises is one its walk recorded, when the map holds no
conflict of its own. -/
theorem typeTree_mismatch {m : TypeMap} (he : m.errors = []) {t : Node} {e : TypeMismatch}
    (h : m.typeTree t = .error (.typeMismatch e)) :
    ∃ r st, (Typing.visit m t).run {} = .ok (r, st) ∧ e ∈ st.errors := by
  unfold typeTree at h
  dsimp only at h
  split at h
  · cases h
  have hthrow : m.throwErrors = .ok () := by simp [throwErrors, firstError, he]
  rw [hthrow] at h
  cases hkey : t.requireKey with
  | error f =>
    rw [hkey] at h
    unfold Node.requireKey at hkey
    split at hkey <;> cases hkey
    cases h
  | ok u =>
    rw [hkey] at h
    cases hrun : (Typing.visit m t).run {} with
    | error f =>
      rw [hrun] at h
      cases h
      exact absurd (Typing.visit_noMismatch m t {} _ hrun) id
    | ok p =>
      obtain ⟨r, st⟩ := p
      rw [hrun] at h
      refine ⟨r, st, rfl, ?_⟩
      simp only [Code.ok_bind] at h
      split at h
      · next e' rest hst =>
        cases h
        rw [hst]
        exact List.mem_cons_self
      · cases h
/-- Inference and typing agree on variables. Take a map a caller filled and did not freeze, and
a well-formed translation that inference records into it without conflicts. Every variable used
where a number is asked (an operand of unary minus, `-`, `*` or `/`, an operand of a `+` in such a
place, an argument declared a number, or a constraint against a number) is a number. Typing from
the frozen map gives every variable its map type, as an expression sees it for a variable in an
expression, and every variable an operator reads a type it takes. So a type conflict typing
raises never names a variable. -/
theorem typing_agrees_with_inference {p : Prefill} {m m' : TypeMap} (hp : prefilled p = .ok m)
    (hf : m.frozen = false) {sigs : List (Datum × List Ty)} {t : Node} (ht : t.IsTranslation)
    (hinf : m.infer sigs t = (m', none)) (hclean : m'.errors = []) :
    (∀ s, (.str s, .number) ∈ t.uses m'.signature none → m'.typeOf? (.str s) = some .number) ∧
      (∀ typed, m'.freeze.typeTree t = .ok typed →
        typed.VarsTyped m'.typeOf? ∧ typed.OperandsFit m'.typeOf?) ∧
      (∀ e, m'.freeze.typeTree t = .error (.typeMismatch e) → e.var = .none) := by
  have hfits := conflictFree_fitsUses hp hf ht hinf hclean
  -- the walk types from the frozen map, whose types are those of the map
  have hwalk : Keeps (Typing.Clean m'.typeOf?) (Typing.visit m'.freeze t)
      (Node.TypedVars m'.typeOf? t) :=
    Typing.visit_typedVars (fun v ty h => (typeOf?_of_typeOf (m := m'.freeze) rfl h :
      m'.typeOf? v = some ty)) t ht.plain (ht.operandsFit (m := m') hfits)
  have hstart : Typing.Clean m'.typeOf? {} := ⟨Memo.All.empty _, fun _ h => nomatch h⟩
  refine ⟨hfits.number, fun typed htyped => ?_, fun e he => ?_⟩
  · obtain ⟨-, st, hrun⟩ := typeTree_run htyped
    obtain ⟨-, hr⟩ := hwalk {} typed st hstart hrun
    exact ⟨hr.varsTyped, hr.operandsFit⟩
  · obtain ⟨r, st, hrun, hmem⟩ := typeTree_mismatch (m := m'.freeze) hclean he
    exact (hwalk {} r st hstart hrun).1.2 e hmem

/-- The operand of a unary minus is a number once inference records it without conflict. -/
theorem typing_agrees_with_inference_negation :
    ∃ m', ({} : TypeMap).infer []
        (.mk .textRoot {} [.mk .textExpr {} [.mk .neg {} [.mk .var { name := .str "x" } []]]]) =
        (m', none) ∧ m'.errors = [] ∧ m'.typeOf? (.str "x") = some .number := by
  have ht : Node.IsTranslation
      (.mk .textRoot {} [.mk .textExpr {} [.mk .neg {} [.mk .var { name := .str "x" } []]]]) :=
    .text fun c hc => by
      rw [List.mem_singleton.1 hc]
      exact .textExpr (.neg (.var rfl))
  have hinf := (rfl : ({} : TypeMap).infer []
    (.mk .textRoot {} [.mk .textExpr {} [.mk .neg {} [.mk .var { name := .str "x" } []]]]) = _)
  conv at hinf => rhs; cbv
  refine ⟨_, hinf, rfl, ?_⟩
  exact (typing_agrees_with_inference (p := {}) rfl rfl ht hinf rfl).1 "x"
    (by simp [Node.uses, Node.usesAll])

end TypeMap

end Lingo
