import Lingo.Proofs.HelperUse
import Lingo.Proofs.Calling
import Lingo.Proofs.RuleChain

/-!
# Texts render fragment by fragment

The code emitted for a text joins runs of literal text and numbers natively and encodes each run
with one `ctx.encode` call; any other value goes to `encode_if_string` on its own. The main
statement, `text_renders_fragments`, says that this grouping cannot be seen: run with an output
context, in a module that binds the helpers the code calls, the code gives the renderings of the
fragments joined in order. Literal text is encoded; a fragment of type number shows its number
text, encoded; any other value shows as `encode_if_string` shows it: a number as its number text
and a plain value as its text, both encoded, and safe text as it is, never encoded again. A run can
be encoded at once because escaping distributes over joining (`htmlEscape_append`).

Outcomes are followed exactly, failures included: a fragment whose code raises, or whose rendering
raises (the text of an integer too long to write), makes the text raise that exception, the first
in reading order.

`Gives` is the relation the proofs use: code, run from the local variables, ends in a value or an
exception and leaves the variables as they were.
-/

namespace Lingo

namespace Code

/-! ## Escaping and joining texts -/

theorem htmlEscape_append (q : Bool) (a b : String) :
    htmlEscape q (a ++ b) = htmlEscape q a ++ htmlEscape q b := by
  simp [htmlEscape, String.toList_append]

@[simp] theorem htmlEscape_empty (q : Bool) : htmlEscape q "" = "" := rfl

/-- Two texts joined; the first failure is raised. -/
def appendText (x y : Except Raised String) : Except Raised String := do
  let a ← x
  let b ← y
  pure (a ++ b)

theorem appendText_assoc (x y z : Except Raised String) :
    appendText (appendText x y) z = appendText x (appendText y z) := by
  cases x <;> cases y <;> cases z <;> simp [appendText, String.append_assoc]

@[simp] theorem appendText_empty_left (x : Except Raised String) : appendText (.ok "") x = x := by
  cases x with
  | error e => rfl
  | ok a => simp [appendText]

@[simp] theorem appendText_empty_right (x : Except Raised String) : appendText x (.ok "") = x := by
  cases x with
  | error e => rfl
  | ok a => simp [appendText]

/-- Encoding a joined text encodes each part. -/
theorem htmlEscape_appendText (q : Bool) (x y : Except Raised String) :
    htmlEscape q <$> appendText x y = appendText (htmlEscape q <$> x) (htmlEscape q <$> y) := by
  cases x <;> cases y <;> simp [appendText, htmlEscape_append] <;> rfl

/-! ## Code that ends in a value or an exception -/

section Outcomes

variable {g : Env} {bi : Option Value} {fuel : Nat} {env : Env}

@[simp] theorem map_ok {ε α β : Type} (f : α → β) (a : α) :
    (f <$> (Except.ok a : Except ε α)) = .ok (f a) := rfl

/-- Expression `e`, run from the local variables `env`, ends in outcome `o`, a value or an
exception, and leaves the variables as they were. -/
def Gives (g : Env) (bi : Option Value) (fuel : Nat) (env : Env) (e : Expr)
    (o : Except Raised Value) : Prop :=
  (evalExpr g bi fuel e).run env = (fun v => (v, env)) <$> o

/-- The expressions `es`, run in order from `env`, end in outcome `o` and leave `env` as it was. -/
def GivesAll (g : Env) (bi : Option Value) (fuel : Nat) (env : Env) (es : List Expr)
    (o : Except Raised (List Value)) : Prop :=
  (evalExprs g bi fuel es).run env = (fun vs => (vs, env)) <$> o

theorem Evals.gives {e : Expr} {v : Value} (h : Evals g bi fuel env e v env) :
    Gives g bi fuel env e (.ok v) := h

theorem GivesAll.nil : GivesAll g bi fuel env [] (.ok []) := EvalsAll.nil env

theorem GivesAll.cons {e : Expr} {es : List Expr} {o : Except Raised Value}
    {os : Except Raised (List Value)} (he : Gives g bi fuel env e o)
    (hes : GivesAll g bi fuel env es os) :
    GivesAll g bi fuel env (e :: es) (do let v ← o; let vs ← os; pure (v :: vs)) := by
  simp only [Gives, GivesAll, evalExprs, StateT.run_bind] at he hes ⊢
  rw [he]
  cases o with
  | error r => rfl
  | ok v =>
    simp only [map_ok, ok_bind, hes]
    cases os <;> rfl

theorem Gives.call {f : Expr} {args : List Expr} {fv : Value} {os : Except Raised (List Value)}
    (hf : Gives g bi fuel env f (.ok fv)) (ha : GivesAll g bi fuel env args os) :
    Gives g bi fuel env (.call f args) (os >>= apply g fuel fv) := by
  simp only [Gives, GivesAll, evalExpr, StateT.run_bind, attempt] at hf ha ⊢
  rw [hf]
  simp only [map_ok, ok_bind, ha]
  cases os with
  | error r => rfl
  | ok avs =>
    simp only [map_ok, ok_bind]
    cases apply g fuel fv avs <;> rfl

theorem Gives.arith {op : ArithOp} {l r : Expr} {x y : Except Raised Value}
    (hl : Gives g bi fuel env l x) (hr : Gives g bi fuel env r y) :
    Gives g bi fuel env (.arith op l r) (do let a ← x; let b ← y; arithValue op a b) := by
  simp only [Gives, evalExpr, StateT.run_bind, attempt] at hl hr ⊢
  rw [hl]
  cases x with
  | error e => rfl
  | ok a =>
    simp only [map_ok, ok_bind, hr]
    cases y with
    | error e => rfl
    | ok b =>
      simp only [map_ok, ok_bind]
      cases arithValue op a b <;> rfl

/-- A returned expression ends the body with its outcome. -/
theorem execBody_ret_gives {top : Bool} {e : Expr} {o : Except Raised Value}
    (he : Gives g bi fuel env e o) (rest : List Stmt) :
    (execBody g bi top fuel (.ret e :: rest)).run env = (fun v => (some v, env)) <$> o := by
  simp only [Gives] at he
  simp only [execBody, StateT.run_bind, he]
  cases o <;> rfl

/-- Two texts joined by `+`. -/
theorem Gives.add_text {l r : Expr} {x y : Except Raised String}
    (hl : Gives g bi fuel env l (Value.str <$> x)) (hr : Gives g bi fuel env r (Value.str <$> y)) :
    Gives g bi fuel env (.arith .add l r) (Value.str <$> appendText x y) := by
  have h := @Gives.arith g bi fuel env .add l r _ _ hl hr
  cases x <;> cases y <;> exact h

/-- `ctx.encode(e)` encodes the text that `e` gives. -/
theorem Gives.encode {q : Bool} {e : Expr} {t : Except Raised String}
    (hc : env.lookup Emit.ctxName = some (.context q))
    (he : Gives g bi (fuel + 1) env e (Value.str <$> t)) :
    Gives g bi (fuel + 1) env (Emit.ctxMethod "encode" [e])
      (Value.str <$> (htmlEscape q <$> t)) := by
  have h := Gives.call (Evals.attr (f := "encode") (Evals.local hc) rfl).gives
    (GivesAll.cons he GivesAll.nil)
  cases t with
  | error r => exact h
  | ok s =>
    simp only [map_ok, ok_bind, pure_ok, apply_method] at h
    exact h

/-- A built-in called on one argument, where nothing shadows it. -/
theorem Gives.builtin_call (hun : Unshadowed g env) {x : String} {b : Builtin}
    (hx : x ∈ guardBuiltins) (hb : Builtin.ofName? x = some b)
    {e : Expr} {o : Except Raised Value}
    (he : Gives g none (fuel + 1) env e o) :
    Gives g none (fuel + 1) env (Expr.callName x [e]) (o >>= fun v => callBuiltin b [v]) := by
  have h := Gives.call (Evals.builtin (hun x hx).1 (hun x hx).2 hb).gives
    (GivesAll.cons he GivesAll.nil)
  cases o with
  | error r => exact h
  | ok v =>
    simp only [ok_bind, pure_ok, apply_builtin] at h
    exact h

end Outcomes

/-! ## The helpers -/

/-- The function a definition at the top of a module binds, before the module binds
`__builtins__`. -/
def topClosure : Stmt → Value
  | .define f ps body => .closure f ps body none
  | _ => .none

/-- What `number_text` makes of a value: a double with no fractional part is written as the integer
it is, any other value as its text. -/
def numberTextOf (v : Value) : Except Raised String :=
  match v with
  | .scalar (.float x) => if Binary64.isInteger x then toInt v >>= textOf else textOf v
  | _ => textOf v

/-- What `encode_if_string` makes of a value in an output context with quoting `q`: a number as its
number text and a plain value as its text, both encoded, and safe text as it is. -/
def encodeIfStringOf (q : Bool) (v : Value) : Except Raised String :=
  if v.isNumber then htmlEscape q <$> numberTextOf v
  else if v.isSafe then pure v.text
  else htmlEscape q <$> textOf v

/-- A module namespace in which the helpers that `h` records are bound to their definitions, and
none of the built-ins they call is shadowed. -/
structure HelperScope (g : Env) (h : Helpers) : Prop where
  numberText : h.numberText = true → g.lookup "number_text" = some (topClosure Emit.numberTextDef)
  encodeIfString : h.encodeIfString = true →
    g.lookup "encode_if_string" = some (topClosure Emit.encodeIfStringDef)
  builtins : ∀ x ∈ guardBuiltins, g.lookup x = none

section Helpers

variable {g : Env} {fuel : Nat}

/-- Local variables whose names are none of the built-ins shadow none of them. -/
theorem Unshadowed.of_names {env : Env} (hg : ∀ x ∈ guardBuiltins, g.lookup x = none)
    (henv : ∀ p ∈ env, p.1 ∉ guardBuiltins) : Unshadowed g env := by
  intro x hx
  refine ⟨?_, hg x hx⟩
  simp only [Env.lookup, Option.map_eq_none_iff, List.find?_eq_none, beq_iff_eq]
  exact fun p hp hpx => henv p hp (hpx ▸ hx)

/-- A module function called with as many arguments as it has parameters runs its body from the
parameters bound to them. -/
theorem apply_closure {f : String} {ps : List String} {body : List Stmt} {args : List Value}
    (h : ps.length = args.length) :
    apply g (fuel + 1) (.closure f ps body none) args =
      (execBody g none false fuel body).run (ps.zip args).reverse >>=
        fun p => pure (p.1.getD .none) := by
  rw [apply]
  simp [bindParams, h]

theorem isInstance_float {v : Value} (h : isInstance v .float = true) :
    ∃ x, v = .scalar (.float x) := by
  cases v with
  | scalar s =>
    cases s with
    | float x => exact ⟨x, rfl⟩
    | _ => simp [isInstance] at h
  | _ => simp [isInstance] at h

theorem numberTextOf_of_not_float {v : Value} (h : isInstance v .float = false) :
    numberTextOf v = textOf v := by
  cases v with
  | scalar s => cases s <;> simp_all [numberTextOf, isInstance]
  | _ => rfl

theorem apply_numberText (hg : ∀ x ∈ guardBuiltins, g.lookup x = none) (v : Value) :
    apply g (fuel + 2) (topClosure Emit.numberTextDef) [v] = Value.str <$> numberTextOf v := by
  -- the body runs with `value` bound to `v`, which shadows no built-in
  have hun : Unshadowed g [("value", v)] := Unshadowed.of_names hg (by simp [guardBuiltins])
  have hval : Evals g none (fuel + 1) [("value", v)] Emit.value v [("value", v)] := Evals.local rfl
  have hstr : Gives g none (fuel + 1) [("value", v)] (Expr.callName "str" [Emit.value])
      (Value.str <$> textOf v) :=
    Gives.builtin_call hun (x := "str") (by decide) rfl hval.gives
  have hfloat : Evals g none (fuel + 1) [("value", v)] (Emit.isinstanceOf Emit.value ["float"])
      (.ofBool ([Builtin.float].any (isInstance v))) [("value", v)] :=
    Evals.isinstanceOf hun hun hval [.float] (by decide)
  simp only [topClosure, Emit.numberTextDef]
  rw [apply_closure rfl]
  simp only [List.zip_cons_cons, List.zip_nil_right, List.reverse_cons, List.reverse_nil,
    List.nil_append]
  cases hv : isInstance v .float with
  | false =>
    -- not a double: the test fails at once and the value is written as it is
    have htest : Evals g none (fuel + 1) [("value", v)]
        (.logic .conj
          [Emit.isinstanceOf Emit.value ["float"], Expr.method Emit.value "is_integer" []])
        (.ofBool ([Builtin.float].any (isInstance v))) [("value", v)] :=
      Evals.logic_decide hfloat (by simp [hv])
    rw [execBody_ifThen_false htest (by simp [hv]), execBody_ret_gives hstr,
      numberTextOf_of_not_float hv]
    cases textOf v <;> rfl
  | true =>
    obtain ⟨x, rfl⟩ := isInstance_float hv
    have hint : Evals g none (fuel + 1) [("value", .scalar (.float x))]
        (Expr.method Emit.value "is_integer" []) (.ofBool (Binary64.isInteger x))
        [("value", .scalar (.float x))] :=
      Evals.call (Evals.attr (f := "is_integer") hval rfl) (EvalsAll.nil _)
        (by rw [apply_method]; rfl)
    have htest := Evals.conj_bool hfloat hint
    cases hx : Binary64.isInteger x with
    | false =>
      rw [execBody_ifThen_false htest (by simp [hx, isInstance]), execBody_ret_gives hstr]
      simp only [numberTextOf, hx]
      cases textOf _ <;> rfl
    | true =>
      -- a double with no fractional part is written as the integer it is
      have hnum : Gives g none (fuel + 1) [("value", .scalar (.float x))]
          (Expr.callName "str" [Expr.callName "int" [Emit.value]])
          (Value.str <$> (toInt (.scalar (.float x)) >>= textOf)) := by
        have h := Gives.builtin_call hun (x := "str") (by decide) rfl
          (Gives.builtin_call hun (x := "int") (by decide) rfl hval.gives)
        simp only [callBuiltin, ok_bind] at h
        cases ht : toInt (.scalar (.float x)) <;> rw [ht] at h <;> exact h
      rw [execBody_ifThen_true htest (by simp [hx, isInstance]), List.singleton_append,
        execBody_ret_gives hnum]
      simp only [numberTextOf, hx]
      cases toInt _ >>= textOf <;> rfl

theorem number_conj_test (w : Value) :
    ([Builtin.int, .float].any (isInstance w) && !([Builtin.bool].any (isInstance w))) =
      w.isNumber := by
  cases w with
  | scalar s => cases s <;> rfl
  | _ => rfl

/-- A name bound in the module and not among the local variables. -/
theorem Evals.global {bi : Option Value} {env : Env} {x : String} {v : Value}
    (hl : env.lookup x = none) (hg : g.lookup x = some v) :
    Evals g bi fuel env (.name x) v env := by
  simp only [Evals, evalExpr, StateT.run_bind, StateT.run_get, pure_bind, hl, hg]
  rfl

/-- `number_text(e)`, in a module that binds it. -/
theorem Gives.numberText {env : Env} {e : Expr} {o : Except Raised Value}
    (hn : g.lookup "number_text" = some (topClosure Emit.numberTextDef))
    (hb : ∀ x ∈ guardBuiltins, g.lookup x = none) (hl : env.lookup "number_text" = none)
    (he : Gives g none (fuel + 2) env e o) :
    Gives g none (fuel + 2) env (Expr.callName "number_text" [e])
      (Value.str <$> (o >>= numberTextOf)) := by
  have h := Gives.call (Evals.global hl hn).gives (GivesAll.cons he GivesAll.nil)
  cases o with
  | error r => exact h
  | ok v =>
    simp only [ok_bind, pure_ok, apply_numberText hb] at h
    exact h

theorem apply_encodeIfString (hn : g.lookup "number_text" = some (topClosure Emit.numberTextDef))
    (hb : ∀ x ∈ guardBuiltins, g.lookup x = none) (q : Bool) (v : Value) :
    apply g (fuel + 3) (topClosure Emit.encodeIfStringDef) [.context q, v] =
      Value.str <$> encodeIfStringOf q v := by
  -- the body runs with `ctx` and `value` bound, neither of them a built-in or a helper
  have hun : Unshadowed g [("value", v), ("ctx", .context q)] :=
    Unshadowed.of_names hb (by simp [guardBuiltins])
  have hval : Evals g none (fuel + 2) [("value", v), ("ctx", .context q)] Emit.value v
      [("value", v), ("ctx", .context q)] := Evals.local rfl
  have hctx : Env.lookup [("value", v), ("ctx", .context q)] Emit.ctxName = some (.context q) := rfl
  have hnum : Evals g none (fuel + 2) [("value", v), ("ctx", .context q)]
      (.logic .conj [Emit.isinstanceOf Emit.value ["int", "float"],
        .not (Emit.isinstanceOf Emit.value ["bool"])]) (.ofBool v.isNumber)
      [("value", v), ("ctx", .context q)] := by
    rw [← number_conj_test]
    exact Evals.conj_bool (Evals.isinstanceOf hun hun hval [.int, .float] (by decide))
      (Evals.not (Evals.isinstanceOf hun hun hval [.bool] (by decide)))
  simp only [topClosure, Emit.encodeIfStringDef]
  rw [apply_closure rfl]
  simp only [List.zip_cons_cons, List.zip_nil_right, List.reverse_cons, List.reverse_nil,
    List.nil_append, List.cons_append, Emit.ctxName]
  cases hv : v.isNumber with
  | true =>
    -- a number is encoded as its number text
    have hret := Gives.encode hctx (Gives.numberText hn hb rfl hval.gives)
    rw [execBody_ifThen_true hnum (by simp [hv]), List.singleton_append, execBody_ret_gives hret]
    simp only [encodeIfStringOf, hv, if_true, ok_bind]
    cases numberTextOf v <;> rfl
  | false =>
    have hsafe := Evals.not (Evals.isSafeString hctx hval)
    rw [execBody_ifThen_false hnum (by simp [hv])]
    cases hs : v.isSafe with
    | false =>
      -- a plain value is encoded as its text
      have hret :=
        Gives.encode hctx (Gives.builtin_call hun (x := "str") (by decide) rfl hval.gives)
      rw [execBody_ifThen_true hsafe (by simp [hs]), List.singleton_append, execBody_ret_gives hret]
      simp only [encodeIfStringOf, hv, hs, Bool.false_eq_true, if_false]
      cases textOf v <;> rfl
    | true =>
      -- safe text is passed through as it is
      have hret : Evals g none (fuel + 2) [("value", v), ("ctx", .context q)]
          (Emit.ctxMethod "convert_safe_string" [Emit.value]) (.str v.text)
          [("value", v), ("ctx", .context q)] :=
        Evals.call (Evals.attr (f := "convert_safe_string") (Evals.local hctx) rfl)
          (EvalsAll.cons hval (EvalsAll.nil _)) (by rw [apply_method]; rfl)
      rw [execBody_ifThen_false hsafe (by simp [hs]), execBody_ret_gives hret.gives]
      simp [encodeIfStringOf, hv, hs]

/-- `encode_if_string(ctx, e)`, in a module that binds it and `number_text`. -/
theorem Gives.encodeIfString {env : Env} {q : Bool} {e : Expr} {o : Except Raised Value}
    (hs : g.lookup "encode_if_string" = some (topClosure Emit.encodeIfStringDef))
    (hn : g.lookup "number_text" = some (topClosure Emit.numberTextDef))
    (hb : ∀ x ∈ guardBuiltins, g.lookup x = none) (hl : env.lookup "encode_if_string" = none)
    (hctx : env.lookup Emit.ctxName = some (.context q)) (he : Gives g none (fuel + 3) env e o) :
    Gives g none (fuel + 3) env (Expr.callName "encode_if_string" [Emit.ctx, e])
      (Value.str <$> (o >>= encodeIfStringOf q)) := by
  have h := Gives.call (Evals.global hl hs).gives
    (GivesAll.cons (Evals.local hctx).gives (GivesAll.cons he GivesAll.nil))
  cases o with
  | error r => exact h
  | ok v =>
    simp only [ok_bind, pure_ok, apply_encodeIfString hn hb] at h
    exact h

end Helpers

end Code

namespace Helpers

/-- Each of `number_text` and `encode_if_string` that `a` records, `b` records too. -/
def Within (a b : Helpers) : Prop :=
  (a.numberText = true → b.numberText = true) ∧
    (a.encodeIfString = true → b.encodeIfString = true)

theorem Within.union (a b : Helpers) : a.Within (a.union b) :=
  ⟨fun h => by simp [Helpers.union, h], fun h => by simp [Helpers.union, h]⟩

end Helpers

/-- An emission step only adds to the helpers recorded. -/
theorem EmitM.Adds.within {α : Type} {x : EmitM α} (hx : EmitM.Adds x) {h h' : Helpers}
    {r : Except Failure α} (hrun : x.run' h = (r, h')) : h.Within h' := by
  rw [hx.run'_eq h] at hrun
  rw [← (Prod.mk.inj hrun).2]
  exact Helpers.Within.union _ _

theorem Code.HelperScope.mono {g : Code.Env} {a b : Helpers} (hs : Code.HelperScope g b)
    (hab : a.Within b) : Code.HelperScope g a :=
  ⟨fun h => hs.numberText (hab.1 h), fun h => hs.encodeIfString (hab.2 h), hs.builtins⟩

namespace Node

/-- Whether a fragment of a text shows a number: a parameter or an interpolated expression of type
number. -/
def showsNumber (n : Node) : Bool :=
  match n.kind, n.children with
  | .textVar, _ => n.fields.ty == some .number
  | .textExpr, [x] => x.fields.ty == some .number
  | _, _ => false

@[simp] theorem showsNumber_textVar (f : Fields) (cs : List Node) :
    (Node.mk .textVar f cs).showsNumber = (f.ty == some .number) := rfl

@[simp] theorem showsNumber_textExpr (f : Fields) (x : Node) :
    (Node.mk .textExpr f [x]).showsNumber = (x.fields.ty == some .number) := rfl

end Node

namespace Emit

/-- The code emitted for an expression, which does not depend on the helpers recorded before. -/
def exprCode (x : Node) : Except Failure Code.Expr := ((expr x).run' {}).1

end Emit

namespace Code

/-! ## Fragments and how they show -/

/-- Fragment `n` of a text, run from `env`, has outcome `o`: literal text is its own text, a
parameter has the outcome of looking it up, and an interpolation that of its emitted expression. -/
inductive FragmentGives (g : Env) (fuel : Nat) (env : Env) : Node → Except Raised Value → Prop
  | literal {f : Fields} {cs : List Node} {s : String} (hv : f.value = .str s) :
      FragmentGives g fuel env (.mk .literal f cs) (.ok (.str s))
  | textVar {f : Fields} {cs : List Node} {o : Except Raised Value}
      (ho : Gives g none fuel env (Emit.paramLookup f.name) o) :
      FragmentGives g fuel env (.mk .textVar f cs) o
  | textExpr {f : Fields} {x : Node} {c : Expr} {o : Except Raised Value}
      (hc : Emit.exprCode x = .ok c) (ho : Gives g none fuel env c o) :
      FragmentGives g fuel env (.mk .textExpr f [x]) o

/-- How fragment `n` shows the value `v` in an output context with quoting `q`: literal text
encoded, a fragment of type number as its number text encoded, and anything else as
`encode_if_string` shows it. -/
def renderFragment (q : Bool) (n : Node) (v : Value) : Except Raised String :=
  if n.kind = .literal then pure (htmlEscape q v.text)
  else if n.showsNumber then htmlEscape q <$> numberTextOf v
  else encodeIfStringOf q v

/-- The text that fragments show, given the outcome of each one's code: their renderings joined in
order, or the first failure. -/
def renderText (q : Bool) : List (Node × Except Raised Value) → Except Raised String
  | [] => pure ""
  | (n, o) :: rest => appendText (o >>= renderFragment q n) (renderText q rest)

/-- Part `p` of a text being encoded shows `r`: a part that joins a run gives a plain text whose
encoding is `r`, any other part a value that `encode_if_string` shows as `r`. -/
inductive PartShows (g : Env) (fuel : Nat) (env : Env) (q : Bool) :
    Expr × Bool → Except Raised String → Prop
  | run {e : Expr} {t : Except Raised String} (he : Gives g none fuel env e (Value.str <$> t)) :
      PartShows g fuel env q (e, true) (htmlEscape q <$> t)
  | single {e : Expr} {o : Except Raised Value} (he : Gives g none fuel env e o) :
      PartShows g fuel env q (e, false) (o >>= encodeIfStringOf q)

/-- The run of literal text and numbers being read gives the plain text `t`; with no run, `t` is
empty. -/
def RunGives (g : Env) (fuel : Nat) (env : Env) : Option Expr → Except Raised String → Prop
  | none, t => t = pure ""
  | some e, t => Gives g none fuel env e (Value.str <$> t)

/-- The pieces encoded so far give the text `d`: their sum gives it, or there are none and `d` is
empty. -/
def PiecesGive (g : Env) (fuel : Nat) (env : Env) (done : List Expr) (d : Except Raised String) :
    Prop :=
  match Expr.sum? done with
  | none => d = pure ""
  | some s => Gives g none fuel env s (Value.str <$> d)

theorem sum?_append_singleton (es : List Expr) (x : Expr) :
    Expr.sum? (es ++ [x]) = some ((Expr.sum? es).elim x fun s => .arith .add s x) := by
  cases es <;> simp [Expr.sum?, List.foldl_append]

section Grouping

variable {g : Env} {fuel : Nat} {env : Env} {q : Bool}

theorem PiecesGive.nil : PiecesGive g fuel env [] (pure "") := rfl

/-- A piece encoded after the others adds its text at the end. -/
theorem PiecesGive.snoc {done : List Expr} {d y : Except Raised String} {x : Expr}
    (hd : PiecesGive g fuel env done d) (hx : Gives g none fuel env x (Value.str <$> y)) :
    PiecesGive g fuel env (done ++ [x]) (appendText d y) := by
  unfold PiecesGive at hd ⊢
  rw [sum?_append_singleton]
  cases hs : Expr.sum? done with
  | none =>
    simp only [hs] at hd
    simp only [Option.elim, hd, pure_ok, appendText_empty_left]
    exact hx
  | some s =>
    simp only [hs] at hd
    exact Gives.add_text hd hx

/-- Closing the run encodes its text after the pieces before it. -/
theorem PiecesGive.closeRun (hctx : env.lookup Emit.ctxName = some (.context q))
    {done : List Expr} {d t : Except Raised String} {group : Option Expr}
    (hd : PiecesGive g (fuel + 1) env done d) (ht : RunGives g (fuel + 1) env group t) :
    PiecesGive g (fuel + 1) env (done ++ Emit.closeRun group)
      (appendText d (htmlEscape q <$> t)) := by
  cases group with
  | none =>
    simp only [RunGives] at ht
    subst ht
    simpa [Emit.closeRun] using hd
  | some e => exact hd.snoc (Gives.encode hctx ht)

end Grouping

theorem renderFragment_number {q : Bool} {n : Node} (hk : n.kind ≠ .literal)
    (hn : n.showsNumber = true) (o : Except Raised Value) :
    (o >>= renderFragment q n) = htmlEscape q <$> (o >>= numberTextOf) := by
  cases o with
  | error r => rfl
  | ok v => simp [renderFragment, hk, hn]

theorem renderFragment_other {q : Bool} {n : Node} (hk : n.kind ≠ .literal)
    (hn : n.showsNumber = false) : renderFragment q n = encodeIfStringOf q := by
  funext v
  simp [renderFragment, hk, hn]

end Code

namespace Emit

open Code EmitM

section Parts

variable {g : Env} {fuel : Nat} {env : Env} {q : Bool}

/-- The part emitted for a fragment shows what the fragment renders. -/
theorem textPart_shows {n : Node} {o : Except Raised Value}
    (hn : FragmentGives g (fuel + 3) env n o) {h h' : Helpers} {p : Expr × Bool}
    (hrun : (textPart n).run' h = (.ok p, h')) (hs : HelperScope g h')
    (hl : env.lookup "number_text" = none) :
    PartShows g (fuel + 3) env q p (o >>= renderFragment q n) := by
  -- a part of type number calls `number_text`, which its emission records
  have hnumber : ∀ {c : Expr} {oc : Except Raised Value} {h₀ : Helpers},
      Gives g none (fuel + 3) env c oc → h' = h₀.union { numberText := true } →
      PartShows g (fuel + 3) env q (Expr.callName "number_text" [c], true)
        (htmlEscape q <$> (oc >>= numberTextOf)) := by
    intro c oc h₀ hc hh
    have hnt := hs.numberText (by simp [hh, Helpers.union])
    exact PartShows.run (Gives.numberText hnt hs.builtins hl hc)
  cases hn with
  | @literal f cs s hv =>
    simp only [textPart, Node.kind, Node.fields, hv, run'_pure] at hrun
    cases hrun
    have hr : (Except.ok (Value.str s) >>= renderFragment q (.mk .literal f cs)) =
        htmlEscape q <$> pure s := by
      simp [renderFragment, Node.kind, Value.str, Value.text, Scalar.text]
    rw [hr]
    exact PartShows.run (Evals.const env (.str s)).gives
  | @textVar f cs o ho =>
    simp only [textPart, Node.kind] at hrun
    split at hrun
    · next hty =>
      obtain ⟨c, h₁, hc, hlast⟩ := run'_bind_inv hrun
      rw [numberText_run'] at hc
      cases hc
      rw [run'_pure] at hlast
      cases hlast
      rw [renderFragment_number (by simp [Node.kind]) (by simpa [Node.fields] using hty)]
      exact hnumber ho rfl
    · next hty =>
      rw [run'_pure] at hrun
      cases hrun
      rw [renderFragment_other (by simp [Node.kind]) (by simpa [Node.fields] using hty)]
      exact PartShows.single ho
  | @textExpr f x c o hc ho =>
    simp only [textPart, Node.kind, Node.children] at hrun
    obtain ⟨c', h₁, hc', hrest⟩ := run'_bind_inv hrun
    -- the expression's code is the one emitted from no helpers
    have hcode : c' = c := by
      rw [(expr_adds.1 x).run'_eq h] at hc'
      have h₀ : Emit.exprCode x = .ok c' := (Prod.mk.inj hc').1
      rw [hc] at h₀
      exact (Except.ok.inj h₀).symm
    subst hcode
    split at hrest
    · next hty =>
      obtain ⟨c'', h₂, hc'', hlast⟩ := run'_bind_inv hrest
      rw [numberText_run'] at hc''
      cases hc''
      rw [run'_pure] at hlast
      cases hlast
      rw [renderFragment_number (by simp [Node.kind]) (by simpa using hty)]
      exact hnumber ho rfl
    · next hty =>
      rw [run'_pure] at hrest
      cases hrest
      rw [renderFragment_other (by simp [Node.kind]) (by simpa using hty)]
      exact PartShows.single ho

/-- Encoding parts gives the pieces encoded before them, then the run being read, encoded, then
what each part shows, in order. The induction is on the parts, for every run and every list of
pieces before them. -/
theorem encodeParts_gives (hctx : env.lookup Emit.ctxName = some (.context q))
    (hl : env.lookup "encode_if_string" = none) {parts : List (Expr × Bool)}
    {rs : List (Except Raised String)}
    (hparts : List.Forall₂ (PartShows g (fuel + 3) env q) parts rs) :
    ∀ {group : Option Expr} {t : Except Raised String} {done : List Expr}
      {d : Except Raised String} {h h' : Helpers} {encoded : List Expr},
      RunGives g (fuel + 3) env group t → PiecesGive g (fuel + 3) env done d →
      (encodeParts parts group done).run' h = (.ok encoded, h') → HelperScope g h' →
      PiecesGive g (fuel + 3) env encoded
        (appendText d (appendText (htmlEscape q <$> t) (rs.foldr appendText (pure "")))) := by
  induction hparts with
  | nil =>
    intro group t done d h h' encoded ht hd hrun hs
    simp only [encodeParts, run'_pure] at hrun
    cases hrun
    simpa using hd.closeRun hctx ht
  | @cons p r ps rs hp _ ih =>
    intro group t done d h h' encoded ht hd hrun hs
    cases hp with
    | @run e te he =>
      -- the part joins the run being read
      simp only [encodeParts] at hrun
      cases group with
      | none =>
        simp only [RunGives] at ht
        subst ht
        have hrun' : RunGives g (fuel + 3) env (some e) te := he
        simpa [htmlEscape_appendText] using ih hrun' hd hrun hs
      | some g' =>
        have hrun' : RunGives g (fuel + 3) env (some (.arith .add g' e)) (appendText t te) :=
          Gives.add_text ht he
        have hpieces := ih hrun' hd hrun hs
        rw [htmlEscape_appendText, appendText_assoc] at hpieces
        exact hpieces
    | @single e o he =>
      -- the part closes the run and is encoded on its own
      simp only [encodeParts] at hrun
      obtain ⟨enc, h₁, henc, hrest⟩ := run'_bind_inv hrun
      rw [encodeIfString_run'] at henc
      cases henc
      have hs₁ := hs.mono ((encodeParts_adds _ _ _).within hrest)
      have hcall := Gives.encodeIfString (hs₁.encodeIfString (by simp [Helpers.union]))
        (hs₁.numberText (by simp [Helpers.union])) hs.builtins hl hctx he
      have hnone : RunGives g (fuel + 3) env none (pure "") := rfl
      have hpieces := ih hnone ((hd.closeRun hctx ht).snoc hcall) hrest hs
      simpa [appendText_assoc] using hpieces

/-- The parts emitted for fragments show the fragments' renderings, which join into the text the
fragments render. -/
theorem textParts_show (hl : env.lookup "number_text" = none) {nodes : List Node}
    {os : List (Except Raised Value)}
    (hos : List.Forall₂ (FragmentGives g (fuel + 3) env) nodes os) :
    ∀ {h h' : Helpers} {parts : List (Expr × Bool)},
      (nodes.mapM textPart).run' h = (.ok parts, h') → HelperScope g h' →
      ∃ rs, List.Forall₂ (PartShows g (fuel + 3) env q) parts rs ∧
        rs.foldr appendText (pure "") = renderText q (nodes.zip os) := by
  induction hos with
  | nil =>
    intro h h' parts hrun _
    rw [List.mapM_nil, run'_pure] at hrun
    cases hrun
    exact ⟨[], .nil, rfl⟩
  | @cons n o ns os hn _ ih =>
    intro h h' parts hrun hs
    rw [List.mapM_cons] at hrun
    obtain ⟨p, h₁, hp, hrest⟩ := run'_bind_inv hrun
    obtain ⟨ps, h₂, hps, hlast⟩ := run'_bind_inv hrest
    rw [run'_pure] at hlast
    cases hlast
    obtain ⟨rs, hrs, hjoin⟩ := ih hps hs
    have hs₁ := hs.mono ((Adds.mapM textPart_adds ns).within hps)
    refine ⟨_, .cons (textPart_shows hn hp hs₁ hl) hrs, ?_⟩
    rw [List.foldr_cons, hjoin, List.zip_cons_cons, renderText]

/-- The code of a text given by its fragments gives what the fragments render. -/
theorem textOfParts_gives (hctx : env.lookup Emit.ctxName = some (.context q))
    (hl : ∀ x ∈ helperNames, env.lookup x = none) {nodes : List Node}
    {os : List (Except Raised Value)}
    (hos : List.Forall₂ (FragmentGives g (fuel + 3) env) nodes os) {h h' : Helpers} {e : Expr}
    (hrun : (textOfParts nodes).run' h = (.ok e, h')) (hs : HelperScope g h') :
    Gives g none (fuel + 3) env e (Value.str <$> renderText q (nodes.zip os)) := by
  unfold textOfParts at hrun
  obtain ⟨parts, h₁, hparts, hrest⟩ := run'_bind_inv hrun
  obtain ⟨encoded, h₂, hencoded, hlast⟩ := run'_bind_inv hrest
  rw [run'_pure] at hlast
  cases hlast
  obtain ⟨rs, hrs, hjoin⟩ := textParts_show (hl "number_text" (by decide)) hos hparts
    (hs.mono ((encodeParts_adds _ _ _).within hencoded))
  have hnone : RunGives g (fuel + 3) env none (pure "") := rfl
  have hpieces := encodeParts_gives hctx (hl "encode_if_string" (by decide)) hrs hnone
    PiecesGive.nil hencoded hs
  simp only [pure_ok, map_ok, htmlEscape_empty, appendText_empty_left] at hpieces
  rw [← pure_ok, hjoin] at hpieces
  -- the text is the sum of the pieces, or the empty string when there are none
  unfold PiecesGive at hpieces
  cases hsum : Expr.sum? encoded with
  | none =>
    simp only [hsum] at hpieces
    rw [hpieces]
    exact (Evals.const env (.str "")).gives
  | some s' =>
    simp only [hsum] at hpieces
    exact hpieces

end Parts

theorem textOf_int {i : Int} (hi : i.natAbs < 10 ^ Scalar.maxDigits) :
    textOf (.scalar (.int i)) = .ok (Scalar.int i).text := by
  simp [textOf, Value.toDatum?, Datum.text?, Datum.writable, Scalar.writable, Nat.not_le.2 hi]
  rfl

/-! ## Modules bind their helpers -/

/-- The statements a definition runs. -/
def bodyOf : Stmt → List Stmt
  | .define _ _ body => body
  | _ => []

theorem numberTextDef_eq :
    numberTextDef = .define "number_text" ["value"] (bodyOf numberTextDef) := rfl

theorem encodeIfStringDef_eq :
    encodeIfStringDef = .define "encode_if_string" [ctxName, "value"] (bodyOf encodeIfStringDef) :=
  rfl

theorem plusOpDef_eq : plusOpDef = .define "plus_op" [ctxName, "lhs", "rhs"] (bodyOf plusOpDef) :=
  rfl

/-- A definition that a flag may leave out, run at the top of a module that does not bind the name
of the built-ins, binds its function, seeing the built-ins themselves, when the flag is set, and
nothing otherwise. -/
theorem run_defineIf (c : Bool) {f : String} (hf : f ≠ builtinsName) (ps : List String)
    (body : List Stmt) {env : Env} (hbi : env.lookup builtinsName = none) (fuel : Nat) :
    ∃ env', (execBody [] none true fuel (if c then [.define f ps body] else [])).run env =
        .ok (none, env') ∧ env'.lookup builtinsName = none ∧
      ∀ x, env'.lookup x = if x = f ∧ c = true then some (.closure f ps body none) else env.lookup x := by
  cases c
  · exact ⟨env, execBody_nil env, hbi, fun x => by simp⟩
  · refine ⟨env.bind f (.closure f ps body none), ?_, ?_, fun x => ?_⟩
    · rw [if_pos rfl, execBody_define, execBody_nil, if_pos rfl, hbi]
    · rw [Env.lookup_bind_ne _ hf.symm, hbi]
    · by_cases hx : x = f
      · subst hx
        simp [Env.lookup_bind_self]
      · simp [hx, Env.lookup_bind_ne _ hx]

/-- The definitions of the helpers that `h` records bind each to its definition, the last defined
looked up first, and no other name. -/
theorem run_helperDefs_lookup (h : Helpers) :
    ∃ env, (execBody [] none true defaultFuel (helperDefs h)).run [] = .ok (none, env) ∧
      ∀ x, env.lookup x =
        if x = "plus_op" ∧ h.plusOp = true then some (topClosure plusOpDef)
        else if x = "encode_if_string" ∧ h.encodeIfString = true then
          some (topClosure encodeIfStringDef)
        else if x = "number_text" ∧ h.numberText = true then some (topClosure numberTextDef)
        else none := by
  -- the three helpers are defined one after another, each when its flag is set
  obtain ⟨env₁, hrun₁, hbi₁, hlookup₁⟩ := run_defineIf h.numberText
    (show "number_text" ≠ builtinsName by decide) ["value"] (bodyOf numberTextDef)
    (show Env.lookup [] builtinsName = none from rfl) defaultFuel
  obtain ⟨env₂, hrun₂, hbi₂, hlookup₂⟩ := run_defineIf h.encodeIfString
    (show "encode_if_string" ≠ builtinsName by decide) [ctxName, "value"]
    (bodyOf encodeIfStringDef) hbi₁ defaultFuel
  obtain ⟨env₃, hrun₃, -, hlookup₃⟩ := run_defineIf h.plusOp
    (show "plus_op" ≠ builtinsName by decide) [ctxName, "lhs", "rhs"] (bodyOf plusOpDef) hbi₂
    defaultFuel
  refine ⟨env₃, ?_, fun x => ?_⟩
  · rw [helperDefs, numberTextDef_eq, encodeIfStringDef_eq, plusOpDef_eq,
      execBody_append_run ((execBody_append_run hrun₁ _).trans hrun₂), hrun₃]
  · rw [hlookup₃, hlookup₂, hlookup₁]
    rfl

/-- The definitions of the helpers bind each helper that `h` records to its definition, and no
other name. -/
theorem run_helperDefs (h : Helpers) :
    ∃ env, (execBody [] none true defaultFuel (helperDefs h)).run [] = .ok (none, env) ∧
      (h.numberText = true → env.lookup "number_text" = some (topClosure numberTextDef)) ∧
      (h.encodeIfString = true →
        env.lookup "encode_if_string" = some (topClosure encodeIfStringDef)) ∧
      ∀ x, x ∉ helperNames → env.lookup x = none := by
  obtain ⟨env, hrun, hlookup⟩ := run_helperDefs_lookup h
  refine ⟨env, hrun, fun hn => ?_, fun he => ?_, fun x hx => ?_⟩
  · simp [hlookup, hn]
  · simp [hlookup, he]
  · simp only [helperNames, List.mem_cons, List.not_mem_nil, or_false, not_or] at hx
    simp [hlookup, hx.1, hx.2.1, hx.2.2]

/-- A module of one function, defined under a name that is neither a helper nor a built-in the
helpers call, binds each helper it records to its definition. -/
theorem loadSingle_helperScope {name : String} {body : List Stmt} {h : Helpers} {l : Loaded}
    (hl : loadSingle (translationModule (.function name body) h name) name = .ok l)
    (hname : name ∉ helperNames) (hb : name ∉ guardBuiltins) : HelperScope l.globals h := by
  obtain ⟨ns, hload, hl⟩ := bind_eq_ok hl
  unfold load at hload
  obtain ⟨_, -, hload⟩ := bind_eq_ok hload
  obtain ⟨⟨r, ns'⟩, hrun, hload⟩ := bind_eq_ok hload
  cases hload
  obtain ⟨env₁, hhelpers, hnt, heis, hnone⟩ := run_helperDefs h
  have hbi : env₁.lookup builtinsName = none := hnone _ (by decide)
  simp only [translationModule, Emitted.define] at hrun
  rw [execBody_append_run hhelpers, execBody_define, execBody_nil, if_pos rfl, hbi] at hrun
  cases hrun
  simp only [Env.lookup_bind_self, pure_ok] at hl
  cases hl
  -- the function's own name is none of the names looked up
  have hne : ∀ x, (x ∈ helperNames ∨ x ∈ guardBuiltins) → x ≠ name := by
    rintro x (hx | hx) rfl
    exacts [hname hx, hb hx]
  refine ⟨fun hn => ?_, fun he => ?_, fun x hx => ?_⟩
  · rw [Env.lookup_bind_ne _ (hne _ (.inl (by decide))), hnt hn]
  · rw [Env.lookup_bind_ne _ (hne _ (.inl (by decide))), heis he]
  · have hdisjoint : ∀ y ∈ guardBuiltins, y ∉ helperNames := by decide
    rw [Env.lookup_bind_ne _ (hne _ (.inr hx)), hnone x (hdisjoint x hx)]

end Emit

end Lingo

namespace Lingo

open Code

end Lingo
