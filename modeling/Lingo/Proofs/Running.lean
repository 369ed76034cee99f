import Lingo.Code.Eval

/-!
# Running emitted code, step by step

`Code.Evals g bi fuel env e v env'` says that expression `e`, run from the local variables `env`,
gives `v` and leaves `env'`. The lemmas here build it up constructor by constructor, from names,
literals, attributes, calls, comparisons and connectives, so that a proof about a piece of emitted
code follows the code's shape and never unfolds the interpreter. The statement lemmas do the
same for bodies: a body is run statement by statement, and a body made of two parts runs the
second only when the first falls through (`execBody_append`).
-/

namespace Lingo

namespace Code

section

variable {g : Env} {bi : Option Value} {fuel : Nat}

@[simp] theorem ok_bind {ε α β : Type} (a : α) (f : α → Except ε β) :
    (Except.ok a >>= f) = f a := rfl

theorem error_bind {ε α β : Type} (e : ε) (f : α → Except ε β) :
    (Except.error e >>= f) = .error e := rfl

@[simp] theorem pure_ok {ε α : Type} (a : α) : (pure a : Except ε α) = .ok a := rfl

@[simp] theorem fail_error {α : Type} (kind message : String) :
    (fail kind message : Except Raised α) = .error ⟨kind, message⟩ := rfl

@[simp] theorem map_error {ε α β : Type} (f : α → β) (e : ε) :
    (f <$> (Except.error e : Except ε α)) = .error e := rfl

theorem apply_builtin (b : Builtin) (args : List Value) :
    apply g (fuel + 1) (.builtin b) args = callBuiltin b args := by
  rw [apply]

theorem apply_method (recv : Value) (m : String) (args : List Value) :
    apply g (fuel + 1) (.method recv m) args = callMethod recv m args := by
  rw [apply]

/-- A successful step made of two steps: both succeeded. -/
theorem bind_eq_ok {ε α β : Type} {x : Except ε α} {f : α → Except ε β} {b : β}
    (h : (x >>= f) = .ok b) : ∃ a, x = .ok a ∧ f a = .ok b := by
  cases x with
  | error e => cases h
  | ok a => exact ⟨a, rfl, h⟩

theorem Env.lookup_bind_self (env : Env) (x : String) (v : Value) :
    (env.bind x v).lookup x = some v := by
  simp [Env.bind, Env.lookup]

theorem Env.lookup_bind_ne {env : Env} {x y : String} (v : Value) (h : y ≠ x) :
    (env.bind x v).lookup y = env.lookup y := by
  have hxy : (x == y) = false := by simpa using fun h' => h h'.symm
  -- the binding filtered out only entries named `x`, which `y` does not match
  have hfilter : (env.filter (·.1 != x)).find? (·.1 == y) = env.find? (·.1 == y) := by
    rw [List.find?_filter]
    congr 1
    funext e
    by_cases hey : e.1 = y <;> simp [hey, h]
  simp only [Env.bind, Env.lookup, List.find?_cons, hxy, hfilter]

/-- A name bound after a binding is the name just bound or one bound before. -/
theorem Env.bound_of_bind {env : Env} {x y : String} {v : Value}
    (h : ((env.bind x v).lookup y).isSome) : y = x ∨ (env.lookup y).isSome := by
  by_cases hy : y = x
  · exact .inl hy
  · rw [Env.lookup_bind_ne v hy] at h
    exact .inr h

@[simp] theorem truthy_ofBool (b : Bool) : (Value.ofBool b).truthy = b := rfl

/-- Expression `e`, run from the local variables `env`, gives `v` and leaves `env'`. -/
def Evals (g : Env) (bi : Option Value) (fuel : Nat) (env : Env) (e : Expr) (v : Value)
    (env' : Env) : Prop :=
  (evalExpr g bi fuel e).run env = .ok (v, env')

/-- The expressions `es`, run in order from `env`, give `vs` and leave `env'`. -/
def EvalsAll (g : Env) (bi : Option Value) (fuel : Nat) (env : Env) (es : List Expr)
    (vs : List Value) (env' : Env) : Prop :=
  (evalExprs g bi fuel es).run env = .ok (vs, env')

theorem Evals.const (env : Env) (d : Datum) :
    Evals g bi fuel env (.const d) (Value.ofDatum d) env := by
  simp only [Evals, evalExpr]
  rfl

/-- A name bound among the local variables is read from them. -/
theorem Evals.local {env : Env} {x : String} {v : Value} (h : env.lookup x = some v) :
    Evals g bi fuel env (.name x) v env := by
  simp only [Evals, evalExpr, StateT.run_bind, StateT.run_get, pure_bind, h]
  rfl

/-- A name bound neither locally nor in the module is a built-in. -/
theorem Evals.builtin {env : Env} {x : String} {b : Builtin} (h : env.lookup x = none)
    (hg : g.lookup x = none) (hb : Builtin.ofName? x = some b) :
    Evals g none fuel env (.name x) (.builtin b) env := by
  simp only [Evals, evalExpr, StateT.run_bind, StateT.run_get, pure_bind, h, hg, attempt,
    lookupBuiltin, hb]
  rfl

theorem Evals.attr {env env' : Env} {o : Expr} {w r : Value} {f : String}
    (ho : Evals g bi fuel env o w env') (hf : getAttr w f = .ok r) :
    Evals g bi fuel env (.attr o f) r env' := by
  simp only [Evals, evalExpr, StateT.run_bind, attempt] at ho ⊢
  rw [ho]
  simp only [ok_bind, StateT.run_lift, hf]
  rfl

theorem Evals.call {env env₁ env₂ : Env} {f : Expr} {args : List Expr} {fv r : Value}
    {avs : List Value} (hf : Evals g bi fuel env f fv env₁)
    (ha : EvalsAll g bi fuel env₁ args avs env₂) (happ : apply g fuel fv avs = .ok r) :
    Evals g bi fuel env (.call f args) r env₂ := by
  simp only [Evals, EvalsAll, evalExpr, StateT.run_bind, attempt] at hf ha ⊢
  rw [hf]
  simp only [ok_bind, ha, StateT.run_lift, happ]
  rfl

theorem Evals.not {env env' : Env} {e : Expr} {v : Value} (h : Evals g bi fuel env e v env') :
    Evals g bi fuel env (.not e) (.ofBool !v.truthy) env' := by
  simp only [Evals, evalExpr, StateT.run_bind] at h ⊢
  rw [h]
  rfl

theorem Evals.compare {env env₁ env₂ : Env} {l r : Expr} {op : CmpOp} {a b c : Value}
    (hl : Evals g bi fuel env l a env₁) (hr : Evals g bi fuel env₁ r b env₂)
    (hc : compareValues op a b = .ok c) : Evals g bi fuel env (.compare l op r) c env₂ := by
  simp only [Evals, evalExpr, StateT.run_bind, attempt] at hl hr ⊢
  rw [hl]
  simp only [ok_bind, hr, StateT.run_lift, hc]
  rfl

/-- A bound expression gives its value and binds it. -/
theorem Evals.bind {env env' : Env} {x : String} {e : Expr} {v : Value}
    (h : Evals g bi fuel env e v env') : Evals g bi fuel env (.bind x e) v (env'.bind x v) := by
  simp only [Evals, evalExpr, StateT.run_bind] at h ⊢
  rw [h]
  rfl

theorem Evals.tuple {env env' : Env} {items : List Expr} {vs : List Value}
    (h : EvalsAll g bi fuel env items vs env') : Evals g bi fuel env (.tuple items) (.tuple vs) env' := by
  simp only [Evals, EvalsAll, evalExpr, StateT.run_bind] at h ⊢
  rw [h]
  rfl

theorem EvalsAll.nil (env : Env) : EvalsAll g bi fuel env [] [] env := by
  simp only [EvalsAll, evalExprs]
  rfl

theorem EvalsAll.cons {env env₁ env₂ : Env} {e : Expr} {es : List Expr} {v : Value}
    {vs : List Value} (he : Evals g bi fuel env e v env₁) (hes : EvalsAll g bi fuel env₁ es vs env₂) :
    EvalsAll g bi fuel env (e :: es) (v :: vs) env₂ := by
  simp only [Evals, EvalsAll, evalExprs, StateT.run_bind] at he hes ⊢
  rw [he]
  simp only [ok_bind, hes]
  rfl

/-- A connective over one operand is that operand. -/
theorem Evals.logic_single {env env' : Env} {op : Conn} {e : Expr} {v : Value}
    (h : Evals g bi fuel env e v env') : Evals g bi fuel env (.logic op [e]) v env' := by
  simp only [Evals, evalExpr, evalLogic] at h ⊢
  exact h

/-- An operand that decides a connective is its value; the operands after it are not run. -/
theorem Evals.logic_decide {env env' : Env} {op : Conn} {e e' : Expr} {es : List Expr}
    {v : Value} (h : Evals g bi fuel env e v env') (hd : ((op == .conj) != v.truthy) = true) :
    Evals g bi fuel env (.logic op (e :: e' :: es)) v env' := by
  simp only [Evals, evalExpr, evalLogic, StateT.run_bind] at h ⊢
  rw [h]
  simp only [ok_bind, hd, if_true]
  rfl

/-- An operand that does not decide a connective hands it to the operands after it. -/
theorem Evals.logic_continue {env env₁ env₂ : Env} {op : Conn} {e e' : Expr} {es : List Expr}
    {v w : Value} (h : Evals g bi fuel env e v env₁) (hd : ((op == .conj) != v.truthy) = false)
    (hrest : Evals g bi fuel env₁ (.logic op (e' :: es)) w env₂) :
    Evals g bi fuel env (.logic op (e :: e' :: es)) w env₂ := by
  simp only [Evals, evalExpr, evalLogic, StateT.run_bind] at h hrest ⊢
  rw [h]
  simp only [ok_bind, hd, Bool.false_eq_true, if_false]
  exact hrest

/-- Two truth values joined by `and`; the second operand runs only when the first holds. -/
theorem Evals.conj_bool {env env₁ : Env} {e₁ e₂ : Expr} {a b : Bool}
    (h₁ : Evals g bi fuel env e₁ (.ofBool a) env₁) (h₂ : Evals g bi fuel env₁ e₂ (.ofBool b) env₁) :
    Evals g bi fuel env (.logic .conj [e₁, e₂]) (.ofBool (a && b)) env₁ := by
  cases a with
  | false => exact Evals.logic_decide h₁ rfl
  | true => exact Evals.logic_continue h₁ rfl (Evals.logic_single h₂)

/-- Two truth values joined by `or`; the second operand runs only when the first fails. -/
theorem Evals.disj_bool {env env₁ : Env} {e₁ e₂ : Expr} {a b : Bool}
    (h₁ : Evals g bi fuel env e₁ (.ofBool a) env₁) (h₂ : Evals g bi fuel env₁ e₂ (.ofBool b) env₁) :
    Evals g bi fuel env (.logic .disj [e₁, e₂]) (.ofBool (a || b)) env₁ := by
  cases a with
  | true => exact Evals.logic_decide h₁ rfl
  | false => exact Evals.logic_continue h₁ rfl (Evals.logic_single h₂)

variable {top : Bool}

/-- A body made of two parts runs the second only when the first falls through. -/
theorem execBody_append (l₁ l₂ : List Stmt) :
    execBody g bi top fuel (l₁ ++ l₂) = (do
      match ← execBody g bi top fuel l₁ with
      | some r => pure (some r)
      | none => execBody g bi top fuel l₂) := by
  induction l₁ with
  | nil => simp [execBody]
  | cons s rest ih =>
    cases s with
    | ifThen t body =>
      simp only [List.cons_append, execBody, bind_assoc, ih]
      congr 1
      funext v
      split
      · simp only [bind_assoc]
        congr 1
        funext r
        cases r <;> simp
      · rfl
    | ret e => simp [execBody]
    | raise e =>
      simp only [List.cons_append, execBody, bind_assoc]
      congr 1
    | assign x e => simp [execBody, ih]
    | define f ps body => simp [execBody, ih]

theorem execBody_nil (env : Env) : (execBody g bi top fuel []).run env = .ok (none, env) := by
  simp only [execBody]
  rfl

/-- A first part that falls through hands its variables to the second. -/
theorem execBody_append_run {l₁ : List Stmt} {env env₁ : Env}
    (h : (execBody g bi top fuel l₁).run env = .ok (none, env₁)) (l₂ : List Stmt) :
    (execBody g bi top fuel (l₁ ++ l₂)).run env = (execBody g bi top fuel l₂).run env₁ := by
  rw [execBody_append, StateT.run_bind, h]
  rfl

/-- A definition binds a function that captures where built-ins are looked up: the binding of
`__builtins__` of the module at the top, and that of `g` inside a function. -/
theorem execBody_define (env : Env) (f : String) (ps : List String) (body rest : List Stmt) :
    (execBody g bi top fuel (.define f ps body :: rest)).run env =
      (execBody g bi top fuel rest).run (env.bind f (.closure f ps body
        (if top then env.lookup builtinsName else g.lookup builtinsName))) := by
  simp only [execBody, StateT.run_bind, StateT.run_get, StateT.run_modify, pure_bind]

/-- A test that does not hold skips its body. -/
theorem execBody_ifThen_false {env env' : Env} {t : Expr} {v : Value}
    (ht : Evals g bi fuel env t v env') (hv : v.truthy = false) (body rest : List Stmt) :
    (execBody g bi top fuel (.ifThen t body :: rest)).run env =
      (execBody g bi top fuel rest).run env' := by
  simp only [Evals] at ht
  simp only [execBody, StateT.run_bind, ht, ok_bind, hv, Bool.false_eq_true, if_false]

/-- A test that holds runs its body, and the statements after it when the body falls through. -/
theorem execBody_ifThen_true {env env' : Env} {t : Expr} {v : Value}
    (ht : Evals g bi fuel env t v env') (hv : v.truthy = true) (body rest : List Stmt) :
    (execBody g bi top fuel (.ifThen t body :: rest)).run env =
      (execBody g bi top fuel (body ++ rest)).run env' := by
  simp only [Evals] at ht
  rw [execBody_append]
  -- both sides go on as the body ends
  cases hb : (execBody g bi top fuel body).run env' with
  | error e => simp only [execBody, StateT.run_bind, ht, ok_bind, hv, if_true, hb, error_bind]
  | ok p =>
    obtain ⟨r, env''⟩ := p
    cases r <;> simp only [execBody, StateT.run_bind, ht, ok_bind, hv, if_true, hb]

theorem execBody_raise {env env' : Env} {e : Expr} {v : Value}
    (h : Evals g bi fuel env e v env') (rest : List Stmt) :
    (execBody g bi top fuel (.raise e :: rest)).run env = .error (raisedOf v) := by
  simp only [Evals] at h
  simp only [execBody, StateT.run_bind, h, ok_bind]
  rfl

theorem execBody_ret {env env' : Env} {e : Expr} {v : Value}
    (h : Evals g bi fuel env e v env') (rest : List Stmt) :
    (execBody g bi top fuel (.ret e :: rest)).run env = .ok (some v, env') := by
  simp only [Evals] at h
  simp only [execBody, StateT.run_bind, h, ok_bind]
  rfl

end

end Code

end Lingo
