import Lingo.Proofs.Emission
import Lingo.Proofs.Recording
import Lingo.Proofs.Running

/-!
# What the type guards check

A compiled function starts with one guard per variable of its type map, in the order the map first
saw them, and one per function. `Ty.admits` states the runtime domain of each type as a fact about
values, without the code: any value for `unknown`, text (a string or safe text) for `string` and
`enum`, a number (an integer or a double, never a truth value) for `number`, a number or text for
`number-or-string`, and one of the strings `M`, `F`, `N` for `gender`.

The main statement, `runGuards`, says that running the guards raises the `TypeError` of the first
variable whose parameter lies outside its type's domain, else that of the first function that
cannot be called, and otherwise falls through to the rest of the body. It holds whenever the
built-ins the guards read are not shadowed (`GuardEnv`).
-/

namespace Lingo

namespace Code

namespace Value

/-- Text as a parameter: a string, or text already safe. -/
def isText : Value → Bool
  | scalar (.str _) | safe _ => true
  | _ => false

/-- A number as a parameter: an integer or a double, never a truth value. -/
def isNumber : Value → Bool
  | scalar (.int _) | scalar (.float _) => true
  | _ => false

/-- Text already safe, as the output context tells it. -/
def isSafe : Value → Bool
  | safe _ => true
  | _ => false

end Value

/-- The value a dictionary of parameters holds under a name; `none` when it holds none. -/
def paramOf (ps : List (String × Value)) (v : Datum) : Option Value := lookupKey ps (Value.ofDatum v)

theorem Builtin.ofName?_name (b : Builtin) : Builtin.ofName? b.name = some b := by
  cases b <;> rfl

end Code

/-- Whether a parameter value, `none` for a missing parameter, lies in the runtime domain of a
type. -/
def Ty.admits : Ty → Option Code.Value → Bool
  | .unknown, v => v.isSome
  | .string, some v | .enum, some v => v.isText
  | .number, some v => v.isNumber
  | .numberOrString, some v => v.isNumber || v.isText
  | .gender, some (.scalar (.str s)) => s == "M" || s == "F" || s == "N"
  | _, _ => false

namespace Code

/-- The built-ins the guards read. -/
def guardBuiltins : List String := ["isinstance", "callable", "TypeError", "str", "int", "float", "bool"]

/-- Local variables `env` and module `g` that shadow none of the built-ins the guards read. -/
def Unshadowed (g env : Env) : Prop := ∀ x ∈ guardBuiltins, env.lookup x = none ∧ g.lookup x = none

/-- The local variables of a running translation function, in module `g`: the parameters `ps`,
the functions `fs` and an output context, with none of the built-ins the guards read shadowed,
locally or in the module. -/
structure GuardEnv (g : Env) (ps fs : List (String × Value)) (q : Bool) (env : Env) : Prop where
  params : env.lookup "params" = some (.dict ps)
  fns : env.lookup "fns" = some (.dict fs)
  ctx : env.lookup "ctx" = some (.context q)
  builtins : ∀ x ∈ guardBuiltins, env.lookup x = none ∧ g.lookup x = none

/-- Binding the scratch variable keeps the guards' view of the variables. -/
theorem GuardEnv.bind_scratch {g env : Env} {ps fs : List (String × Value)} {q : Bool}
    (h : GuardEnv g ps fs q env) (v : Value) : GuardEnv g ps fs q (env.bind "_" v) where
  params := by rw [Env.lookup_bind_ne v (by decide)]; exact h.params
  fns := by rw [Env.lookup_bind_ne v (by decide)]; exact h.fns
  ctx := by rw [Env.lookup_bind_ne v (by decide)]; exact h.ctx
  builtins x hx := by
    refine ⟨?_, (h.builtins x hx).2⟩
    have hne : x ≠ "_" := by
      simp only [guardBuiltins, List.mem_cons, List.not_mem_nil, or_false] at hx
      rcases hx with rfl | rfl | rfl | rfl | rfl | rfl | rfl <;> decide
    rw [Env.lookup_bind_ne v hne]
    exact (h.builtins x hx).1

theorem instanceOf_builtin (w : Value) {b : Builtin} (hb : b.isType = true) :
    instanceOf w (.builtin b) = .ok (isInstance w b) := by
  simp [instanceOf, hb]

/-- A type test against a tuple of types accepts a value when one of them does. -/
theorem instanceOfAny_builtins (w : Value) {bs : List Builtin} (hbs : ∀ b ∈ bs, b.isType = true) :
    instanceOfAny w (bs.map .builtin) = .ok (bs.any (isInstance w)) := by
  induction bs with
  | nil => rfl
  | cons b bs ih =>
    have hrest := ih fun b' hb' => hbs b' (List.mem_cons_of_mem _ hb')
    simp only [List.map_cons, instanceOfAny, instanceOf_builtin w (hbs b List.mem_cons_self)]
    cases hb : isInstance w b <;> simp [hb, hrest]

/-- Membership among the three genders is the domain of `gender`. -/
theorem any_genders (w : Value) :
    [Value.str "M", Value.str "F", Value.str "N"].any w.equal = Ty.gender.admits (some w) := by
  cases w with
  | scalar s =>
    cases s <;> simp [Value.str, Value.equal, Scalar.sameValue, Scalar.num?, Ty.admits, Bool.or_assoc]
  | _ => rfl

/-- A parameter name is in the parameters exactly when a lookup finds it. -/
theorem contains_params (ps : List (String × Value)) {v : Datum} (hv : v.unhashable? = none) :
    contains (.dict ps) (Value.ofDatum v) = .ok (paramOf ps v).isSome := by
  cases v with
  | scalar s =>
    cases s with
    | str s =>
      simp only [Value.ofDatum, contains, paramOf, lookupKey, Option.isSome_map, List.isSome_find?, pure_ok]
    | _ => rfl
  | safe s => rfl
  | list items => simp [Datum.unhashable?] at hv
  | dict entries => simp [Datum.unhashable?] at hv

/-- A missing parameter reads as `None`, which no type but `unknown` admits. -/
theorem admits_getD {t : Ty} (ht : t ≠ .unknown) (o : Option Value) :
    t.admits (some (o.getD .none)) = t.admits o := by
  cases o with
  | none => cases t <;> first | exact absurd rfl ht | rfl
  | some w => rfl

/-- The test of a string: neither a string nor safe text. -/
theorem text_test (w : Value) : (!([Builtin.str].any (isInstance w)) && !w.isSafe) = !w.isText := by
  cases w with
  | scalar s => cases s <;> rfl
  | _ => rfl

/-- The test of a number: not an integer or a double, or a truth value. -/
theorem number_test (w : Value) :
    (!([Builtin.int, .float].any (isInstance w)) || [Builtin.bool].any (isInstance w)) =
      !w.isNumber := by
  cases w with
  | scalar s => cases s <;> rfl
  | _ => rfl

/-- The test of a number or a string: not a string, integer or double that is no truth value, and
not safe text. -/
theorem numberOrString_test (w : Value) :
    (!(([Builtin.str, .int, .float].any (isInstance w) && !([Builtin.bool].any (isInstance w))) ||
      w.isSafe)) = !(w.isNumber || w.isText) := by
  cases w with
  | scalar s => cases s <;> rfl
  | _ => rfl

theorem callContext_isSafe (q : Bool) (w : Value) :
    callContext q "is_safe_string" [w] = .ok (.ofBool w.isSafe) := by
  cases w <;> rfl

section

variable {g : Env} {ps fs : List (String × Value)} {q : Bool} {env env' : Env} {fuel : Nat}

/-- A built-in the guards read is the built-in itself where no variable shadows it. -/
theorem Unshadowed.evals_builtin (h : Unshadowed g env) {b : Builtin}
    (hb : b.name ∈ guardBuiltins) : Evals g none fuel env (.name b.name) (.builtin b) env :=
  Evals.builtin (h _ hb).1 (h _ hb).2 (Builtin.ofName?_name b)

theorem Unshadowed.evalsAll_builtins (h : Unshadowed g env) {bs : List Builtin}
    (hbs : ∀ b ∈ bs, b.name ∈ guardBuiltins) :
    EvalsAll g none fuel env ((bs.map Builtin.name).map Expr.name) (bs.map .builtin) env := by
  induction bs with
  | nil => exact EvalsAll.nil env
  | cons b bs ih =>
    exact EvalsAll.cons (h.evals_builtin (hbs b List.mem_cons_self))
      (ih fun b' hb' => hbs b' (List.mem_cons_of_mem _ hb'))

theorem GuardEnv.evals_builtin (h : GuardEnv g ps fs q env) {b : Builtin}
    (hb : b.name ∈ guardBuiltins) : Evals g none fuel env (.name b.name) (.builtin b) env :=
  Unshadowed.evals_builtin h.builtins hb

/-- `d.get(k)` on a dictionary gives the value under `k`, or `None`. -/
theorem Evals.dictGet {bi : Option Value} {x : String} {ds : List (String × Value)}
    (hx : env.lookup x = some (.dict ds)) (v : Datum) :
    Evals g bi (fuel + 1) env (Expr.method (.name x) "get" [Emit.keyOf v])
      ((paramOf ds v).getD .none) env :=
  Evals.call (Evals.attr (Evals.local hx) rfl) (EvalsAll.cons (Evals.const env v) (EvalsAll.nil env))
    (by rw [apply_method]; rfl)

/-- `ctx.is_safe_string(e)` tells whether the value of `e` is safe text. -/
theorem Evals.isSafeString {bi : Option Value} {e : Expr} {w : Value}
    (hc : env.lookup Emit.ctxName = some (.context q)) (he : Evals g bi (fuel + 1) env e w env') :
    Evals g bi (fuel + 1) env (Emit.ctxMethod "is_safe_string" [e]) (.ofBool w.isSafe) env' :=
  Evals.call (Evals.attr (Evals.local hc) rfl) (EvalsAll.cons he (EvalsAll.nil env'))
    (by rw [apply_method]; exact callContext_isSafe q w)

/-- `isinstance(e, c)`, for a class argument `c` that a type test reads as `r`. -/
theorem Evals.isinstance (h : Unshadowed g env) {e c : Expr} {w cv : Value} {r : Bool}
    (he : Evals g none (fuel + 1) env e w env') (hc : Evals g none (fuel + 1) env' c cv env')
    (hr : instanceOf w cv = .ok r) :
    Evals g none (fuel + 1) env (Expr.callName "isinstance" [e, c]) (.ofBool r) env' :=
  Evals.call (h.evals_builtin (b := .isinstance) (by decide))
    (EvalsAll.cons he (EvalsAll.cons hc (EvalsAll.nil env')))
    (by rw [apply_builtin]; simp only [callBuiltin, hr]; rfl)

/-- The type test the guards write accepts a value when one of the named types does. -/
theorem Evals.isinstanceOf (h : Unshadowed g env) (h' : Unshadowed g env')
    {e : Expr} {w : Value} (he : Evals g none (fuel + 1) env e w env') (bs : List Builtin)
    (hbs : ∀ b ∈ bs, b.isType = true ∧ b.name ∈ guardBuiltins) :
    Evals g none (fuel + 1) env (Emit.isinstanceOf e (bs.map Builtin.name))
      (.ofBool (bs.any (isInstance w))) env' := by
  have htypes : ∀ b ∈ bs, b.isType = true := fun b hb => (hbs b hb).1
  have hnames : ∀ b ∈ bs, b.name ∈ guardBuiltins := fun b hb => (hbs b hb).2
  -- one type is named alone, any other number of them as a tuple
  have htuple : Evals g none (fuel + 1) env
      (Expr.callName "isinstance" [e, .tuple ((bs.map Builtin.name).map Expr.name)])
      (.ofBool (bs.any (isInstance w))) env' :=
    Evals.isinstance h he (Evals.tuple (h'.evalsAll_builtins hnames))
      (instanceOfAny_builtins w htypes)
  match bs, htypes, hnames, htuple with
  | [b], htypes, hnames, _ =>
    have hone := Evals.isinstance h he (h'.evals_builtin (hnames b List.mem_cons_self))
      (instanceOf_builtin w (htypes b List.mem_cons_self))
    simpa [Emit.isinstanceOf] using hone
  | [], _, _, htuple => exact htuple
  | _ :: _ :: _, _, _, htuple => exact htuple

end

/-- `e` tests whether parameter `v` falls outside type `t`: run where the guards' names are not
shadowed, it gives that truth value and binds nothing but the scratch variable. -/
def TestsType (v : Datum) (t : Ty) (e : Expr) : Prop :=
  ∀ {g : Env} {ps fs : List (String × Value)} {q : Bool} {env : Env} {fuel : Nat},
    GuardEnv g ps fs q env → ∃ env',
      Evals g none (fuel + 1) env e (.ofBool !(t.admits (paramOf ps v))) env' ∧
      GuardEnv g ps fs q env' ∧ ∀ x, x ≠ Emit.scratchName → env'.lookup x = env.lookup x

theorem testsType_unknown {v : Datum} (hv : v.unhashable? = none) :
    TestsType v .unknown (.compare (Emit.keyOf v) .notIn (.name Emit.paramsName)) := by
  intro g ps fs q env fuel h
  refine ⟨env, Evals.compare (Evals.const env v) (Evals.local h.params) ?_, h, fun _ _ => rfl⟩
  simp only [compareValues, contains_params ps hv]
  rfl

theorem testsType_text {v : Datum} {t : Ty} (ht : t = .string ∨ t = .enum) :
    TestsType v t (.logic .conj [.not (Emit.isinstanceOf (Emit.paramGet v) ["str"]),
      .not (Emit.ctxMethod "is_safe_string" [Emit.paramGet v])]) := by
  intro g ps fs q env fuel h
  have hget : Evals g none (fuel + 1) env (Emit.paramGet v) ((paramOf ps v).getD .none) env :=
    Evals.dictGet h.params v
  have hstr := Evals.not (Evals.isinstanceOf h.builtins h.builtins hget [.str] (by decide))
  have hsafe := Evals.not (Evals.isSafeString h.ctx hget)
  simp only [truthy_ofBool] at hstr hsafe
  have hval : (!([Builtin.str].any (isInstance ((paramOf ps v).getD .none))) &&
      !((paramOf ps v).getD .none).isSafe) = !(t.admits (paramOf ps v)) := by
    have hne : t ≠ .unknown := by rcases ht with rfl | rfl <;> decide
    rw [← admits_getD hne]
    rcases ht with rfl | rfl <;> exact text_test _
  refine ⟨env, ?_, h, fun _ _ => rfl⟩
  rw [← hval]
  exact Evals.conj_bool hstr hsafe

theorem testsType_number {v : Datum} :
    TestsType v .number (.logic .disj [.not (Emit.isinstanceOf (Emit.paramGet v) ["int", "float"]),
      Emit.isinstanceOf (Emit.paramGet v) ["bool"]]) := by
  intro g ps fs q env fuel h
  have hget : Evals g none (fuel + 1) env (Emit.paramGet v) ((paramOf ps v).getD .none) env :=
    Evals.dictGet h.params v
  have hnum := Evals.not (Evals.isinstanceOf h.builtins h.builtins hget [.int, .float] (by decide))
  have hbool := Evals.isinstanceOf h.builtins h.builtins hget [.bool] (by decide)
  simp only [truthy_ofBool] at hnum
  have hval : (!([Builtin.int, .float].any (isInstance ((paramOf ps v).getD .none))) ||
      [Builtin.bool].any (isInstance ((paramOf ps v).getD .none))) =
      !(Ty.number.admits (paramOf ps v)) := by
    rw [← admits_getD (by decide)]
    exact number_test _
  refine ⟨env, ?_, h, fun _ _ => rfl⟩
  rw [← hval]
  exact Evals.disj_bool hnum hbool

/-- The test of a number or a string reads the parameter once, into the scratch variable. -/
theorem testsType_numberOrString {v : Datum} :
    TestsType v .numberOrString
      (.not (.logic .disj
        [.logic .conj
          [Emit.isinstanceOf (.bind Emit.scratchName (Emit.paramGet v)) ["str", "int", "float"],
           .not (Emit.isinstanceOf (.name Emit.scratchName) ["bool"])],
         Emit.ctxMethod "is_safe_string" [.name Emit.scratchName]])) := by
  intro g ps fs q env fuel h
  let w := (paramOf ps v).getD .none
  have h₁ : GuardEnv g ps fs q (env.bind Emit.scratchName w) := h.bind_scratch w
  have hbind : Evals g none (fuel + 1) env (.bind Emit.scratchName (Emit.paramGet v)) w
      (env.bind Emit.scratchName w) :=
    Evals.bind (Evals.dictGet h.params v)
  have hscratch : Evals g none (fuel + 1) (env.bind Emit.scratchName w) (.name Emit.scratchName) w
      (env.bind Emit.scratchName w) :=
    Evals.local (Env.lookup_bind_self env _ w)
  have hany := Evals.isinstanceOf h.builtins h₁.builtins hbind [.str, .int, .float] (by decide)
  have hbool := Evals.not (Evals.isinstanceOf h₁.builtins h₁.builtins hscratch [.bool] (by decide))
  have hsafe := Evals.isSafeString h₁.ctx hscratch
  simp only [truthy_ofBool] at hbool
  have hval : (!(([Builtin.str, .int, .float].any (isInstance w) &&
      !([Builtin.bool].any (isInstance w))) || w.isSafe)) =
      !(Ty.numberOrString.admits (paramOf ps v)) := by
    rw [← admits_getD (by decide)]
    exact numberOrString_test _
  refine ⟨env.bind Emit.scratchName w, ?_, h₁, fun x hx => Env.lookup_bind_ne w hx⟩
  have htest := Evals.not (Evals.disj_bool (Evals.conj_bool hany hbool) hsafe)
  simp only [truthy_ofBool] at htest
  rw [← hval]
  exact htest

theorem testsType_gender {v : Datum} :
    TestsType v .gender (.compare (Emit.paramGet v) .notIn (.tuple [.str "M", .str "F", .str "N"])) := by
  intro g ps fs q env fuel h
  have hitems : EvalsAll g none (fuel + 1) env [.str "M", .str "F", .str "N"]
      [Value.str "M", Value.str "F", Value.str "N"] env :=
    .cons (Evals.const env _) (.cons (Evals.const env _) (.cons (Evals.const env _) (.nil env)))
  refine ⟨env, Evals.compare (Evals.dictGet h.params v) (Evals.tuple hitems) ?_, h, fun _ _ => rfl⟩
  simp only [compareValues, contains, any_genders, admits_getD (t := .gender) (by decide)]
  rfl

/-- Every test the guards emit for a type is a test of that type; a variable of conflicting type
gets no test at all. -/
theorem failsType_tests {v : Datum} {t : Ty} {h h' : Helpers} {e : Expr}
    (hv : v.unhashable? = none) (he : (Emit.failsType v t).run' h = (.ok e, h')) :
    TestsType v t e := by
  cases t with
  | unknown =>
    rw [Emit.failsType, EmitM.run'_pure] at he
    cases he
    exact testsType_unknown hv
  | string =>
    rw [Emit.failsType, EmitM.run'_pure] at he
    cases he
    exact testsType_text (.inl rfl)
  | enum =>
    rw [Emit.failsType, EmitM.run'_pure] at he
    cases he
    exact testsType_text (.inr rfl)
  | number =>
    rw [Emit.failsType, EmitM.run'_pure] at he
    cases he
    exact testsType_number
  | numberOrString =>
    rw [Emit.failsType] at he
    obtain ⟨_, _, -, hpure⟩ := EmitM.run'_bind_inv he
    rw [EmitM.run'_pure] at hpure
    cases hpure
    exact testsType_numberOrString
  | gender =>
    rw [Emit.failsType, EmitM.run'_pure] at he
    cases he
    exact testsType_gender
  | error =>
    rw [Emit.failsType, EmitM.run'_throw] at he
    cases he

section

variable {g : Env} {ps fs : List (String × Value)} {q top : Bool} {env env' : Env} {fuel : Nat}

/-- `raise TypeError(m)` raises a `TypeError` with message `m`. -/
theorem execBody_raiseTypeError (h : GuardEnv g ps fs q env) (msg : String) (rest : List Stmt) :
    (execBody g none top (fuel + 1) (Emit.raiseTypeError msg :: rest)).run env =
      .error ⟨"TypeError", msg⟩ := by
  have hraise : Evals g none (fuel + 1) env (Expr.callName "TypeError" [.str msg])
      (.exception "TypeError" msg) env :=
    Evals.call (h.evals_builtin (b := .typeError) (by decide))
      (EvalsAll.cons (Evals.const env _) (EvalsAll.nil env))
      (by rw [apply_builtin]; simp [callBuiltin, Datum.str, Value.ofDatum, Value.text, Scalar.text])
  exact execBody_raise hraise rest

/-- A guard raises its `TypeError` exactly when its test holds, and otherwise runs on. -/
theorem execBody_guard (h' : GuardEnv g ps fs q env') {test : Expr} {b : Bool}
    (ht : Evals g none (fuel + 1) env test (.ofBool b) env') (msg : String) (rest : List Stmt) :
    (execBody g none top (fuel + 1) (.ifThen test [Emit.raiseTypeError msg] :: rest)).run env =
      if b then .error ⟨"TypeError", msg⟩ else (execBody g none top (fuel + 1) rest).run env' := by
  cases b with
  | false => exact execBody_ifThen_false ht rfl _ rest
  | true =>
    rw [execBody_ifThen_true ht rfl]
    exact execBody_raiseTypeError h' msg _

/-- The test of a function guard: `fns.get(f)` cannot be called. -/
theorem Evals.uncallable (h : GuardEnv g ps fs q env) (f : Datum) :
    Evals g none (fuel + 1) env
      (.not (Expr.callName "callable" [Expr.method (.name Emit.fnsName) "get" [Emit.keyOf f]]))
      (.ofBool !((paramOf fs f).any Value.isCallable)) env := by
  have hcall : Evals g none (fuel + 1) env
      (Expr.callName "callable" [Expr.method (.name Emit.fnsName) "get" [Emit.keyOf f]])
      (.ofBool ((paramOf fs f).getD .none).isCallable) env :=
    Evals.call (h.evals_builtin (b := .callable) (by decide))
      (EvalsAll.cons (Evals.dictGet h.fns f) (EvalsAll.nil env)) (by rw [apply_builtin]; rfl)
  have hany : ((paramOf fs f).getD .none).isCallable = (paramOf fs f).any Value.isCallable := by
    cases paramOf fs f <;> rfl
  simpa only [truthy_ofBool, hany] using Evals.not hcall

/-- The guards of the variables `vs` raise the `TypeError` of the first variable outside its
type's domain, and otherwise run on with at most the scratch variable bound. -/
theorem run_varGuards {vs : List (Datum × VarInfo)} {gs : List Stmt}
    (hgs : List.Forall₂ (fun (e : Datum × VarInfo) s => ∃ test, TestsType e.1 e.2.ty test ∧
      s = .ifThen test
        [Emit.raiseTypeError ("Variable " ++ e.1.text ++ " must be of type " ++ e.2.ty.name)]) vs gs)
    (h : GuardEnv g ps fs q env) (rest : List Stmt) :
    ∃ env', GuardEnv g ps fs q env' ∧
      (∀ x, x ≠ Emit.scratchName → env'.lookup x = env.lookup x) ∧
      (execBody g none top (fuel + 1) (gs ++ rest)).run env =
        match vs.find? (fun e => !e.2.ty.admits (paramOf ps e.1)) with
        | some (v, i) => .error ⟨"TypeError", "Variable " ++ v.text ++ " must be of type " ++ i.ty.name⟩
        | none => (execBody g none top (fuel + 1) rest).run env' := by
  induction hgs generalizing env with
  | nil => exact ⟨env, h, fun _ _ => rfl, rfl⟩
  | @cons e s vs gs hs _ ih =>
    obtain ⟨test, htest, rfl⟩ := hs
    obtain ⟨env₁, hev, h₁, hframe₁⟩ := htest h
    rw [List.cons_append, execBody_guard h₁ hev]
    cases hadm : e.2.ty.admits (paramOf ps e.1) with
    | false =>
      -- this variable is the first refused
      refine ⟨env, h, fun _ _ => rfl, ?_⟩
      simp [hadm]
    | true =>
      obtain ⟨env₂, h₂, hframe₂, hrun⟩ := ih h₁
      refine ⟨env₂, h₂, fun x hx => (hframe₂ x hx).trans (hframe₁ x hx), ?_⟩
      simpa [hadm] using hrun

/-- The guards of the functions `fns` raise the `TypeError` of the first one that cannot be
called, and otherwise run on. -/
theorem run_functionGuards (fns : List Datum) (h : GuardEnv g ps fs q env) (rest : List Stmt) :
    (execBody g none top (fuel + 1) (fns.map Emit.functionGuard ++ rest)).run env =
      match fns.find? (fun f => !(paramOf fs f).any Value.isCallable) with
      | some f => .error ⟨"TypeError", "Translation requires function " ++ f.text ++ " to exist"⟩
      | none => (execBody g none top (fuel + 1) rest).run env := by
  induction fns with
  | nil => rfl
  | cons f fns ih =>
    rw [List.map_cons, List.cons_append, Emit.functionGuard, execBody_guard h (Evals.uncallable h f)]
    cases hcall : (paramOf fs f).any Value.isCallable with
    | false => simp [hcall]
    | true => simpa [hcall] using ih

end

end Code

namespace TypeMap

open Code

/-- The failure the guards of a function compiled under `m` raise for parameters `ps` and
functions `fs`: that of the first variable whose parameter lies outside its type's domain, else
that of the first function that is missing or cannot be called. -/
def guardFailure (m : TypeMap) (ps fs : List (String × Value)) : Option Raised :=
  match m.vars.find? (fun e => !e.2.ty.admits (paramOf ps e.1)) with
  | some (v, i) => some ⟨"TypeError", "Variable " ++ v.text ++ " must be of type " ++ i.ty.name⟩
  | none =>
    (m.functionNames.find? fun f => !(paramOf fs f).any Value.isCallable).map fun f =>
      ⟨"TypeError", "Translation requires function " ++ f.text ++ " to exist"⟩

end TypeMap

namespace Code

section

variable {g : Env} {ps fs : List (String × Value)} {q top : Bool} {env : Env} {fuel : Nat}

/-- The guards of a keyed map raise `guardFailure`, and when there is none the body runs on from
the same variables, the scratch variable apart. -/
theorem runGuards {m : TypeMap} {gs : List Stmt} {h h' : Helpers} (hk : m.Keyed)
    (hgs : (Emit.typeGuards m).run' h = (.ok gs, h')) (hg : GuardEnv g ps fs q env)
    (rest : List Stmt) :
    ∃ env', (∀ x, x ≠ Emit.scratchName → env'.lookup x = env.lookup x) ∧
      (execBody g none top (fuel + 1) (gs ++ rest)).run env =
        match m.guardFailure ps fs with
        | some r => .error r
        | none => (execBody g none top (fuel + 1) rest).run env' := by
  obtain ⟨vgs, hvgs, rfl⟩ := Emit.typeGuards_inv hgs
  have htests : List.Forall₂ (fun (e : Datum × VarInfo) s => ∃ test, TestsType e.1 e.2.ty test ∧
      s = .ifThen test
        [Emit.raiseTypeError ("Variable " ++ e.1.text ++ " must be of type " ++ e.2.ty.name)])
      m.vars vgs := by
    -- each variable of a keyed map is named by a key, which its test needs
    refine ((List.forall₂_and_left _ _).2 ⟨hk, hvgs⟩).imp ?_
    rintro e s ⟨hke, _, _, hs⟩
    obtain ⟨test, _, htest, rfl⟩ := Emit.typeGuard_inv hs
    exact ⟨test, failsType_tests hke htest, rfl⟩
  obtain ⟨env₁, h₁, hframe, hrun⟩ := @run_varGuards g ps fs q top env fuel _ _ htests hg
    (m.functionNames.map Emit.functionGuard ++ rest)
  refine ⟨env₁, hframe, ?_⟩
  rw [List.append_assoc, hrun, TypeMap.guardFailure]
  cases m.vars.find? (fun e => !e.2.ty.admits (paramOf ps e.1)) with
  | some e => rfl
  | none =>
    rw [run_functionGuards _ h₁]
    cases m.functionNames.find? (fun f => !(paramOf fs f).any Value.isCallable) <;> rfl

end

end Code

end Lingo
