import Lingo.Code.Primitive
import Lingo.Code.Reserved
import Lingo.Keyed

/-!
# Running emitted code

`Code.evalExpr`, `Code.execBody` and `Code.apply` run emitted code. A name is looked up among the
variables of the running function, then in the module, then among the built-ins. The built-ins a
function sees are those it captured when it was defined (`Value.closure`): the built-ins
themselves, or whatever the module had bound to `__builtins__` by then, which is then asked for
the name as a key, a missing key making the name undefined. Connectives short-circuit and yield
the operand that decided them. A function body runs its statements in order until one returns;
running off its end returns nothing.

Running is total: a call of a function of the module spends one unit of fuel, and a chain of
calls deeper than its fuel stops with a `RecursionError`. Everything else recurses on the syntax.
Emitted code never recurses, so the default fuel is far more than any module needs.

A module runs its definitions and assignments in order; its namespace is the variables it leaves.
-/

namespace Lingo

namespace Code

/-- Variables and their values, newest first. -/
abbrev Env := List (String × Value)

/-- The value of a variable. -/
def Env.lookup (env : Env) (x : String) : Option Value := (env.find? (·.1 == x)).map (·.2)

/-- Binds a variable, replacing an earlier binding of it. -/
def Env.bind (env : Env) (x : String) (v : Value) : Env := (x, v) :: env.filter (·.1 != x)

/-- A step of running: it reads and binds local variables and may raise. -/
abbrev EvalM := StateT Env (Except Raised)

/-- Lifts a primitive step. -/
def attempt {α : Type} (r : Except Raised α) : EvalM α := StateT.lift r

/-- The failure of running out of fuel. -/
def tooDeep : Raised := ⟨"RecursionError", "maximum recursion depth exceeded"⟩

/-- The name the built-ins of a module are bound to. -/
def builtinsName : String := "__builtins__"

/-- Looks a name up among built-ins: the built-ins themselves when `bi` is none, else the key `x`
of the value `bi`, whose missing key leaves the name undefined. -/
def lookupBuiltin (bi : Option Value) (x : String) : Except Raised Value :=
  let undefined : Raised := ⟨"NameError", "name " ++ quoted x ++ " is not defined"⟩
  match bi with
  | none =>
      match Builtin.ofName? x with
      | some b => pure (.builtin b)
      | none => throw undefined
  | some v =>
      match subscript v (.str x) with
      | .ok r => pure r
      | .error e => if e.kind == "KeyError" then throw undefined else throw e

mutual

/-- The value of an expression, with module namespace `g` and built-ins `bi`; calls made on the
way have `fuel` levels of calls left. -/
def evalExpr (g : Env) (bi : Option Value) (fuel : Nat) : Expr → EvalM Value
  | .const v => pure (Value.ofDatum v)
  | .name x => do
      match (← get).lookup x, g.lookup x with
      | some v, _ => pure v
      | none, some v => pure v
      | none, none => attempt (lookupBuiltin bi x)
  | .attr o f => do
      let v ← evalExpr g bi fuel o
      attempt (getAttr v f)
  | .call f args => do
      let fv ← evalExpr g bi fuel f
      let avs ← evalExprs g bi fuel args
      attempt (apply g fuel fv avs)
  | .index o k => do
      let ov ← evalExpr g bi fuel o
      let kv ← evalExpr g bi fuel k
      attempt (subscript ov kv)
  | .arith op l r => do
      let a ← evalExpr g bi fuel l
      let b ← evalExpr g bi fuel r
      attempt (arithValue op a b)
  | .minus x => do
      let v ← evalExpr g bi fuel x
      attempt (negValue v)
  | .not x => do
      let v ← evalExpr g bi fuel x
      pure (.ofBool !v.truthy)
  | .logic op parts => evalLogic g bi fuel op parts
  | .compare l op r => do
      let a ← evalExpr g bi fuel l
      let b ← evalExpr g bi fuel r
      attempt (compareValues op a b)
  | .bind x v => do
      let val ← evalExpr g bi fuel v
      modify (·.bind x val)
      pure val
  | .tuple items => do
      let vs ← evalExprs g bi fuel items
      pure (.tuple vs)
  | .dict entries => do
      let es ← evalEntries g bi fuel entries
      pure (.dict (keyed es))
termination_by e => (fuel, sizeOf e)

/-- The values of expressions, left to right. -/
def evalExprs (g : Env) (bi : Option Value) (fuel : Nat) : List Expr → EvalM (List Value)
  | [] => pure []
  | e :: es => do
    let v ← evalExpr g bi fuel e
    let vs ← evalExprs g bi fuel es
    pure (v :: vs)
termination_by es => (fuel, sizeOf es)

/-- The keys and values of dictionary entries, each key before its value. -/
def evalEntries (g : Env) (bi : Option Value) (fuel : Nat) :
    List (Expr × Expr) → EvalM (List (String × Value))
  | [] => pure []
  | (k, v) :: es => do
    let kv ← evalExpr g bi fuel k
    let vv ← evalExpr g bi fuel v
    let key ← match kv with
      | .scalar (.str s) => pure s
      | _ => throw ⟨"TypeError", "dictionary keys must be strings"⟩
    let rest ← evalEntries g bi fuel es
    pure ((key, vv) :: rest)
termination_by es => (fuel, sizeOf es)

/-- Operands joined by a connective: the first that decides it, or the last. -/
def evalLogic (g : Env) (bi : Option Value) (fuel : Nat) : Conn → List Expr → EvalM Value
  | _, [] => pure .none
  | _, [e] => evalExpr g bi fuel e
  | op, e :: es => do
    let v ← evalExpr g bi fuel e
    if (op == .conj) != v.truthy then pure v else evalLogic g bi fuel op es
termination_by _ es => (fuel, sizeOf es)

/-- The result of calling a value with arguments; calling a function of the module spends one
level of fuel. -/
def apply (g : Env) : Nat → Value → List Value → Except Raised Value
  | 0, _, _ => throw tooDeep
  | fuel + 1, f, args =>
    match f with
    | .closure name ps body captured => do
        let env ← bindParams name ps args
        let (r, _) ← (execBody g captured false fuel body).run env
        pure (r.getD .none)
    | .builtin b => callBuiltin b args
    | .method recv m => callMethod recv m args
    | .host h => callHost h args
    | v => fail "TypeError" (quoted v.typeName ++ " object is not callable")
termination_by fuel => (fuel, 0)

/-- Runs statements in order until one returns; `none` when none does. `top` tells whether they
run at the top of the module, whose namespace is then the variables being bound; a function
defined there captures the module's binding of `__builtins__`, one defined in a function body the
binding in `g`. -/
def execBody (g : Env) (bi : Option Value) (top : Bool) (fuel : Nat) :
    List Stmt → EvalM (Option Value)
  | [] => pure none
  | s :: rest =>
    match s with
    | .ifThen t body => do
        let v ← evalExpr g bi fuel t
        if v.truthy then
          match (← execBody g bi top fuel body) with
          | some r => pure (some r)
          | none => execBody g bi top fuel rest
        else execBody g bi top fuel rest
    | .ret e => do
        let v ← evalExpr g bi fuel e
        pure (some v)
    | .raise e => do
        let v ← evalExpr g bi fuel e
        throw (raisedOf v)
    | .assign x e => do
        let v ← evalExpr g bi fuel e
        modify (·.bind x v)
        execBody g bi top fuel rest
    | .define f ps body => do
        let env ← get
        let captured := if top then env.lookup builtinsName else g.lookup builtinsName
        modify (·.bind f (.closure f ps body captured))
        execBody g bi top fuel rest
termination_by ss => (fuel, sizeOf ss)

end

/-- The fuel a run starts with. -/
def defaultFuel : Nat := 100000

/-- The namespace a module leaves after running, once the host has admitted it. -/
def load (p : Program) : Except Raised Env := do
  p.admit
  let (_, ns) ← (execBody [] none true defaultFuel p).run []
  pure ns

/-- Renders translation `key` of a table with the given parameters, host functions and quoting,
calling functions in module namespace `g`. A constant translation is encoded; a function returns
its own text. -/
def translate (g : Env) (table : List (String × Value)) (key : String) (params fns : Value)
    (quote : Bool) : Except Raised Value :=
  match (table.find? (·.1 == key)).map (·.2) with
  | none => fail "TranslationNotFoundError" ("Unknown translation: " ++ key)
  | some (.scalar (.str s)) => pure (.str (htmlEscape quote s))
  | some tr => apply g defaultFuel tr [params, fns, .context quote]

end Code

end Lingo
