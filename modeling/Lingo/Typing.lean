import Lingo.Infer
import Lingo.Tree.Memo

/-!
# Typed trees

`TypeMap.typeTree m t` annotates every text and expression node of `t` with its type (`T`) and
every expression with whether it is constant (`const`), from a frozen type map `m` without
conflicts. Literals are constant, variables and calls are not, and an operator is constant when its
operands are. A variable in an expression has its map type seen as an expression sees it
(`Ty.narrow`); a bare `$x` keeps its map type.

An operator applied to an operand of the wrong type gets type `error`, and the first such misuse
in the order the walk finishes nodes is reported at its operand; an operand whose type is already
`error` adds no report. Results are remembered by key (`Memo`). Constraint lists are left as they
are.
-/

namespace Lingo

/-- The state of the typing walk. -/
structure TypingState where
  memo : Memo := {}
  text : Option Node := none
  constraints : Option Node := none
  errors : List TypeMismatch := []

/-- A step of the typing walk. -/
abbrev TypingM := StateT TypingState (Except Failure)

namespace Typing

/-- The type of a node that carries one. -/
def tyOf (n : Node) : Except Failure (Option Ty) :=
  if n.kind.has .ty then pure n.fields.ty else throw (.missingPart n.kind.name "T")

/-- Whether a node that carries a constancy mark is constant. -/
def constOf (n : Node) : Except Failure Bool :=
  if n.kind.has .const then pure n.isConst else throw (.missingPart n.kind.name "const")

/-- Lifts a check into the walk. -/
def check {α : Type} (r : Except Failure α) : TypingM α :=
  match r with
  | .ok a => pure a
  | .error e => throw e

/-- Lifts a rebuild into the walk. -/
def rebuild (n : Node) (cs : List Node) (f : Fields) : TypingM Node :=
  match n.rebuild cs f with
  | .ok r => pure r
  | .error e => throw (.build e)

/-- Reports that `operand` does not have one of the `expected` types, unless its type is already
`error`. -/
def report (expected : List Ty) (operand : Node) : TypingM Unit := do
  let found ← check (tyOf operand)
  if found = some .error then return
  let st ← get
  let var := if operand.kind = .var then operand.fields.name else .none
  let location := TypeMismatch.locate (some operand) (st.text.bind (·.fields.input))
  let e : TypeMismatch := { expected, found := found.getD .unknown, var, location }
  set { st with errors := st.errors ++ [e] }

/-- The map type of a variable. -/
def varTy (m : TypeMap) (n : Node) : TypingM Ty :=
  check ((m.typeOf n.fields.name).map (·.2))

/-- Whether some node of a list has type `error`, reading types from the front and stopping at
the first such node. -/
def anyErrorTy : List Node → TypingM Bool
  | [] => pure false
  | p :: ps => do
    if (← check (tyOf p)) == some .error then pure true else anyErrorTy ps

/-- Whether an operand of `-`, `*`, `/` or unary minus has the type they need. -/
def isNumber (n : Node) : TypingM Bool := do
  pure ((← check (tyOf n)) == some .number)

/-- Whether an operand of `+` has a type it accepts. -/
def isPlusOperand (n : Node) : TypingM Bool := do
  pure (((← check (tyOf n)).map Ty.isPlusOperand).getD false)

mutual

/-- The typed form of `n`, remembered by key. -/
def visit (m : TypeMap) : Node → TypingM Node
  | .mk k f cs => do
    let n := Node.mk k f cs
    match (← get).memo.find? n with
    | some r => pure r
    | none =>
      let r ← match k, cs with
        | .rule, [c, t] => do
            modify fun s => { s with constraints := some c }
            let t' ← visit m t
            let r ← rebuild n [c, t'] f
            modify fun s => { s with constraints := none }
            pure r
        | .textRoot, cs => do
            modify fun s => { s with text := some n }
            rebuild n (← visitAll m cs) f
        | .constraintRoot, _ => pure n
        | .literal, cs => rebuild n cs { f with ty := some .string }
        | .textVar, cs => do rebuild n cs { f with ty := some (← varTy m n) }
        | .textExpr, [e] => do
            let e' ← visit m e
            rebuild n [e'] { f with ty := ← check (tyOf e') }
        | .number, cs => rebuild n cs { f with ty := some .number, const := some true }
        | .stringLit, cs => rebuild n cs { f with ty := some .string, const := some true }
        | .var, cs => do rebuild n cs { f with ty := some (← varTy m n).narrow, const := some false }
        | .neg, [o] => do
            let o' ← visit m o
            let mut t := Ty.number
            if !(← isNumber o') then
              report [.number] o'
              t := .error
            rebuild n [o'] { f with ty := some t, const := some (← check (constOf o')) }
        | .add, [l, r] => do
            let l' ← visit m l
            let r' ← visit m r
            let t ← if !(← isPlusOperand l') then do report [.number, .string] l'; pure Ty.error
              else if !(← isPlusOperand r') then do report [.number, .string] r'; pure Ty.error
              else pure (Ty.plusResult ((← check (tyOf l')).getD .unknown) ((← check (tyOf r')).getD .unknown))
            let c ← if ← check (constOf l') then check (constOf r') else pure false
            rebuild n [l', r'] { f with ty := some t, const := some c }
        | .sub, [l, r] | .mul, [l, r] | .div, [l, r] => do
            let l' ← visit m l
            let r' ← visit m r
            let t ← if !(← isNumber l') then do report [.number] l'; pure Ty.error
              else if !(← isNumber r') then do report [.number] r'; pure Ty.error
              else pure Ty.number
            let c ← if ← check (constOf l') then check (constOf r') else pure false
            rebuild n [l', r'] { f with ty := some t, const := some c }
        | .call, cs => do
            let ps ← visitAll m cs
            let anyError ← anyErrorTy ps
            rebuild n ps { f with ty := some (if anyError then .error else .string), const := some false }
        | _, cs => do rebuild n (← visitAll m cs) f
      let r := settle n r
      modify fun s => { s with memo := s.memo.insert n r }
      pure r

/-- The typed forms of a list of nodes, in order. -/
def visitAll (m : TypeMap) : List Node → TypingM (List Node)
  | [] => pure []
  | c :: rest => do
    let c' ← visit m c
    pure (c' :: (← visitAll m rest))

end

end Typing

namespace TypeMap

/-- The typed tree of `t` from the frozen map `m`: conflicts already in the map are reported
first, then the first misapplied operator. -/
def typeTree (m : TypeMap) (t : Node) : Except Failure Node := do
  if !m.frozen then throw .notFrozen
  m.throwErrors
  t.requireKey
  let (r, st) ← (Typing.visit m t).run {}
  match st.errors with
  | e :: _ => throw (.typeMismatch e)
  | [] => pure r

end TypeMap

end Lingo
