import Lingo.TypeMap

/-!
# Inferring the types of variables

`TypeMap.infer` walks a translation and records in a type map every use of a variable with the
type the use asks for. A constraint asks for the type its value implies (`!x` asks nothing but is
recorded), a bare `$x` in a text asks for a number or a string, and a variable in an expression
asks for the type its context expects: operands of `-`, `*`, `/` and of unary minus must be
numbers, the operands of `+` are numbers when the `+` itself must be one and numbers or strings
otherwise, and an argument of a function declared with parameter types gets the declared type.

Each use is recorded, even in subtrees equal to earlier ones. Uses point at the text or constraint
list around them: a text or constraint list stays the current one until the end of its rule.
Declared function signatures are entered before the walk, skipping those the map already holds.
-/

namespace Lingo

/-- The state of an inference walk: the map, and the text and constraint list being read. -/
structure InferState where
  map : TypeMap
  text : Option Node := none
  constraints : Option Node := none

/-- A step of inference; a failure keeps the uses recorded before it. -/
abbrev InferM := ExceptT Failure (StateM InferState)

namespace Infer

/-- Runs a step on the type map of the state. -/
def onMap {α : Type} (s : TypeMap.Step α) : InferM α := do
  let st ← get
  let (r, m) := (s.run).run st.map
  set { st with map := m }
  match r with
  | .ok a => pure a
  | .error f => throw f

/-- Fails with `f` as an inference step. -/
def fail {α : Type} (f : Failure) : InferM α := throw f

/-- The input text of a text or constraint list, when one is being read. -/
def inputOf (root : Option Node) : Option String := root.bind (·.fields.input)

/-- Lifts a name lookup into an inference step. -/
def name (n : Node) : InferM Datum :=
  match n.nameOf with
  | .ok s => pure s
  | .error k => fail (.missingPart k.name "name")

mutual

/-- Records the uses in `n`, where `expected` is the type the enclosing expression asks for. -/
def visit (expected : Option Ty) : Node → InferM Unit
  | .mk k f cs => do
    let n := Node.mk k f cs
    match k with
    | .rule =>
        visitAll expected cs
        modify fun s => { s with text := none, constraints := none }
    | .textRoot =>
        modify fun s => { s with text := some n }
        visitAll expected cs
    | .constraintRoot =>
        modify fun s => { s with constraints := some n }
        visitAll expected cs
    | .ignore | .equality | .inequality =>
        let t := if k = .ignore then Ty.unknown
          else ((cs[1]?).bind (·.kind.impliedTy?)).getD .unknown
        let v ← name n
        let st ← get
        let u : Usage := { kind := .constraint, ty := t, node := some n,
                           source := inputOf st.constraints, detached := st.constraints.isNone }
        discard <| onMap (TypeMap.addUsage v t u)
    | .textVar =>
        let v ← name n
        let st ← get
        let u : Usage := { kind := .text, ty := .numberOrString, node := some n, source := inputOf st.text }
        discard <| onMap (TypeMap.addUsage v .numberOrString u)
    | .textExpr => visitAll none cs
    | .var =>
        let v ← name n
        let t := expected.getD .unknown
        let st ← get
        let u : Usage := { kind := .expression, ty := t, node := some n, source := inputOf st.text }
        discard <| onMap (TypeMap.addUsage v t u)
    | .neg | .sub | .mul | .div => visitAll (some .number) cs
    | .add => visitAll (some (if expected = some .number then .number else .numberOrString)) cs
    | .call =>
        let fname ← name n
        let types ← match (← get).map.paramTypes? fname with
          | .ok ts => pure ts
          | .error e => fail e
        visitParams types 0 cs
        let st ← get
        match st.map.addFunction fname with
        | .ok m => set { st with map := m }
        | .error e => fail e
    | .number | .stringLit | .literal => pure ()
    | _ => visitAll expected cs

/-- Records the uses in each node of a list, in order. -/
def visitAll (expected : Option Ty) : List Node → InferM Unit
  | [] => pure ()
  | c :: rest => do
    visit expected c
    visitAll expected rest

/-- Records the uses in the arguments of a call, argument `i` asking for the `i`-th declared
parameter type when there is one. -/
def visitParams (types : Option (List Ty)) (i : Nat) : List Node → InferM Unit
  | [] => pure ()
  | c :: rest => do
    visit (types.bind (·[i]?)) c
    visitParams types (i + 1) rest

end

end Infer

namespace TypeMap

/-- Enters declared function signatures in order, skipping each that the map already holds as it
is; a failure keeps the signatures entered before it. -/
def declareSignatures : List (Datum × List Ty) → Step Unit
  | [] => pure ()
  | (name, types) :: rest => do
    let m ← get
    let held ← match m.paramTypes? name with
      | .ok ts => pure ts
      | .error f => throw f
    if held != some types then
      match m.declareTyped name (pure types) with
      | .ok m' => set m'
      | .error f => throw f
    declareSignatures rest

/-- Records the uses of the variables of a translation, after entering its function signatures.
The map is returned with the failure, if any, holding all that was recorded before it. -/
def infer (m : TypeMap) (signatures : List (Datum × List Ty)) (t : Node) :
    TypeMap × Option Failure :=
  match ((declareSignatures signatures).run).run m with
  | (.error f, m) => (m, some f)
  | (.ok _, m) =>
      let (r, st) := ((Infer.visit none t).run).run { map := m }
      match r with
      | .ok _ => (st.map, none)
      | .error f => (st.map, some f)

end TypeMap

end Lingo
