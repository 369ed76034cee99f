import Lingo.Emit.Context
import Lingo.TypeMap

/-!
# Runtime type guards

A compiled function first checks that each parameter it reads has the type inference gave it, and
that each function it calls exists, raising a `TypeError` otherwise. Strings and enumerations are
plain or already safe text; numbers are integers or doubles but not truth values; a value that is a
number or a string is tested through the scratch variable, so the parameter is read once; a gender
is one of `M`, `F` and `N`; of a variable of unknown type only its presence is checked. A variable
whose uses conflict has no test. Variables come first, in the order they were first seen, then
functions.
-/

namespace Lingo

namespace Emit

open Code

/-- `isinstance(e, t)`, or `isinstance(e, (t₁, t₂, ...))` for several type names. -/
def isinstanceOf (e : Expr) (types : List String) : Expr :=
  let classinfo := match types with
    | [t] => Expr.name t
    | ts => Expr.tuple (ts.map Expr.name)
  Expr.callName "isinstance" [e, classinfo]

/-- An expression that holds when parameter `v` does not have type `t`. -/
def failsType (v : Datum) : Ty → EmitM Expr
  | .unknown => pure (.compare (keyOf v) .notIn (.name paramsName))
  | .string | .enum =>
      pure (.logic .conj
        [.not (isinstanceOf (paramGet v) ["str"]), .not (ctxMethod "is_safe_string" [paramGet v])])
  | .number =>
      pure (.logic .disj
        [.not (isinstanceOf (paramGet v) ["int", "float"]), isinstanceOf (paramGet v) ["bool"]])
  | .numberOrString => do
      modify fun h => { h with scratch := true }
      let scratch := Expr.name scratchName
      pure (.not (.logic .disj
        [.logic .conj
          [isinstanceOf (.bind scratchName (paramGet v)) ["str", "int", "float"],
           .not (isinstanceOf scratch ["bool"])],
         ctxMethod "is_safe_string" [scratch]]))
  | .gender => pure (.compare (paramGet v) .notIn (.tuple [.str "M", .str "F", .str "N"]))
  | .error => throw .guardForError

/-- The guard raising a `TypeError` when parameter `v` does not have type `t`. -/
def typeGuard (v : Datum) (t : Ty) : EmitM Stmt := do
  let test ← failsType v t
  pure (.ifThen test [raiseTypeError ("Variable " ++ v.text ++ " must be of type " ++ t.name)])

/-- The guard for parameter `v` and a type that may be missing, which has no test. -/
def typeGuardOf (v : Datum) : Option Ty → EmitM Stmt
  | some t => typeGuard v t
  | none => throw .missingType

/-- The guard raising a `TypeError` when function `f` cannot be called. -/
def functionGuard (f : Datum) : Stmt :=
  .ifThen (.not (Expr.callName "callable" [Expr.method (.name fnsName) "get" [keyOf f]]))
    [raiseTypeError ("Translation requires function " ++ f.text ++ " to exist")]

/-- The guards of every variable of the map, then of every function. -/
def typeGuards (m : TypeMap) : EmitM (List Stmt) := do
  let vars ← m.vars.mapM fun (v, i) => typeGuard v i.ty
  pure (vars ++ m.functionNames.map functionGuard)

end Emit

end Lingo
