import Lingo.Code.Syntax
import Lingo.Error

/-!
# The emission context

Emitted functions take three parameters: `params`, the template's parameter values; `fns`, the
functions a template may call; and `ctx`, the output context that encodes text. Emission records
which module-level helpers the code calls (`Helpers`), so that a module defines exactly those. One
record is shared by all translations emitted into one module, and it keeps what was recorded even
when an emission fails part way.
-/

namespace Lingo

/-- Which helpers the code emitted so far needs. -/
structure Helpers where
  /-- A type test binds the scratch variable `_`. -/
  scratch : Bool := false
  /-- The code calls `encode_if_string`. -/
  encodeIfString : Bool := false
  /-- The code calls `plus_op`. -/
  plusOp : Bool := false
  /-- The code calls `number_text`. -/
  numberText : Bool := false
  deriving Inhabited

/-- A step of emission: it may fail, and it records helpers either way. -/
abbrev EmitM := ExceptT Failure (StateM Helpers)

namespace EmitM

/-- Runs an emission step from a record of helpers. -/
def run' {α : Type} (x : EmitM α) (h : Helpers) : Except Failure α × Helpers :=
  (ExceptT.run x).run h

end EmitM

namespace Emit

open Code

/-- The name of the parameter values. -/
def paramsName : String := "params"

/-- The name of the callable functions. -/
def fnsName : String := "fns"

/-- The name of the output context. -/
def ctxName : String := "ctx"

/-- The name of the scratch variable of type tests. -/
def scratchName : String := "_"

/-- The output context as an expression. -/
def ctx : Expr := .name ctxName

/-- The literal naming a parameter: the name itself, whatever datum it is. -/
def keyOf (v : Datum) : Expr := .const v

/-- `params['x']`: the value of a parameter, failing when it is missing. -/
def paramLookup (v : Datum) : Expr := .index (.name paramsName) (keyOf v)

/-- `params.get('x')`: the value of a parameter, or `None` when it is missing. -/
def paramGet (v : Datum) : Expr := Expr.method (.name paramsName) "get" [keyOf v]

/-- A method call on the output context. -/
def ctxMethod (m : String) (args : List Expr) : Expr := Expr.method ctx m args

/-- `number_text(e)`, which renders a number without a useless `.0`. -/
def numberText (e : Expr) : EmitM Expr := do
  modify fun h => { h with numberText := true }
  pure (Expr.callName "number_text" [e])

/-- `encode_if_string(ctx, e)`, which encodes a value unless it is already safe text. -/
def encodeIfString (e : Expr) : EmitM Expr := do
  modify fun h => { h with encodeIfString := true, numberText := true }
  pure (Expr.callName "encode_if_string" [ctx, e])

/-- `plus_op(ctx, l, r)`, which adds numbers and joins anything else as encoded text. -/
def plusOp (l r : Expr) : EmitM Expr := do
  modify fun h => { h with plusOp := true, encodeIfString := true, numberText := true }
  pure (Expr.callName "plus_op" [ctx, l, r])

/-- `raise TypeError(message)`. -/
def raiseTypeError (message : String) : Stmt :=
  .raise (Expr.callName "TypeError" [.str message])

end Emit

end Lingo
