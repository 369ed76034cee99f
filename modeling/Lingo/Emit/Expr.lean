import Lingo.Emit.Context
import Lingo.Tree.Node

/-!
# Emitting expressions and texts

`Emit.expr` turns a typed expression into code. Literals become literals and a variable becomes a
lookup in `params`. An operator that is constant or of type number becomes the native operator;
any other operator may meet strings at runtime and goes through `plus_op`, which adds numbers and
joins everything else as encoded text. A call looks the function up in `fns` and passes it the
output context first.

`Emit.text` turns the fragments of a text into one expression. Literal text and numbers (rendered
by `number_text`) form runs that are joined natively and encoded by one `ctx.encode` call; any other
value may already be safe text and is passed to `encode_if_string` on its own. The pieces are joined
by `+`, and an empty text is the empty string.
-/

namespace Lingo

namespace Emit

open Code

/-- The native operator of a binary node kind. -/
def arithOf : Kind → Option ArithOp
  | .add => some .add
  | .sub => some .sub
  | .mul => some .mul
  | .div => some .div
  | _ => none

mutual

/-- The code of a typed expression. -/
def expr : Node → EmitM Expr
  | .mk k f cs => do
    let n := Node.mk k f cs
    match k, arithOf k, cs with
    | .number, _, _ | .stringLit, _, _ => pure (.const f.value)
    | .var, _, _ => pure (paramLookup f.name)
    | _, some op, [l, r] => do
        let l' ← expr l
        let r' ← expr r
        if f.const == some true || f.ty == some .number then pure (.arith op l' r')
        else plusOp l' r'
    | .neg, _, [o] => do pure (.minus (← expr o))
    | .call, _, args => do
        let args' ← exprs args
        pure (.call (.index (.name fnsName) (keyOf f.name)) (ctx :: args'))
    | _, _, _ => throw (.misplaced ("Cannot emit " ++ n.describe))

/-- The code of typed expressions, in order. -/
def exprs : List Node → EmitM (List Expr)
  | [] => pure []
  | e :: es => do
    let e' ← expr e
    pure (e' :: (← exprs es))

end

/-- The code of one fragment of a text, and whether it joins a run of literal text. -/
def textPart (n : Node) : EmitM (Expr × Bool) :=
  match n.kind, n.children with
  | .literal, _ => pure (.const n.fields.value, true)
  | .textVar, _ =>
      let e := paramLookup n.fields.name
      if n.fields.ty == some .number then do pure (← numberText e, true) else pure (e, false)
  | .textExpr, [x] => do
      let e ← expr x
      if x.fields.ty == some .number then pure (← numberText e, true) else pure (e, false)
  | _, _ => throw (.misplaced ("Unknown node type: " ++ n.describe))

/-- The encoded run `group`, if there is one. -/
def closeRun (group : Option Expr) : List Expr :=
  match group with
  | some g => [ctxMethod "encode" [g]]
  | none => []

/-- Encodes fragments: runs of literal text are encoded at once and anything else on its own.
`group` is the run being read and `done` the pieces already encoded. -/
def encodeParts : List (Expr × Bool) → Option Expr → List Expr → EmitM (List Expr)
  | [], group, done => pure (done ++ closeRun group)
  | (e, true) :: rest, group, done =>
      encodeParts rest (some (match group with | none => e | some g => .arith .add g e)) done
  | (e, false) :: rest, group, done => do
      let enc ← encodeIfString e
      encodeParts rest none (done ++ closeRun group ++ [enc])

/-- The code of a typed text given by its fragments. -/
def textOfParts (nodes : List Node) : EmitM Expr := do
  let parts ← nodes.mapM textPart
  let encoded ← encodeParts parts none []
  pure ((Expr.sum? encoded).getD (.str ""))

/-- The code of a typed text; only a text or a constraint list has fragments. -/
def text (root : Node) : EmitM Expr :=
  if root.kind = .textRoot || root.kind = .constraintRoot then textOfParts root.children
  else throw (.missingPart root.kind.name "nodes")

end Emit

end Lingo
