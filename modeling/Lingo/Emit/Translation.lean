import Lingo.Emit.Expr
import Lingo.Emit.Guards
import Lingo.Code.Render

/-!
# Emitting translations

A translation is a text or a rule set, typed and folded. A text with no fragments or a single piece
of literal text needs no parameters and is emitted as a constant. Any other translation becomes a
function of `params`, `fns` and `ctx` that runs the type guards and then returns the encoded text.

A rule set becomes one statement per rule, tried in order: a rule with tests returns its text when
all of them hold, and a rule without tests (only `!x` constraints) returns unconditionally. When no
rule returns unconditionally, the function ends by raising a `ValueError`.
-/

namespace Lingo

open Code

/-- An emitted translation: a constant, or a function with its name and body. -/
inductive Emitted where
  | constant (v : Datum)
  | function (name : String) (body : List Stmt)
  deriving Inhabited

namespace Emitted

/-- Whether the translation is a constant. -/
def isConstant : Emitted → Bool
  | constant _ => true
  | function .. => false

/-- The parameters every emitted function takes. -/
def params : List String := ["params", "fns", "ctx"]

/-- The definition of an emitted function. -/
def define (name : String) (body : List Stmt) : Stmt := .define name params body

/-- The code of the translation on its own: the literal, or the function definition. -/
def code : Emitted → String
  | constant v => (Expr.const v).text
  | function name body => (define name body).text

/-- The code of the translation on its own, refusing an integer literal too long to write. -/
def unparse : Emitted → Except ArithError String
  | constant v => do v.writable; pure (Expr.const v).text
  | function name body => Program.unparse [define name body]

end Emitted

/-- Whether a statement returns unconditionally. -/
def Code.Stmt.returns : Stmt → Bool
  | .ret _ => true
  | _ => false

namespace Emit

/-- The comparison a constraint operator stands for. -/
def cmpOf : Option String → Option CmpOp
  | some "=" => some .eq
  | some "!=" => some .ne
  | some "<" => some .lt
  | some "<=" => some .le
  | some ">" => some .gt
  | some ">=" => some .ge
  | _ => none

/-- The variable a constraint tests. -/
def constrained? (c : Node) : EmitM Datum :=
  match c.nameOf with
  | .ok x => pure x
  | .error k => throw (.missingPart k.name "name")

/-- The test of one constraint; `!x` has none. -/
def constraintTest (c : Node) : EmitM (Option Expr) :=
  match c.kind, c.children with
  | .ignore, _ => pure none
  | .equality, [_, rhs] | .inequality, [_, rhs] => do
      let x ← constrained? c
      match cmpOf c.fields.op with
      | some op => pure (some (.compare (paramLookup x) op (.const rhs.fields.value)))
      | none => throw (.misplaced ("Unknown constraint: " ++ c.describe))
  | _, _ => throw (.misplaced ("Unknown constraint: " ++ c.describe))

/-- The fragments of a text or the constraints of a constraint list. -/
def nodesOf (n : Node) : EmitM (List Node) :=
  if n.kind = .textRoot || n.kind = .constraintRoot then pure n.children
  else throw (.missingPart n.kind.name "nodes")

/-- The statement of a rule: return `e` when the tests of the constraints hold. -/
def ruleStmt (constraints : Node) (e : Expr) : EmitM Stmt := do
  let tests ← (← nodesOf constraints).filterMapM constraintTest
  match tests with
  | [] => pure (.ret e)
  | [t] => pure (.ifThen t [.ret e])
  | ts => pure (.ifThen (.logic .conj ts) [.ret e])

/-- The part of a rule at position `i`, named `part` in a message. -/
def rulePart (rule : Node) (i : Nat) (part : String) : EmitM Node :=
  match rule.kind, rule.children[i]? with
  | .rule, some c => pure c
  | k, _ => throw (.missingPart k.name part)

/-- The statements of rules in order, and whether one of them returns unconditionally. -/
def ruleStmts : List Node → EmitM (List Stmt × Bool)
  | [] => pure ([], false)
  | rule :: rest => do
      let e ← text (← rulePart rule 1 "translation")
      let s ← ruleStmt (← rulePart rule 0 "constraints") e
      let (ss, returned) ← ruleStmts rest
      pure (s :: ss, s.returns || returned)

/-- `raise ValueError('No translation matched the parameters')`. -/
def noMatch : Stmt :=
  .raise (Expr.callName "ValueError" [.str "No translation matched the parameters"])

/-- The emitted form of a text. -/
def simple (m : TypeMap) (name : String) (root : Node) : EmitM Emitted :=
  match root.children with
  | [] => pure (.constant (.str ""))
  | [n] => if n.kind = .literal then pure (.constant n.fields.value) else general
  | _ => general
where
  /-- A function that guards its parameters and returns the encoded text. -/
  general : EmitM Emitted := do
    let guards ← typeGuards m
    let e ← text root
    pure (.function name (guards ++ [.ret e]))

/-- The emitted form of a rule set. -/
def constrained (m : TypeMap) (name : String) (root : Node) : EmitM Emitted := do
  if root.children.isEmpty then throw .noRules
  let guards ← typeGuards m
  let (stmts, returned) ← ruleStmts root.children
  pure (.function name (guards ++ stmts ++ (if returned then [] else [noMatch])))

/-- The emitted form of a typed, folded translation under the frozen map `m`; a function is named
`name`. -/
def translation (m : TypeMap) (name : String) (root : Node) : EmitM Emitted :=
  match root.kind with
  | .textRoot => simple m name root
  | .ruleSet => constrained m name root
  | k => throw (.misplaced ("Cannot emit " ++ k.name ++ ", expected a TextRoot or RuleSet"))

end Emit

end Lingo
