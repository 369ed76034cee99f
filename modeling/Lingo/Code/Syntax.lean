import Lingo.Datum.Basic

/-!
# The syntax of emitted code

A compiled template is a small program: module-level function definitions and assignments, whose
bodies test parameters, raise errors and return the rendered text. `Code.Expr` and `Code.Stmt` hold
exactly the constructs the emitter produces and the helper functions use; they are rendered as text
by `Lingo.Code.Render` and run by `Lingo.Code.Eval`.
-/

namespace Lingo

namespace Code

/-- Binary arithmetic operators. -/
inductive ArithOp where
  | add
  | sub
  | mul
  | div
  deriving DecidableEq, Inhabited

/-- Short-circuit connectives. -/
inductive Conn where
  | conj
  | disj
  deriving DecidableEq, Inhabited

/-- Comparison operators, membership among them. -/
inductive CmpOp where
  | eq
  | ne
  | lt
  | le
  | gt
  | ge
  | isIn
  | notIn
  deriving DecidableEq, Inhabited

/-- Expressions of emitted code. -/
inductive Expr where
  /-- A literal value. -/
  | const (v : Datum)
  /-- A variable, looked up locally, then in the module, then among the built-in names. -/
  | name (id : String)
  /-- An attribute of a value, such as a method. -/
  | attr (obj : Expr) (field : String)
  /-- A call with positional arguments. -/
  | call (fn : Expr) (args : List Expr)
  /-- Looking a key up in a value. -/
  | index (obj : Expr) (key : Expr)
  /-- Binary arithmetic. -/
  | arith (op : ArithOp) (lhs rhs : Expr)
  /-- Arithmetic negation. -/
  | minus (e : Expr)
  /-- Logical negation. -/
  | not (e : Expr)
  /-- A chain of operands joined by one connective. -/
  | logic (op : Conn) (parts : List Expr)
  /-- One comparison. -/
  | compare (lhs : Expr) (op : CmpOp) (rhs : Expr)
  /-- Binds a local variable to a value and yields the value. -/
  | bind (target : String) (value : Expr)
  /-- A tuple. -/
  | tuple (items : List Expr)
  /-- A dictionary with keys and values in order. -/
  | dict (entries : List (Expr × Expr))
  deriving Inhabited

/-- Statements of emitted code. -/
inductive Stmt where
  /-- Runs the body when the test holds. -/
  | ifThen (test : Expr) (body : List Stmt)
  /-- Returns a value from the enclosing function. -/
  | ret (value : Expr)
  /-- Raises the exception a value denotes. -/
  | raise (exc : Expr)
  /-- Binds a module variable. -/
  | assign (target : String) (value : Expr)
  /-- Defines a function by its name, parameters and body. -/
  | define (fn : String) (params : List String) (body : List Stmt)
  deriving Inhabited

/-- A module: statements run in order. -/
abbrev Program := List Stmt

namespace Expr

/-- A string literal. -/
def str (s : String) : Expr := const (.str s)

/-- A call of a function named by a variable. -/
def callName (fn : String) (args : List Expr) : Expr := call (name fn) args

/-- A call of a method of a value. -/
def method (obj : Expr) (m : String) (args : List Expr) : Expr := call (attr obj m) args

/-- Operands joined by `+`, left to right; `none` for no operands. -/
def sum? : List Expr → Option Expr
  | [] => none
  | e :: es => some (es.foldl (arith .add) e)

end Expr

mutual

/-- The literal values of an expression, left to right. -/
def Expr.literals : Expr → List Datum
  | .const v => [v]
  | .name _ => []
  | .attr o _ => o.literals
  | .call f args => f.literals ++ literalsOf args
  | .index o k => o.literals ++ k.literals
  | .arith _ l r => l.literals ++ r.literals
  | .minus e => e.literals
  | .not e => e.literals
  | .logic _ parts => literalsOf parts
  | .compare l _ r => l.literals ++ r.literals
  | .bind _ v => v.literals
  | .tuple items => literalsOf items
  | .dict entries => entryLiterals entries

/-- The literal values of a list of expressions, in order. -/
def literalsOf : List Expr → List Datum
  | [] => []
  | e :: es => e.literals ++ literalsOf es

/-- The literal values of dictionary entries, each key before its value. -/
def entryLiterals : List (Expr × Expr) → List Datum
  | [] => []
  | (k, v) :: es => k.literals ++ v.literals ++ entryLiterals es

end

mutual

/-- The literal values of a statement, in order. -/
def Stmt.literals : Stmt → List Datum
  | .ifThen t body => t.literals ++ bodyLiterals body
  | .ret e => e.literals
  | .raise e => e.literals
  | .assign _ v => v.literals
  | .define _ _ body => bodyLiterals body

/-- The literal values of a list of statements, in order. -/
def bodyLiterals : List Stmt → List Datum
  | [] => []
  | s :: ss => s.literals ++ bodyLiterals ss

end

end Code

end Lingo
