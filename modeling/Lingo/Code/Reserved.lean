import Lingo.Code.Value

/-!
# Names a program may not use

Before a module runs, the host checks it as a whole, in two passes. The first reads every
statement in order and refuses a variable named `None`, `True` or `False`, the names of constants,
with a `ValueError`, and a literal that is not a scalar with a `TypeError`; the name of a defined
function, its parameters and the target of a bound expression are not read as variables there,
and may be any of them. The second refuses any
binding of `__debug__`, by assignment, definition, parameter or bound expression, with a
`SyntaxError` placed at line 1 of the module `<translations>`, the line that every emitted
statement stands on. A module that passes both runs.
-/

namespace Lingo

namespace Code

/-- The names that denote constants and cannot name a variable. -/
def constantNames : List String := ["None", "True", "False"]

/-- The refusal of a variable named like a constant. -/
def constantName? (x : String) : Option Raised :=
  if constantNames.contains x then
    some ⟨"ValueError", "identifier field can\x27t represent \x27" ++ x ++ "\x27 constant"⟩
  else none

/-- The refusal of a literal that is not a scalar: a safe string, a list or a dictionary cannot be
written into a module as a constant. -/
def constantValue? (d : Datum) : Option Raised :=
  match d with
  | .scalar _ => none
  | d => some ⟨"TypeError", "got an invalid type in Constant: " ++ d.kindName⟩

mutual

/-- The first fault of an expression read before it runs: a variable named like a constant or a
literal that is not a scalar, operands read in order; the target of a binding is not read. -/
def Expr.fault? : Expr → Option Raised
  | .const d => constantValue? d
  | .name x => constantName? x
  | .attr o _ => o.fault?
  | .call f args => f.fault? <|> faultIn? args
  | .index o k => o.fault? <|> k.fault?
  | .arith _ l r => l.fault? <|> r.fault?
  | .minus e => e.fault?
  | .not e => e.fault?
  | .logic _ parts => faultIn? parts
  | .compare l _ r => l.fault? <|> r.fault?
  | .bind _ v => v.fault?
  | .tuple items => faultIn? items
  | .dict entries => faultInKeys? entries <|> faultInValues? entries

/-- The first such fault of a list of expressions. -/
def faultIn? : List Expr → Option Raised
  | [] => none
  | e :: es => e.fault? <|> faultIn? es

/-- The first such fault among the keys of dictionary entries. -/
def faultInKeys? : List (Expr × Expr) → Option Raised
  | [] => none
  | (k, _) :: es => k.fault? <|> faultInKeys? es

/-- The first such fault among the values of dictionary entries. -/
def faultInValues? : List (Expr × Expr) → Option Raised
  | [] => none
  | (_, v) :: es => v.fault? <|> faultInValues? es

end

mutual

/-- The first such fault of a statement: an assignment's target before its value, a function's
body before its name and parameters, which are not variables. -/
def Stmt.fault? : Stmt → Option Raised
  | .ifThen t body => t.fault? <|> faultInBody? body
  | .ret e => e.fault?
  | .raise e => e.fault?
  | .assign x v => constantName? x <|> v.fault?
  | .define _ _ body => faultInBody? body

/-- The first such fault of a list of statements. -/
def faultInBody? : List Stmt → Option Raised
  | [] => none
  | s :: ss => s.fault? <|> faultInBody? ss

end

/-- The name the host keeps for itself; nothing may bind it. -/
def hostName : String := "__debug__"

mutual

/-- Whether an expression binds the host's name. -/
def Expr.bindsHostName : Expr → Bool
  | .const _ | .name _ => false
  | .attr o _ => o.bindsHostName
  | .call f args => f.bindsHostName || anyBindsHostName args
  | .index o k => o.bindsHostName || k.bindsHostName
  | .arith _ l r => l.bindsHostName || r.bindsHostName
  | .minus e => e.bindsHostName
  | .not e => e.bindsHostName
  | .logic _ parts => anyBindsHostName parts
  | .compare l _ r => l.bindsHostName || r.bindsHostName
  | .bind x v => x == hostName || v.bindsHostName
  | .tuple items => anyBindsHostName items
  | .dict entries => entriesBindHostName entries

/-- Whether an expression of a list binds the host's name. -/
def anyBindsHostName : List Expr → Bool
  | [] => false
  | e :: es => e.bindsHostName || anyBindsHostName es

/-- Whether a key or value of dictionary entries binds the host's name. -/
def entriesBindHostName : List (Expr × Expr) → Bool
  | [] => false
  | (k, v) :: es => k.bindsHostName || v.bindsHostName || entriesBindHostName es

end

mutual

/-- Whether a statement binds the host's name. -/
def Stmt.bindsHostName : Stmt → Bool
  | .ifThen t body => t.bindsHostName || bodyBindsHostName body
  | .ret e => e.bindsHostName
  | .raise e => e.bindsHostName
  | .assign x v => x == hostName || v.bindsHostName
  | .define f ps body => f == hostName || ps.contains hostName || bodyBindsHostName body

/-- Whether a statement of a list binds the host's name. -/
def bodyBindsHostName : List Stmt → Bool
  | [] => false
  | s :: ss => s.bindsHostName || bodyBindsHostName ss

end

/-- Checks a module before it runs: first its variables and literals, then its bindings. -/
def Program.admit (p : Program) : Except Raised Unit :=
  match faultInBody? p with
  | some r => throw r
  | none =>
      if bodyBindsHostName p then
        throw ⟨"SyntaxError", "cannot assign to " ++ hostName ++ " (<translations>, line 1)"⟩
      else pure ()

end Code

end Lingo
