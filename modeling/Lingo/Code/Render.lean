import Lingo.Code.Syntax
import Lingo.Datum.Arith
import Lingo.Text.Pointer

/-!
# Rendering emitted code

Emitted code is compared as text, so the renderer fixes every space and parenthesis. An expression
is rendered at the binding strength its context asks for (`Prec`) and is parenthesized exactly when
that strength is greater than its own. The left operand of a binary operator is rendered at the
operator's strength and the right one a step above. The operands of a connective are rendered at
rising strengths, one step per operand, so the third operand of `and` is parenthesized when it is a
comparison. A tuple is parenthesized when it stands where a single operand is expected or is
empty; a binding is parenthesized anywhere but at the top. Statements are written one per line,
with four spaces per level of nesting, and a blank line before each definition that does not open
the text. Text is only written for code whose integer literals can all be written out
(`Program.unparse`).
-/

namespace Lingo

namespace Code

-- Binding strengths, weakest first.
namespace Prec

/-- A binding `x := e`. -/
def walrus : Nat := 1
/-- A tuple without parentheses. -/
def tuple : Nat := 2
/-- A whole expression: an argument, a condition, a returned value. -/
def test : Nat := 4
/-- Operands of `or`. -/
def disj : Nat := 5
/-- Operands of `and`. -/
def conj : Nat := 6
/-- Logical negation. -/
def negation : Nat := 7
/-- Comparisons. -/
def comparison : Nat := 8
/-- Operands of comparisons. -/
def bitOr : Nat := 9
/-- Addition and subtraction. -/
def sum : Nat := 13
/-- Multiplication and division. -/
def product : Nat := 14
/-- Arithmetic negation. -/
def unary : Nat := 15
/-- Names, literals, calls, attributes and lookups. -/
def atom : Nat := 18

/-- The next stronger binding strength, staying at `atom`. -/
def next (p : Nat) : Nat := min (p + 1) atom

end Prec

/-- The symbol of an arithmetic operator. -/
def ArithOp.symbol : ArithOp → String
  | .add => "+"
  | .sub => "-"
  | .mul => "*"
  | .div => "/"

/-- The binding strength of an arithmetic operator. -/
def ArithOp.prec : ArithOp → Nat
  | .add | .sub => Prec.sum
  | .mul | .div => Prec.product

/-- The word of a connective. -/
def Conn.word : Conn → String
  | .conj => "and"
  | .disj => "or"

/-- The binding strength of a connective. -/
def Conn.prec : Conn → Nat
  | .conj => Prec.conj
  | .disj => Prec.disj

/-- The symbol of a comparison. -/
def CmpOp.symbol : CmpOp → String
  | .eq => "=="
  | .ne => "!="
  | .lt => "<"
  | .le => "<="
  | .gt => ">"
  | .ge => ">="
  | .isIn => "in"
  | .notIn => "not in"

/-- Wraps a text in parentheses when asked to. -/
def parenthesize (b : Bool) (s : String) : String := if b then "(" ++ s ++ ")" else s

/-- The literal text of a value. Infinities are written as a decimal literal too large for a double,
and a NaN as the difference of two of them, so that the text reads back as the same value; a
datum other than a scalar is written as its literal, whatever it holds. -/
def constText : Datum → String
  | .scalar (.float x) =>
      match Binary64.shape x with
      | .infinite neg => (if neg then "-" else "") ++ "1e309"
      | .nan => "(1e309-1e309)"
      | _ => Scalar.floatText x
  | v => v.repr

/-- Whether a value is written as an integer literal, which needs a space before a dot. -/
def Expr.isIntLiteral : Expr → Bool
  | .const (.scalar (.int _)) | .const (.scalar (.bool _)) => true
  | _ => false

/-- The items of a tuple written without parentheses: a single item keeps a trailing comma. -/
def itemsText : List String → String
  | [x] => x ++ ","
  | xs => ", ".intercalate xs

mutual

/-- The text of an expression in a context of binding strength `p`. -/
def Expr.render (p : Nat) : Expr → String
  | .const v => constText v
  | .name id => id
  | .attr o f => Expr.render Prec.atom o ++ (if o.isIntLiteral then " ." else ".") ++ f
  | .call f args => Expr.render Prec.atom f ++ "(" ++ ", ".intercalate (Expr.renderAll args) ++ ")"
  | .index o k =>
      let key := match k with
        | .tuple (i :: is) => itemsText (Expr.renderAll (i :: is))
        | k => Expr.render Prec.test k
      Expr.render Prec.atom o ++ "[" ++ key ++ "]"
  | .arith op l r =>
      parenthesize (p > op.prec)
        (Expr.render op.prec l ++ " " ++ op.symbol ++ " " ++ Expr.render (Prec.next op.prec) r)
  | .minus e => parenthesize (p > Prec.unary) ("-" ++ Expr.render Prec.unary e)
  | .not e => parenthesize (p > Prec.negation) ("not " ++ Expr.render Prec.negation e)
  | .logic op parts =>
      parenthesize (p > op.prec)
        ((" " ++ op.word ++ " ").intercalate (Expr.renderRising (Prec.next op.prec) parts))
  | .compare l op r =>
      parenthesize (p > Prec.comparison)
        (Expr.render Prec.bitOr l ++ " " ++ op.symbol ++ " " ++ Expr.render Prec.bitOr r)
  | .bind t v => parenthesize (p > Prec.walrus) (t ++ " := " ++ Expr.render Prec.atom v)
  | .tuple items =>
      parenthesize (items.isEmpty || p > Prec.tuple) (itemsText (Expr.renderAll items))
  | .dict entries => "\x7b" ++ ", ".intercalate (Expr.renderEntries entries) ++ "\x7d"

/-- The texts of whole expressions, as arguments and items are written. -/
def Expr.renderAll : List Expr → List String
  | [] => []
  | e :: es => Expr.render Prec.test e :: Expr.renderAll es

/-- The texts of the operands of a connective, the first at strength `p` and each next one a step
stronger. -/
def Expr.renderRising (p : Nat) : List Expr → List String
  | [] => []
  | e :: es => Expr.render p e :: Expr.renderRising (Prec.next p) es

/-- The texts of dictionary entries, `key: value`. -/
def Expr.renderEntries : List (Expr × Expr) → List String
  | [] => []
  | (k, v) :: es => (Expr.render Prec.test k ++ ": " ++ Expr.render Prec.test v) :: Expr.renderEntries es

end

/-- The text of an expression standing on its own. -/
def Expr.text (e : Expr) : String := e.render Prec.test

/-- Appends a line at the given depth to the text written so far. -/
def fill (buf : String) (depth : Nat) (line : String) : String :=
  (if buf.isEmpty then buf else buf.push '\n') ++ Text.spaces (4 * depth) ++ line

mutual

/-- Appends a statement at the given depth to the text written so far. -/
def Stmt.write (depth : Nat) (buf : String) : Stmt → String
  | .ifThen t body => Stmt.writeAll (depth + 1) (fill buf depth ("if " ++ t.text ++ ":")) body
  | .ret e => fill buf depth ("return " ++ e.text)
  | .raise e => fill buf depth ("raise " ++ e.text)
  | .assign x e => fill buf depth (x ++ " = " ++ e.text)
  | .define f ps body =>
      let opened := if buf.isEmpty then buf else buf.push '\n'
      Stmt.writeAll (depth + 1) (fill opened depth ("def " ++ f ++ "(" ++ ", ".intercalate ps ++ "):")) body

/-- Appends statements at the given depth to the text written so far. -/
def Stmt.writeAll (depth : Nat) (buf : String) : List Stmt → String
  | [] => buf
  | s :: rest => Stmt.writeAll depth (Stmt.write depth buf s) rest

end

/-- The text of a statement standing on its own. -/
def Stmt.text (s : Stmt) : String := s.write 0 ""

/-- The text of a module. -/
def Program.text (p : Program) : String := Stmt.writeAll 0 "" p

/-- The text of a module, refusing one with an integer literal too long to write. -/
def Program.unparse (p : Program) : Except ArithError String := do
  (bodyLiterals p).forM Datum.writable
  pure p.text

end Code

end Lingo
