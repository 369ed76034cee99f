import Lingo.Datum.Basic
import Lingo.Ty
import Lingo.Tree.Pos

/-!
# Template trees

A template is a tree of nodes. Each node has a kind, the fields its kind carries and a list of
children. Expressions (`number`, `var`, `add`, …) live inside interpolations, text fragments
(`literal`, `textVar`, `textExpr`) make up a text, constraints (`ignore`, `equality`,
`inequality`) guard the rules of a rule set.

The value and the name of a node are data (`Datum`), as given: a name is usually a string, but
may be any datum, and a field left out holds nothing. Two nodes have the same key
(`Node.sameKey`) when their kinds agree, their fields are equal as data (so `1`, `1.0` and `true`
agree, and so do `0` and `-0.0`) and their children have the same keys in order. The tree
transformations reuse results by key.
-/

namespace Lingo

/-- The kinds of template node. -/
inductive Kind where
  | number | stringLit | var | neg | add | sub | mul | div | call
  | literal | textVar | textExpr | textRoot
  | ident | numberValue | enumValue | genderValue | ignore | equality | inequality | constraintRoot
  | rule | ruleSet
  deriving DecidableEq, Repr, Inhabited

/-- The fields a node can carry. -/
inductive FieldName where
  | value | name | op | pos | ty | const | input
  deriving DecidableEq, Repr

namespace FieldName

/-- The name of a field as written in trees and messages. -/
def label : FieldName → String
  | value => "value"
  | name => "name"
  | op => "op"
  | pos => "pos"
  | ty => "T"
  | const => "const"
  | input => "input"

end FieldName

namespace Kind

/-- All kinds. -/
def all : List Kind :=
  [number, stringLit, var, neg, add, sub, mul, div, call, literal, textVar, textExpr, textRoot,
   ident, numberValue, enumValue, genderValue, ignore, equality, inequality, constraintRoot,
   rule, ruleSet]

/-- The name of a kind, as written in trees and messages. -/
def name : Kind → String
  | number => "Number" | stringLit => "StringLit" | var => "Var" | neg => "Neg"
  | add => "Add" | sub => "Sub" | mul => "Mul" | div => "Div" | call => "Call"
  | literal => "Literal" | textVar => "TextVar" | textExpr => "TextExpr" | textRoot => "TextRoot"
  | ident => "Ident" | numberValue => "NumberValue" | enumValue => "EnumValue"
  | genderValue => "GenderValue" | ignore => "Ignore" | equality => "Equality"
  | inequality => "Inequality" | constraintRoot => "ConstraintRoot"
  | rule => "Rule" | ruleSet => "RuleSet"

/-- The kind with a given name. -/
def ofName? (s : String) : Option Kind := all.find? (·.name == s)

/-- The fields a kind carries, in their order. -/
def fields : Kind → List FieldName
  | number | stringLit => [.value, .pos, .ty, .const]
  | var | call => [.name, .pos, .ty, .const]
  | neg | add | sub | mul | div => [.pos, .ty, .const]
  | literal => [.value, .pos, .ty]
  | textVar => [.name, .pos, .ty]
  | textExpr => [.pos, .ty]
  | textRoot | constraintRoot => [.input]
  | ident => [.name, .pos]
  | numberValue | enumValue | genderValue => [.value, .pos]
  | ignore => [.pos]
  | equality | inequality => [.op, .pos]
  | rule | ruleSet => []

/-- The number of children a kind takes, or `none` when any number will do. -/
def arity : Kind → Option Nat
  | number | stringLit | var | literal | textVar | ident => some 0
  | numberValue | enumValue | genderValue => some 0
  | neg | textExpr | ignore => some 1
  | add | sub | mul | div | equality | inequality | rule => some 2
  | call | textRoot | constraintRoot | ruleSet => none

/-- Whether a kind carries a field. -/
def has (k : Kind) (f : FieldName) : Bool := k.fields.contains f

/-- The arithmetic operators of two operands. -/
def isBinary : Kind → Bool
  | add | sub | mul | div => true
  | _ => false

/-- The literal expressions. -/
def isLiteral : Kind → Bool
  | number | stringLit => true
  | _ => false

/-- The values a constraint compares against. -/
def isValue : Kind → Bool
  | numberValue | enumValue | genderValue => true
  | _ => false

/-- The type a comparison against a value of this kind asks of its variable. -/
def impliedTy? : Kind → Option Ty
  | numberValue => some .number
  | enumValue => some .enum
  | genderValue => some .gender
  | _ => none

/-- The name of a binary operator. -/
def operatorName? : Kind → Option String
  | add => some "plus"
  | sub => some "minus"
  | mul => some "multiply"
  | div => some "divide"
  | _ => none

/-- The binary operator with a given name. -/
def ofOperatorName? (s : String) : Option Kind :=
  [add, sub, mul, div].find? (·.operatorName? == some s)

end Kind

/-- The field values of a node. Fields its kind does not carry keep their defaults. -/
structure Fields where
  value : Datum := .none
  name : Datum := .none
  op : Option String := none
  pos : Pos := Pos.start
  ty : Option Ty := none
  const : Option Bool := none
  input : Option String := some ""
  deriving Inhabited

/-- One field value, as trees and messages show it. -/
inductive FieldValue where
  | datum (d : Datum)
  | text (s : String)
  | pos (p : Pos)
  | ty (t : Ty)
  | flag (b : Bool)
  | absent

namespace Fields

/-- The value of one field; `absent` when it holds nothing. -/
def get (f : Fields) : FieldName → FieldValue
  | .value => if f.value.isNone then .absent else .datum f.value
  | .name => if f.name.isNone then .absent else .datum f.name
  | .op => (f.op.map .text).getD .absent
  | .pos => .pos f.pos
  | .ty => (f.ty.map .ty).getD .absent
  | .const => (f.const.map .flag).getD .absent
  | .input => (f.input.map .text).getD .absent

/-- Whether two field records agree on one field; values and names are compared as data, and
`nanEq` decides whether two NaN values agree. -/
def agreeOn (nanEq : Bool) (a b : Fields) : FieldName → Bool
  | .value => Datum.agree nanEq a.value b.value
  | .name => Datum.agree nanEq a.name b.name
  | .op => a.op == b.op
  | .pos => a.pos == b.pos
  | .ty => a.ty == b.ty
  | .const => a.const == b.const
  | .input => a.input == b.input

end Fields

namespace FieldValue

/-- The plain text of a field value, as a node's description shows it. -/
def plain : FieldValue → String
  | datum d => d.text
  | text s => s
  | pos p =>
      "Pos(" ++ ", ".intercalate ([p.firstLine, p.firstColumn, p.lastLine, p.lastColumn].map Scalar.intText) ++ ")"
  | ty t => t.name
  | flag b => if b then "True" else "False"
  | absent => "None"

/-- The kind of a field value that cannot be part of a key. -/
def unhashable? : FieldValue → Option String
  | datum d => d.unhashable?
  | _ => none

/-- The literal of a field value, as the tree outline shows it: strings are quoted. -/
def quoted : FieldValue → String
  | datum d => d.repr
  | text s => Text.quote s
  | v => v.plain

end FieldValue

/-- A node of a template tree. -/
inductive Node where
  | mk (kind : Kind) (fields : Fields) (children : List Node)
  deriving Inhabited

namespace Node

/-- The kind of a node. -/
def kind : Node → Kind
  | mk k _ _ => k

/-- The field values of a node. -/
def fields : Node → Fields
  | mk _ f _ => f

/-- The children of a node. -/
def children : Node → List Node
  | mk _ _ cs => cs

/-- The fields a node carries, in order, with their values. -/
def fieldList (n : Node) : List (FieldName × FieldValue) :=
  n.kind.fields.map fun k => (k, n.fields.get k)

/-- The type of a node, when its kind carries one and it is set. -/
def ty? (n : Node) : Option Ty := if n.kind.has .ty then n.fields.ty else none

/-- The position of a node; the start of the text for kinds without one. -/
def pos (n : Node) : Pos := n.fields.pos

/-- Whether the node is marked constant. -/
def isConst (n : Node) : Bool := n.fields.const == some true

/-- Whether two nodes have the same key: the same kind, fields that agree as literal values, and
children with the same keys in order. `nanEq` decides whether two NaN values agree. -/
def sameKey (nanEq : Bool) : Node → Node → Bool
  | mk k f cs, mk k' f' cs' =>
      k == k' && k.fields.all (Fields.agreeOn nanEq f f' ·) && sameKeys nanEq cs cs'
where
  /-- Whether two lists of nodes have the same keys in order. -/
  sameKeys (nanEq : Bool) : List Node → List Node → Bool
    | [], [] => true
    | a :: as, b :: bs => sameKey nanEq a b && sameKeys nanEq as bs
    | _, _ => false

/-- The description of a node: its kind, its set fields other than the position, and its
children, as in `Add(Number[value=1](), Var[name=x]())`. -/
def describe : Node → String
  | mk k f cs =>
      let shown := (k.fields.filter (· != .pos)).filterMap fun fld =>
        match f.get fld with
        | .absent => none
        | v => some (fld.label ++ "=" ++ v.plain)
      let fieldPart := if shown.isEmpty then "" else "[" ++ ",".intercalate shown ++ "]"
      k.name ++ fieldPart ++ "(" ++ ", ".intercalate (cs.map describe) ++ ")"

/-- The name a node answers to, which may be left out: its own for a kind that carries a name, its
first child's for a constraint. Fails with the kind that has no name to give. -/
def nameOf : Node → Except Kind Datum
  | mk k f cs =>
      if k.has .name then .ok f.name
      else if k = .ignore ∨ k = .equality ∨ k = .inequality then
        match cs with
        | c :: _ => nameOf c
        | [] => .error k
      else .error k

/-- The kind of the first field value that cannot be part of a key, reading the fields of each
node in order before its children, in depth-first pre-order. A tree holding one has no key. -/
def unhashable? : Node → Option String
  | mk k f cs => (k.fields.findSome? fun fld => (f.get fld).unhashable?) <|> unhashableIn? cs
where
  /-- The first such kind in a list of trees. -/
  unhashableIn? : List Node → Option String
    | [] => none
    | c :: cs => unhashable? c <|> unhashableIn? cs

/-- The nodes of a tree in depth-first pre-order. -/
def walk : Node → List Node
  | mk k f cs => mk k f cs :: (cs.map walk).flatten

end Node

end Lingo
