import Lingo.Tree.Node

/-!
# Building template nodes

`Node.build` makes a node from a kind, children and field arguments, and refuses what the kind does
not allow: the wrong number of children, fields the kind does not carry, a gender other than `F`,
`M` or `N`, an operator a comparison does not know, and a comparison whose right side is not a
value (for an inequality, not a number value). The checks run in a fixed order, so of two faults
the first in that order is reported.

`Node.rebuild` is what every tree transformation uses to put a node back together: when the new
children and fields have the same keys as the old ones it returns the old node itself, and
otherwise it builds afresh under the same checks.
-/

namespace Lingo

/-- Why a node cannot be built. -/
inductive BuildError where
  /-- The kind takes a fixed number of children. -/
  | arity (k : Kind) (expected given : Nat)
  /-- Fields the kind does not carry, sorted by name. -/
  | unexpectedFields (k : Kind) (names : List String)
  /-- A gender value takes no children. -/
  | genderChildren (given : Nat)
  /-- A gender value is one of `F`, `M` and `N`. -/
  | badGender (value : Datum)
  /-- An equality compares by `=` or `!=`, an inequality by `<`, `<=`, `>` or `>=`. -/
  | badOperator (k : Kind) (op : Option String)
  /-- The right side of a comparison is not a value of the kind it needs. -/
  | badComparand (k : Kind) (rhs : Node)
  /-- No binary operator has this name. -/
  | unknownOperator (op : String)

namespace BuildError

/-- The kind of failure, as the error's class name. -/
def kind : BuildError → String
  | arity .. | unexpectedFields .. | genderChildren _ | badComparand .. => "TypeError"
  | badGender _ | badOperator .. | unknownOperator _ => "ValueError"

/-- The literal of an optional string: quoted, or `None`. -/
def optionLiteral : Option String → String
  | some s => Text.quote s
  | none => "None"

/-- The message of a failure. -/
def message : BuildError → String
  | arity k n m => s!"{k.name} expected {n} children, got {m}"
  | unexpectedFields k names =>
      k.name ++ " got unexpected fields [" ++ ", ".intercalate (names.map Text.quote) ++ "]"
  | genderChildren n =>
      s!"GenderValue.__init__() takes 1 positional argument but {n + 1} were given"
  | badGender v => "Gender must be one of F, M, N, got " ++ v.repr
  | badOperator k op =>
      let which := if k = .equality then "equality" else "inequality"
      "Invalid " ++ which ++ " operator: " ++ optionLiteral op
  | badComparand k rhs =>
      if k = .equality then "Equality must compare against a value, got " ++ rhs.describe
      else "Inequality must compare against a number, got " ++ rhs.describe
  | unknownOperator op => "Unknown binary operator: " ++ op

end BuildError

/-- A field given when a node is built. `other` is a field no kind carries. -/
inductive FieldArg where
  | value (v : Datum)
  | name (d : Datum)
  | op (s : Option String)
  | pos (p : Pos)
  | ty (t : Option Ty)
  | const (b : Option Bool)
  | input (s : Option String)
  | other (key : String)

namespace FieldArg

/-- The field an argument sets, if any kind carries it. -/
def field? : FieldArg → Option FieldName
  | value _ => some .value
  | name _ => some .name
  | op _ => some .op
  | pos _ => some .pos
  | ty _ => some .ty
  | const _ => some .const
  | input _ => some .input
  | other _ => none

/-- The name under which the argument is given. -/
def key (a : FieldArg) : String :=
  match a with
  | other k => k
  | _ => (a.field?.map FieldName.label).getD ""

/-- The field record with this argument set. -/
def apply (f : Fields) : FieldArg → Fields
  | value v => { f with value := v }
  | name d => { f with name := d }
  | op s => { f with op := s }
  | pos p => { f with pos := p }
  | ty t => { f with ty := t }
  | const b => { f with const := b }
  | input s => { f with input := s }
  | other _ => f

/-- Whether the argument sets a field the kind carries. -/
def fitsKind (k : Kind) (a : FieldArg) : Bool :=
  match a.field? with
  | some fld => k.has fld
  | none => false

end FieldArg

namespace Node

/-- The field record of a fresh node of kind `k`: defaults, then the arguments in order. -/
def fieldsOf (k : Kind) (args : List FieldArg) : Fields :=
  (args.filter (·.fitsKind k)).foldl FieldArg.apply {}

/-- The checks a node of kind `k` passes before its children and fields are looked at as a
whole: a gender value takes no children and one of three values, and a comparison knows its
operator. -/
def checkHead (k : Kind) (childCount : Nat) (f : Fields) : Except BuildError Unit := do
  if k = .genderValue then
    if childCount ≠ 0 then throw (.genderChildren childCount)
    match f.value with
    | .scalar (.str "F") | .scalar (.str "M") | .scalar (.str "N") => pure ()
    | v => throw (.badGender v)
  if k = .equality ∧ !(f.op == some "=" || f.op == some "!=") then
    throw (.badOperator k f.op)
  if k = .inequality ∧ !([some "<", some "<=", some ">", some ">="].contains f.op) then
    throw (.badOperator k f.op)

/-- The right side of a comparison must be a value; for an inequality, a number value. -/
def checkComparand (k : Kind) (children : List Node) : Except BuildError Unit :=
  match k, children with
  | .equality, [_, rhs] => if rhs.kind.isValue then pure () else throw (.badComparand k rhs)
  | .inequality, [_, rhs] =>
      if rhs.kind = .numberValue then pure () else throw (.badComparand k rhs)
  | _, _ => pure ()

/-- The number of children must fit the kind. -/
def checkArity (k : Kind) (children : List Node) : Except BuildError Unit :=
  match k.arity with
  | some n => if children.length = n then pure () else throw (.arity k n children.length)
  | none => pure ()

/-- Builds a node of kind `k`, checking it. -/
def build (k : Kind) (children : List Node) (args : List FieldArg) : Except BuildError Node := do
  let f := fieldsOf k args
  -- a gender value reads its value argument before anything else
  checkHead k children.length f
  checkArity k children
  let extra := (args.filter (!·.fitsKind k)).map FieldArg.key
  if !extra.isEmpty then
    throw (.unexpectedFields k (extra.mergeSort Text.textLe))
  checkComparand k children
  pure (mk k f children)

/-- Puts a node back together from new children and fields: the node itself when they have the
same keys as its own, otherwise a fresh node under the same checks. -/
def rebuild (n : Node) (children : List Node) (f : Fields) : Except BuildError Node :=
  if sameKey.sameKeys true children n.children && n.kind.fields.all (Fields.agreeOn true f n.fields ·)
  then pure n
  else do
    checkHead n.kind children.length f
    checkArity n.kind children
    checkComparand n.kind children
    pure (mk n.kind f children)

/-- Sets the fields given by `args`, keeping the children. The second component tells whether the
node came back as it was: every argument names a field of the kind and holds a value equal to the
current one (a NaN is equal to nothing). -/
def replace (n : Node) (args : List FieldArg) : Except BuildError (Node × Bool) :=
  let f := args.foldl FieldArg.apply n.fields
  let unchanged := args.all fun a =>
    match a.field? with
    | some fld => n.kind.has fld && Fields.agreeOn false f n.fields fld
    | none => false
  if unchanged then pure (n, true)
  else do
    let extra := (args.filter (!·.fitsKind n.kind)).map FieldArg.key
    checkHead n.kind n.children.length f
    checkArity n.kind n.children
    if !extra.isEmpty then
      throw (.unexpectedFields n.kind (extra.mergeSort Text.textLe))
    checkComparand n.kind n.children
    pure (mk n.kind f n.children, false)

end Node

end Lingo
