import Lingo.Datum.Arith
import Lingo.Tree.Build
import Lingo.Text.Pointer

/-!
# Why compiling or rendering fails

Every failure of the library is a value of `Failure`, one constructor per cause, with what the
cause needs to be explained. `Failure.kind` names the class of a failure and `Failure.message`
words it; a failure that points into a template shows the source with a caret under the place.
-/

namespace Lingo

/-- A place in a template and the source text shown around it. -/
structure Location where
  pos : Pos
  source : String

/-- A use that asks a type the expression or variable does not have. `var` is the variable's
name, nothing when no variable is involved. -/
structure TypeMismatch where
  expected : List Ty
  found : Ty
  var : Datum
  location : Option Location

namespace TypeMismatch

/-- The sentence that states the conflict. -/
def detail (e : TypeMismatch) : String :=
  let types := ", ".intercalate (e.expected.map Ty.name)
  let subject := if e.var.isNone then "Expression" else "Variable $" ++ e.var.text
  subject ++ " was expected to have type: " ++ types ++ ", found: " ++ e.found.name ++ "."

/-- The full message, pointing into the source when the place is known. -/
def message (e : TypeMismatch) : String :=
  match e.location with
  | some l =>
      s!"Type error at line {l.pos.firstLine}:\n" ++
        Text.pointAt l.source e.detail l.pos.firstLine l.pos.firstColumn
  | none => "Type error: " ++ e.detail

/-- The place of a node in a source, when the node has a position and the source is known. -/
def locate (node : Option Node) (source : Option String) : Option Location :=
  match node, source with
  | some n, some s => if n.kind.has .pos then some ⟨n.pos, s⟩ else none
  | _, _ => none

/-- The conflict as a use reports it: the source shown is the constraint text when the use is in
the constraints, else the template text. -/
def ofParts (expected : List Ty) (found : Ty) (var : Datum) (node : Option Node)
    (text constraintText : Option String) (inConstraints : Bool) : TypeMismatch :=
  { expected, found, var, location := locate node (if inConstraints then constraintText else text) }

end TypeMismatch

/-- A variable or function that the translation may not use, or a variable with no type. -/
structure UnknownSymbol where
  name : Datum
  /-- The names that are allowed; `none` for a variable means no types were inferred. -/
  allowed : Option (List Datum)
  /-- The position of the offending node, when it has one. -/
  pos : Option Pos
  /-- The source text of the template, when known. -/
  source : Option String

namespace UnknownSymbol

/-- The position a node gives a report, when its kind has one. -/
def posOf (node : Option Node) : Option Pos :=
  node.bind fun n => if n.kind.has .pos then some n.pos else none

/-- The report for the symbol `name` used at `node` in the source `text`. -/
def ofParts (name : Datum) (allowed : Option (List Datum)) (node : Option Node)
    (text : Option String) : UnknownSymbol :=
  { name, allowed, pos := posOf node, source := text }

/-- The message for an unknown variable. -/
def variableMessage (e : UnknownSymbol) : String :=
  match e.allowed with
  | none =>
      "No type information for variable $" ++ e.name.text ++
        ". Are you sure you ran the type inference phase first?"
  | some names =>
      let known := ", ".intercalate (names.map ("$" ++ ·.text))
      let v := e.name.text
      match e.pos, e.source with
      | some p, some s =>
          s!"Unknown variable ${v} used on line {p.firstLine}:\n" ++
            Text.pointAt s
              ("Variable $" ++ v ++ " is not known to this translation. Known variables are: " ++ known)
              p.firstLine p.firstColumn
      | _, _ => "Unknown variable $" ++ v ++ ". Known variables are: " ++ known

/-- The message for an unknown function. -/
def functionMessage (e : UnknownSymbol) : String :=
  let known := ", ".intercalate ((e.allowed.getD []).map Datum.text)
  let f := e.name.text
  let detail := "Function " ++ f ++ " is not known to this translation. Known functions are: " ++ known
  match e.pos, e.source with
  | some p, some s =>
      s!"Unknown function {f} used on line {p.firstLine}:\n" ++
        Text.pointAt s detail p.firstLine p.firstColumn
  | _, _ => "Unknown function " ++ f ++ ". " ++ detail

end UnknownSymbol

/-- The message of a syntax error in a template source: it points into the text when both the text
and the position are known. -/
def parseErrorMessage (message : String) (text : Option String) (pos : Option Pos) : String :=
  match text, pos with
  | some t, some p =>
      s!"Parse error on line {p.firstLine}:\n" ++ Text.pointAt t message p.firstLine p.firstColumn
  | _, _ => message

/-- Why constant folding cannot evaluate an expression. -/
inductive FoldError where
  /-- Negation of a string literal. -/
  | negString
  /-- An arithmetic operator other than `+` applied to a string. -/
  | notNumbers (op lhs rhs : String)
  /-- Division by a literal zero. -/
  | divisionByZero

namespace FoldError

/-- The message of a folding failure. -/
def message : FoldError → String
  | negString =>
      "Could not constant fold expression. Unary minus on a string. " ++
        "This should have been caught during type inference."
  | notNumbers op l r =>
      s!"Could not constant fold expression. {op} operation between {l} and {r}. " ++
        "Only allowed between 2 numbers."
  | divisionByZero => "Could not constant fold expression. Division by zero."

end FoldError

/-- Every way compiling, analysing or rendering a template can fail. -/
inductive Failure where
  /-- A node that its kind does not allow. -/
  | build (e : BuildError)
  /-- A type name that names no type. -/
  | unknownTypeName (name : String)
  /-- A use recorded after the type map was frozen. -/
  | frozenUsage (var : Datum)
  /-- A function declared after the type map was frozen. -/
  | frozenFunction (name : Datum)
  /-- A pass that needs a frozen type map got one that is not. -/
  | notFrozen
  /-- A function declared with parameter types a second time. -/
  | redeclared (name : Datum)
  /-- A list or dictionary used as a key, with its kind. -/
  | unhashable (kind : String)
  /-- A type conflict. -/
  | typeMismatch (e : TypeMismatch)
  /-- A variable that is unknown or not allowed. -/
  | unknownVariable (e : UnknownSymbol)
  /-- A function that is not allowed. -/
  | unknownFunction (e : UnknownSymbol)
  /-- A rule that can never be reached, with its index and the number of rules. -/
  | deadCode (deadRule rules : Nat)
  /-- Constant folding cannot evaluate an expression. -/
  | fold (e : FoldError)
  /-- Arithmetic on values has no result. -/
  | arith (e : ArithError)
  /-- Repeated folding still changes the tree after this many rounds. -/
  | noFixedPoint (rounds : Int)
  /-- A node of a kind in a place where it has no meaning, with what the place expected. -/
  | misplaced (what : String)
  /-- A node lacks a part that its place needs, as `(kind, part)`. -/
  | missingPart (kind part : String)
  /-- A type that has no runtime test. -/
  | guardForError
  /-- A runtime test asked for no type at all. -/
  | missingType
  /-- A rule set without rules. -/
  | noRules
  /-- A message of the host program's own making, with its class name. -/
  | other (kind message : String)

namespace Failure

/-- The class name of a failure. -/
def kind : Failure → String
  | build e => e.kind
  | unknownTypeName _ => "ValueError"
  | frozenUsage _ | frozenFunction _ | notFrozen => "FrozenTypeMapError"
  | redeclared _ => "FunctionRedeclarationError"
  | unhashable _ => "TypeError"
  | typeMismatch _ => "TranslationTypeError"
  | unknownVariable _ => "UnknownVariableError"
  | unknownFunction _ => "UnknownFunctionError"
  | deadCode .. => "DeadCodeError"
  | fold _ => "ConstantFoldError"
  | arith e => e.kind
  | noFixedPoint _ => "RuntimeError"
  | misplaced _ => "ValueError"
  | missingPart .. => "AttributeError"
  | guardForError | missingType => "ValueError"
  | noRules => "ValueError"
  | other k _ => k

/-- The message of a failure. -/
def message : Failure → String
  | build e => e.message
  | unknownTypeName n => "Unknown type name: " ++ n
  | frozenUsage v => "Cannot add type usage for " ++ v.text ++ " when type map is frozen"
  | frozenFunction n => "Cannot add function " ++ n.text ++ " after map is frozen"
  | notFrozen => "Type map passed must be frozen. Use TypeMap.freeze()"
  | redeclared n => "Function " ++ n.text ++ " has already been declared"
  | unhashable k => "unhashable type: \x27" ++ k ++ "\x27"
  | typeMismatch e => e.message
  | unknownVariable e => e.variableMessage
  | unknownFunction e => e.functionMessage
  | deadCode .. => "Dead code"
  | fold e => e.message
  | arith e => e.message
  | noFixedPoint n => s!"Fixed point iteration did not converge in {n} iterations"
  | misplaced what => what
  | missingPart k p => "'" ++ k ++ "' object has no attribute '" ++ p ++ "'"
  | guardForError => "Cannot generate type guards for an error type!"
  | missingType => "Unknown type: None"
  | noRules => "No constraints found"
  | other _ m => m

end Failure

/-- The position and kind of the first entry of a list of names that is not a string. -/
def firstNonString : List Datum → Option (Nat × String)
  | [] => none
  | d :: ds => if d.isStr then (firstNonString ds).map fun (i, k) => (i + 1, k) else some (0, d.kindName)

/-- The failure that reports an unknown function. Its message joins the allowed functions, which
only strings can be, so with another entry in that list no report can be written, and the attempt
fails with a type error naming the first such entry. -/
def Failure.ofUnknownFunction (e : UnknownSymbol) : Failure :=
  match firstNonString (e.allowed.getD []) with
  | some (i, k) =>
      .other "TypeError" ("sequence item " ++ toString i ++ ": expected str instance, " ++ k ++ " found")
  | none => .unknownFunction e

/-- The type with a given name, or the failure for a name that names none. -/
def Ty.parse (s : String) : Except Failure Ty :=
  match Ty.ofName? s with
  | some t => pure t
  | none => throw (.unknownTypeName s)

/-- The type a datum names: only a string can name one. -/
def Ty.ofDatum (d : Datum) : Except Failure Ty :=
  match d with
  | .scalar (.str s) => Ty.parse s
  | d => throw (.unknownTypeName d.text)

/-- Refuses a list or dictionary where a key is needed. -/
def Datum.hashable (d : Datum) : Except Failure Unit :=
  match d.unhashable? with
  | some k => throw (.unhashable k)
  | Option.none => pure ()

end Lingo
