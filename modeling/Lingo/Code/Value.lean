import Lingo.Code.Render
import Lingo.Datum.Arith

/-!
# Runtime values

Compiled templates run on a small dynamic world: scalars; safe strings, which are text already
encoded for the output and never encoded again; byte strings, which text becomes when encoded by a
codec; tuples, lists and string-keyed dictionaries; functions defined by a module, built-in
functions and types, bound methods, functions the host supplies, the output context, and
exceptions. Every datum is a value (`Value.ofDatum`). A failure while running is a `Raised`
exception with its class name and message.

A function defined by a module remembers where it looks up built-in names: the module's binding of
`__builtins__` when the function was defined, if the module had bound that name by then, and
otherwise the built-ins themselves.

Truth, plain text and equality follow the usual dynamic rules: a safe string is always true and
equals only a safe string with the same contents, and numbers compare by value across kinds.
-/

namespace Lingo

namespace Code

/-- The built-in functions and types that emitted code may name. -/
inductive Builtin where
  | isinstance
  | callable
  | str
  | int
  | float
  | bool
  | typeError
  | valueError
  deriving DecidableEq, Inhabited

namespace Builtin

/-- The name a built-in is known by. -/
def name : Builtin → String
  | isinstance => "isinstance"
  | callable => "callable"
  | str => "str"
  | int => "int"
  | float => "float"
  | bool => "bool"
  | typeError => "TypeError"
  | valueError => "ValueError"

/-- Every built-in. -/
def all : List Builtin := [isinstance, callable, str, int, float, bool, typeError, valueError]

/-- The built-in of a name, if there is one. -/
def ofName? (s : String) : Option Builtin := all.find? (·.name == s)

/-- Whether a built-in is a type rather than a function. -/
def isType : Builtin → Bool
  | isinstance | callable => false
  | _ => true

end Builtin

/-- A function the host supplies to templates. -/
inductive HostFn where
  /-- Returns the encoded texts of its arguments joined by commas inside a tag, as safe text. -/
  | wrap (tag : String)
  /-- Returns the plain texts of its arguments joined by a separator. -/
  | join (sep : String)
  /-- Returns a fixed datum. -/
  | returns (v : Datum)
  /-- Raises a `ValueError` with a message. -/
  | raises (message : String)
  deriving Inhabited

/-- A value of the running program. -/
inductive Value where
  | scalar (s : Scalar)
  | safe (s : String)
  | bytes (data : List Nat)
  | tuple (items : List Value)
  | list (items : List Value)
  | dict (entries : List (String × Value))
  | builtin (b : Builtin)
  | method (recv : Value) (name : String)
  | closure (name : String) (params : List String) (body : List Stmt) (builtins : Option Value)
  | host (f : HostFn)
  | context (quote : Bool)
  | exception (kind message : String)
  deriving Inhabited

/-- An exception that escaped: its class name and message. -/
structure Raised where
  kind : String
  message : String
  deriving Inhabited

namespace Value

/-- The string value `s`. -/
def str (s : String) : Value := scalar (.str s)

/-- The truth value `b`. -/
def ofBool (b : Bool) : Value := scalar (.bool b)

/-- The nothing value. -/
def none : Value := scalar .none

/-- The name of a value's type, as messages write it. -/
def typeName : Value → String
  | scalar s => s.kindName
  | safe _ => "SafeString"
  | bytes _ => "bytes"
  | tuple _ => "tuple"
  | list _ => "list"
  | dict _ => "dict"
  | builtin b => if b.isType then "type" else "builtin_function_or_method"
  | method (dict _) _ | method (scalar _) _ => "builtin_function_or_method"
  | method .. => "method"
  | closure .. | host _ => "function"
  | context _ => "HtmlContext"
  | exception k _ => k

/-- Whether a value counts as true. -/
def truthy : Value → Bool
  | scalar .none => false
  | scalar (.bool b) => b
  | scalar (.int i) => i != 0
  | scalar (.float x) => !(x == 0)
  | scalar (.str s) => !s.isEmpty
  | bytes data => !data.isEmpty
  | tuple items => !items.isEmpty
  | list items => !items.isEmpty
  | dict entries => !entries.isEmpty
  | _ => true

/-- Whether a value can be called. -/
def isCallable : Value → Bool
  | builtin _ | method .. | closure .. | host _ => true
  | _ => false

mutual

/-- The plain text of a value; a safe string gives its contents. -/
def text : Value → String
  | scalar s => s.text
  | safe s => s
  | bytes data => Text.quoteBytes data
  | tuple items => "(" ++ itemsText (reprAll items) ++ ")"
  | list items => "[" ++ ", ".intercalate (reprAll items) ++ "]"
  | dict entries => "\x7b" ++ ", ".intercalate (reprEntries entries) ++ "\x7d"
  | builtin b => if b.isType then "<class " ++ Text.quote b.name ++ ">" else "<built-in function " ++ b.name ++ ">"
  | method _ m => "<bound method " ++ m ++ ">"
  | closure f _ _ _ => "<function " ++ f ++ ">"
  | host _ => "<function>"
  | context _ => "<HtmlContext object>"
  | exception _ m => m

/-- The literal text of a value, as it shows inside a container. -/
def repr : Value → String
  | scalar s => s.literal
  | safe s => "SafeString(" ++ Text.quote s ++ ")"
  | v => text v

/-- The literal texts of values. -/
def reprAll : List Value → List String
  | [] => []
  | v :: vs => repr v :: reprAll vs

/-- The texts of dictionary entries. -/
def reprEntries : List (String × Value) → List String
  | [] => []
  | (k, v) :: es => (Text.quote k ++ ": " ++ repr v) :: reprEntries es

end

mutual

/-- Equality of values: scalars by value, safe strings and byte strings by contents, tuples and
lists item by item, dictionaries by keys and values whatever their order. -/
def equal : Value → Value → Bool
  | scalar a, scalar b => a.sameValue b
  | safe a, safe b => a == b
  | bytes a, bytes b => a == b
  | tuple as, tuple bs => equalAll as bs
  | list as, list bs => equalAll as bs
  | dict as, dict bs => as.length == bs.length && entriesWithin as bs
  | exception .., exception .. => false
  | builtin a, builtin b => a == b
  | context _, context _ => false
  | _, _ => false

/-- Item-by-item equality of lists of values. -/
def equalAll : List Value → List Value → Bool
  | [], [] => true
  | a :: as, b :: bs => equal a b && equalAll as bs
  | _, _ => false

/-- Whether each entry of the first dictionary has its key in the second with an equal value. -/
def entriesWithin : List (String × Value) → List (String × Value) → Bool
  | [], _ => true
  | (k, a) :: es, bs =>
      (match bs.find? (·.1 == k) with
        | some (_, b) => equal a b
        | Option.none => false) && entriesWithin es bs

end

mutual

/-- The value of a datum: lists and dictionaries hold the values of their items. -/
def ofDatum : Datum → Value
  | .scalar s => scalar s
  | .safe s => safe s
  | .list items => list (ofData items)
  | .dict entries => dict (ofEntries entries)

/-- The values of a list of data. -/
def ofData : List Datum → List Value
  | [] => []
  | d :: ds => ofDatum d :: ofData ds

/-- The entries of a dictionary of data, as values. -/
def ofEntries : List (String × Datum) → List (String × Value)
  | [] => []
  | (k, d) :: es => (k, ofDatum d) :: ofEntries es

end

mutual

/-- The datum a value is, when it is one: a scalar, a safe string, or a list or dictionary of
data. -/
def toDatum? : Value → Option Datum
  | scalar s => some (.scalar s)
  | safe s => some (.safe s)
  | list items => Datum.list <$> toData? items
  | dict entries => Datum.dict <$> toEntries? entries
  | _ => Option.none

/-- The data a list of values is, when each is one. -/
def toData? : List Value → Option (List Datum)
  | [] => some []
  | v :: vs => do pure ((← toDatum? v) :: (← toData? vs))

/-- The entries of a dictionary as data, when each value is one. -/
def toEntries? : List (String × Value) → Option (List (String × Datum))
  | [] => some []
  | (k, v) :: es => do pure ((k, ← toDatum? v) :: (← toEntries? es))

end

end Value

/-- The text with `&`, `<` and `>` escaped for markup, and both quotes too when `quote` is set. -/
def htmlEscape (quote : Bool) (s : String) : String :=
  String.join (s.toList.map fun c =>
    if c = '&' then "&amp;"
    else if c = '<' then "&lt;"
    else if c = '>' then "&gt;"
    else if quote && c = '"' then "&quot;"
    else if quote && c = '\x27' then "&#x27;"
    else c.toString)

end Code

end Lingo
