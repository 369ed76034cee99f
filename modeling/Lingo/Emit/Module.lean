import Lingo.Emit.Translation

/-!
# Modules of translations

A module defines the helpers its translations call, in a fixed order, and then the translations.
`number_text` renders a double with no fractional part as an integer; `encode_if_string` renders
and encodes numbers and plain values but passes text that is already safe through unchanged;
`plus_op` adds two numbers and otherwise joins both operands as encoded, safe text.

A module of one translation binds its name to the constant or defines the function under it. A
module of several translations defines their functions and then a dictionary `translations` from
each key to its constant or function, in the order of the keys.
-/

namespace Lingo

namespace Emit

open Code

/-- The name of the value being rendered in the helpers. -/
def value : Expr := .name "value"

/-- `def number_text(value)`: a double with no fractional part is written as an integer. -/
def numberTextDef : Stmt :=
  .define "number_text" ["value"]
    [.ifThen (.logic .conj [isinstanceOf value ["float"], Expr.method value "is_integer" []])
      [.ret (Expr.callName "str" [Expr.callName "int" [value]])],
     .ret (Expr.callName "str" [value])]

/-- `def encode_if_string(ctx, value)`: encodes a value unless it is already safe text. -/
def encodeIfStringDef : Stmt :=
  .define "encode_if_string" [ctxName, "value"]
    [.ifThen (.logic .conj [isinstanceOf value ["int", "float"], .not (isinstanceOf value ["bool"])])
      [.ret (ctxMethod "encode" [Expr.callName "number_text" [value]])],
     .ifThen (.not (ctxMethod "is_safe_string" [value]))
      [.ret (ctxMethod "encode" [Expr.callName "str" [value]])],
     .ret (ctxMethod "convert_safe_string" [value])]

/-- `def plus_op(ctx, lhs, rhs)`: adds numbers, and joins anything else as encoded safe text. -/
def plusOpDef : Stmt :=
  let lhs := Expr.name "lhs"
  let rhs := Expr.name "rhs"
  .define "plus_op" [ctxName, "lhs", "rhs"]
    [.ifThen (.logic .conj [isinstanceOf lhs ["int", "float"], isinstanceOf rhs ["int", "float"]])
      [.ret (.arith .add lhs rhs)],
     .ret (ctxMethod "make_safe_string"
      [.arith .add (Expr.callName "encode_if_string" [ctx, lhs])
        (Expr.callName "encode_if_string" [ctx, rhs])])]

/-- The definitions of the helpers that `h` records, in a fixed order. -/
def helperDefs (h : Helpers) : List Stmt :=
  (if h.numberText then [numberTextDef] else []) ++
  (if h.encodeIfString then [encodeIfStringDef] else []) ++
  (if h.plusOp then [plusOpDef] else [])

/-- A module defining one translation under `name`, after the helpers. -/
def translationModule (e : Emitted) (h : Helpers) (name : String) : Program :=
  helperDefs h ++
    [match e with
     | .constant v => .assign name (.const v)
     | .function f body => Emitted.define f body]

/-- The definitions of the functions among keyed translations. -/
def functionDefs : List (String × Emitted) → List Stmt
  | [] => []
  | (_, .constant _) :: rest => functionDefs rest
  | (_, .function f body) :: rest => Emitted.define f body :: functionDefs rest

/-- The entry of a keyed translation in the `translations` dictionary. -/
def entryOf : String × Emitted → Expr × Expr
  | (key, .constant v) => (.str key, .const v)
  | (key, .function f _) => (.str key, .name f)

/-- A module defining keyed translations and the dictionary `translations` of them. -/
def translationsModule (es : List (String × Emitted)) (h : Helpers) : Program :=
  helperDefs h ++ functionDefs es ++ [.assign "translations" (.dict (es.map entryOf))]

end Emit

end Lingo
