/-!
# Types of template variables and expressions

Seven types, ordered by how much is known: `unknown` is the least element and `error`, the type of
a conflict, absorbs everything. `numberOrString` is what a bare interpolation asks of a variable;
a later use as a number or a string refines it. `enum` and `gender` are strings that constraints
compare against fixed values, and an expression sees them as plain strings (`Ty.narrow`).
-/

namespace Lingo

/-- The type of a template variable or expression. -/
inductive Ty where
  | unknown
  | number
  | string
  | enum
  | gender
  | numberOrString
  | error
  deriving Repr, DecidableEq, Inhabited

namespace Ty

/-- All types, in their declaration order. -/
def all : List Ty := [unknown, number, string, enum, gender, numberOrString, error]

/-- The name of a type, as written in templates and messages. -/
def name : Ty → String
  | unknown => "unknown"
  | number => "number"
  | string => "string"
  | enum => "enum"
  | gender => "gender"
  | numberOrString => "number-or-string"
  | error => "error"

/-- The position of a type in the declaration order. -/
def idx : Ty → Nat
  | unknown => 0
  | number => 1
  | string => 2
  | enum => 3
  | gender => 4
  | numberOrString => 5
  | error => 6

/-- The type with a given name. -/
def ofName? (s : String) : Option Ty := all.find? (·.name == s)

/-- The type that knows both what `t` says and what a new use `u` says, or `error` when they
conflict. An `unknown` use adds nothing. -/
def merge : Ty → Ty → Ty
  | t, unknown => t
  | unknown, u => u
  | error, _ => error
  | _, error => error
  | number, number => number
  | number, numberOrString => number
  | number, _ => error
  | string, number => error
  | string, numberOrString => string
  | string, u => u
  | enum, number => error
  | enum, gender => error
  | enum, _ => enum
  | gender, number => error
  | gender, enum => error
  | gender, _ => gender
  | numberOrString, u => u

/-- The type an expression sees: enums and genders are strings there. -/
def narrow : Ty → Ty
  | gender => string
  | enum => string
  | t => t

/-- The type of `a + b` for operand types `a` and `b`: a number only from two numbers, the common
type when both agree, and `numberOrString` when they differ. -/
def plusResult (a b : Ty) : Ty :=
  if a = number ∧ b = number then number
  else if a ≠ b then numberOrString
  else a

/-- Whether `+` accepts an operand of this type. -/
def isPlusOperand : Ty → Bool
  | number | string | numberOrString => true
  | _ => false

end Ty

end Lingo
