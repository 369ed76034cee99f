import Lingo.Scalar.Basic

/-!
# Data

A datum is what a field of a template node, a parameter or the result of a host function holds: a
scalar, a safe string (text already encoded for the output), a list of data, or a dictionary from
strings to data with its entries in the order they were given.

Each datum has a plain text (`Datum.text`) and a literal text (`Datum.repr`), which differ for
strings, safe strings and scalars alike only in quoting; the items of a list and the entries of a
dictionary always show as literals. Two data are equal (`Datum.agree`) when they are equal
scalars, safe strings with the same contents, lists equal item by item, or dictionaries with the
same keys holding equal values, whatever the order of their entries. A list or a dictionary cannot
serve as a key (`Datum.unhashable?`).
-/

namespace Lingo

/-- A value held by a template field, a parameter or a host function's result. -/
inductive Datum where
  | scalar (s : Scalar)
  | safe (s : String)
  | list (items : List Datum)
  | dict (entries : List (String × Datum))
  deriving Inhabited

namespace Datum

/-- The nothing datum, which also stands for a field left out. -/
def none : Datum := scalar .none

/-- The string datum `s`. -/
def str (s : String) : Datum := scalar (.str s)

/-- The integer datum `i`. -/
def int (i : Int) : Datum := scalar (.int i)

/-- The name of a datum's kind, as messages write it. -/
def kindName : Datum → String
  | scalar s => s.kindName
  | safe _ => "SafeString"
  | list _ => "list"
  | dict _ => "dict"

/-- Whether a datum is nothing. -/
def isNone : Datum → Bool
  | scalar .none => true
  | _ => false

/-- Whether a datum is a string. -/
def isStr : Datum → Bool
  | scalar (.str _) => true
  | _ => false

/-- The repetition count a truth value or an integer stands for. -/
def count? : Datum → Option Int
  | scalar (.bool b) => some (if b then 1 else 0)
  | scalar (.int i) => some i
  | _ => Option.none

mutual

/-- The literal text of a datum: strings quoted, a safe string as `SafeString('…')`, lists and
dictionaries with their items as literals. -/
def repr : Datum → String
  | scalar s => s.literal
  | safe s => "SafeString(" ++ Text.quote s ++ ")"
  | list items => "[" ++ ", ".intercalate (reprAll items) ++ "]"
  | dict entries => "\x7b" ++ ", ".intercalate (reprEntries entries) ++ "\x7d"

/-- The literal texts of a list of data. -/
def reprAll : List Datum → List String
  | [] => []
  | d :: ds => repr d :: reprAll ds

/-- The texts of dictionary entries, each a quoted key, a colon and a literal. -/
def reprEntries : List (String × Datum) → List String
  | [] => []
  | (k, d) :: es => (Text.quote k ++ ": " ++ repr d) :: reprEntries es

end

/-- The plain text of a datum: a string or a safe string stands for itself. -/
def text : Datum → String
  | scalar s => s.text
  | safe s => s
  | d => d.repr

mutual

/-- Equality of data. `nanEq` decides whether two NaN doubles agree, as they do when they are one
and the same value seen twice. -/
def agree (nanEq : Bool) : Datum → Datum → Bool
  | scalar (.float x), scalar (.float y) =>
      (nanEq && Binary64.isNaN x && Binary64.isNaN y) || Scalar.sameValue (.float x) (.float y)
  | scalar a, scalar b => a.sameValue b
  | safe a, safe b => a == b
  | list as, list bs => agreeAll nanEq as bs
  | dict as, dict bs => as.length == bs.length && entriesWithin nanEq as bs
  | _, _ => false

/-- Item-by-item equality of lists of data. -/
def agreeAll (nanEq : Bool) : List Datum → List Datum → Bool
  | [], [] => true
  | a :: as, b :: bs => agree nanEq a b && agreeAll nanEq as bs
  | _, _ => false

/-- Whether each entry of the first dictionary has its key in the second with an equal value. -/
def entriesWithin (nanEq : Bool) : List (String × Datum) → List (String × Datum) → Bool
  | [], _ => true
  | (k, a) :: es, bs =>
      (match bs.find? (·.1 == k) with
        | some (_, b) => agree nanEq a b
        | Option.none => false) && entriesWithin nanEq es bs

end

/-- Equality of data as values: a NaN equals nothing. -/
def sameValue (a b : Datum) : Bool := agree false a b

/-- The kind of a datum that cannot serve as a key: lists and dictionaries. -/
def unhashable? : Datum → Option String
  | list _ => some "list"
  | dict _ => some "dict"
  | _ => Option.none

theorem text_scalar (s : Scalar) : (scalar s).text = s.text := rfl

theorem repr_str (s : String) : (str s).repr = Text.quote s := rfl

end Datum

end Lingo
