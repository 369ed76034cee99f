import Lingo.Datum.Basic
import Lingo.Scalar.Arith

/-!
# Arithmetic on data

The operators of templates extended from scalars to all data. Lists concatenate under `+` and
repeat under `*` by an integer, on either side; a string or a list followed by a datum of another
kind under `+` is refused naming that kind; a safe string or a dictionary takes part in no
arithmetic at all. Everything between two scalars is `Scalar`'s arithmetic.
-/

namespace Lingo

-- Powers are the core library's, `Nat.pow` and `Int.pow`, whatever else is imported, so these
-- definitions read the same in every context; a literal exponent is typed to the same end.
attribute [local instance (high)] instPowNat

namespace Datum

/-- Refuses a datum holding an integer with more than `Scalar.maxDigits` decimal digits, which is
never written out. -/
def writable : Datum → Except ArithError Unit
  | scalar s => s.writable
  | safe _ => pure ()
  | list items => writableAll items
  | dict entries => writableEntries entries
where
  /-- Refuses a list holding such an integer. -/
  writableAll : List Datum → Except ArithError Unit
    | [] => pure ()
    | d :: ds => do writable d; writableAll ds
  /-- Refuses dictionary entries holding such an integer. -/
  writableEntries : List (String × Datum) → Except ArithError Unit
    | [] => pure ()
    | (_, d) :: es => do writable d; writableEntries es

/-- The text of a datum in a rendered template: a double with no fractional part is written as the
integer it holds, any other datum as its plain text. -/
def numberText : Datum → String
  | scalar s => s.numberText
  | d => d.text

/-- The plain text of a datum, refusing one that holds an integer too long to write. -/
def text? (d : Datum) : Except ArithError String := do
  d.writable
  pure d.text

/-- The text of a datum in a rendered template, refusing one that holds an integer too long to
write. -/
def numberText? (d : Datum) : Except ArithError String := do
  d.writable
  pure d.numberText

/-- The items of `xs` repeated `n` times; none for `n ≤ 0`. The count must lie in the range of
indices, and the result must be addressable. -/
def repeatList (xs : List Datum) (n : Int) : Except ArithError Datum :=
  if n < -2 ^ (63 : Nat) ∨ 2 ^ (63 : Nat) ≤ n then throw .countTooLarge
  else if n ≤ 0 ∨ xs.isEmpty then pure (list [])
  else if 2 ^ (63 : Nat) ≤ 8 * (xs.length * n.toNat) then throw .listTooLong
  else pure (list (List.flatten (List.replicate n.toNat xs)))

/-- The sum of two data: scalars as `Scalar.add`, lists concatenated. -/
def add (a b : Datum) : Except ArithError Datum :=
  match a, b with
  | scalar x, scalar y => scalar <$> x.add y
  | scalar (.str _), _ => throw (.concatNonStr b.kindName)
  | list xs, list ys => pure (list (xs ++ ys))
  | list _, _ => throw (.concatNonList b.kindName)
  | _, _ => throw (.unsupported "+" a.kindName b.kindName)

/-- The difference of two numbers. -/
def sub (a b : Datum) : Except ArithError Datum :=
  match a, b with
  | scalar x, scalar y => scalar <$> x.sub y
  | _, _ => throw (.unsupported "-" a.kindName b.kindName)

/-- The product of two numbers, or a string or list repeated by an integer; a string or list on
the left is the one repeated, so it is the right operand that must be an integer. -/
def mul (a b : Datum) : Except ArithError Datum :=
  match a, b with
  | scalar x, scalar y => scalar <$> x.mul y
  | list xs, _ =>
      match b.count? with
      | some n => repeatList xs n
      | Option.none => throw (.repeatByNonInt b.kindName)
  | scalar (.str _), _ => throw (.repeatByNonInt b.kindName)
  | _, list ys =>
      match a.count? with
      | some n => repeatList ys n
      | Option.none => throw (.repeatByNonInt a.kindName)
  | _, scalar (.str _) => throw (.repeatByNonInt a.kindName)
  | _, _ => throw (.unsupported "*" a.kindName b.kindName)

/-- The true quotient of two numbers. -/
def div (a b : Datum) : Except ArithError Datum :=
  match a, b with
  | scalar x, scalar y => scalar <$> x.div y
  | _, _ => throw (.unsupported "/" a.kindName b.kindName)

/-- The negation of a number. -/
def neg (a : Datum) : Except ArithError Datum :=
  match a with
  | scalar x => scalar <$> x.neg
  | _ => throw (.badUnary "-" a.kindName)

theorem add_list (xs ys : List Datum) : (list xs).add (list ys) = pure (list (xs ++ ys)) := rfl

end Datum

end Lingo
