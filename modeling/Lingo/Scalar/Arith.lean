import Lingo.Scalar.Basic

/-!
# Arithmetic on scalars

Addition, subtraction, multiplication, true division and negation of scalars. Integers (truth
values among them) stay exact under `+`, `-` and `*`; as soon as a double takes part, each integer
is first rounded to the nearest double, which fails for an integer past the largest finite double.
Dividing two integers rounds their exact quotient once. Strings concatenate under `+` and repeat
under `*` by an integer; any other mix of kinds is an error naming both kinds.
-/

namespace Lingo

-- Powers are the core library's, `Nat.pow` and `Int.pow`, whatever else is imported, so these
-- definitions read the same in every context; a literal exponent is typed to the same end.
attribute [local instance (high)] instPowNat

/-- Why an arithmetic operation on scalars has no result. -/
inductive ArithError where
  /-- The operator does not apply to these two kinds. -/
  | unsupported (op lhs rhs : String)
  /-- A string can only be followed by a string under `+`. -/
  | concatNonStr (rhs : String)
  /-- A list can only be followed by a list under `+`. -/
  | concatNonList (rhs : String)
  /-- Negation does not apply to this kind. -/
  | badUnary (op kind : String)
  /-- A string repeats only by an integer. -/
  | repeatByNonInt (kind : String)
  /-- A repetition count outside the range of lengths and indices, `[-2^63, 2^63)`. -/
  | countTooLarge
  /-- A repeated string would be longer than any length. -/
  | repeatTooLong
  /-- A repeated list would have more items than any length. -/
  | listTooLong
  /-- An integer has no finite double. -/
  | intTooLarge
  /-- The exact quotient of two integers rounds past the largest finite double. -/
  | quotientTooLarge
  /-- Integer division by zero. -/
  | divisionByZero
  /-- Division by zero where a double takes part. -/
  | floatDivisionByZero
  /-- An integer with more decimal digits than text may hold. -/
  | tooManyDigits
  /-- A numeral with more decimal digits than an integer is read from, with its digit count. -/
  | numeralTooLong (digits : Nat)
  deriving Inhabited, DecidableEq

namespace ArithError

/-- The kind of failure, as the error's class name. -/
def kind : ArithError → String
  | unsupported .. | concatNonStr _ | concatNonList _ | badUnary .. | repeatByNonInt _ => "TypeError"
  | countTooLarge | repeatTooLong | intTooLarge | quotientTooLarge => "OverflowError"
  | divisionByZero | floatDivisionByZero => "ZeroDivisionError"
  | listTooLong => "MemoryError"
  | tooManyDigits | numeralTooLong _ => "ValueError"

/-- The message of a failure. -/
def message : ArithError → String
  | unsupported op l r => s!"unsupported operand type(s) for {op}: '{l}' and '{r}'"
  | concatNonStr r => "can only concatenate str (not \"" ++ r ++ "\") to str"
  | concatNonList r => "can only concatenate list (not \"" ++ r ++ "\") to list"
  | badUnary op k => s!"bad operand type for unary {op}: '{k}'"
  | repeatByNonInt k => s!"can't multiply sequence by non-int of type '{k}'"
  | countTooLarge => "cannot fit \x27int\x27 into an index-sized integer"
  | repeatTooLong => "repeated string is too long"
  | listTooLong => ""
  | intTooLarge => "int too large to convert to float"
  | quotientTooLarge => "integer division result too large for a float"
  | divisionByZero => "division by zero"
  | floatDivisionByZero => "float division by zero"
  | tooManyDigits =>
      "Exceeds the limit (4300 digits) for integer string conversion; " ++
        "use sys.set_int_max_str_digits() to increase the limit"
  | numeralTooLong n =>
      s!"Exceeds the limit (4300 digits) for integer string conversion: value has {n} digits; " ++
        "use sys.set_int_max_str_digits() to increase the limit"

end ArithError

namespace Scalar

/-- The most decimal digits an integer is written with. -/
def maxDigits : Nat := 4300

/-- Refuses an integer with more than `maxDigits` decimal digits, which is never written out. -/
def writable : Scalar → Except ArithError Unit
  | int i => if 10 ^ maxDigits ≤ i.natAbs then throw .tooManyDigits else pure ()
  | _ => pure ()

/-- The plain text of a scalar, refusing an integer too long to write. -/
def text? (s : Scalar) : Except ArithError String := do
  s.writable
  pure s.text

/-- The text of a number in a rendered template, refusing an integer too long to write. -/
def numberText? (s : Scalar) : Except ArithError String := do
  s.writable
  pure s.numberText

end Scalar

namespace Num

/-- A number as a double; an integer is rounded to the nearest one. -/
def toFloat : Num → Except ArithError Float
  | .float x => pure x
  | .int i =>
      match Binary64.ofInt? i with
      | some x => pure x
      | none => throw .intTooLarge

/-- A number as a scalar. -/
def toScalar : Num → Scalar
  | .int i => .int i
  | .float x => .float x

/-- Applies an integer operation to two integers, or a double operation once either side is a
double. -/
def lift (fi : Int → Int → Int) (ff : Float → Float → Float) (a b : Num) : Except ArithError Num :=
  match a, b with
  | .int x, .int y => pure (.int (fi x y))
  | _, _ => do
      let x ← a.toFloat
      let y ← b.toFloat
      pure (.float (ff x y))

/-- True division: the exact quotient of two integers rounded once, or the quotient of doubles. -/
def divide (a b : Num) : Except ArithError Num :=
  match a, b with
  | .int x, .int y =>
      if y = 0 then throw .divisionByZero
      else
        match Binary64.ofFraction (decide ((x < 0) ≠ (y < 0))) x.natAbs y.natAbs with
        | some q => pure (.float q)
        | none => throw .quotientTooLarge
  | _, _ => do
      let x ← a.toFloat
      let y ← b.toFloat
      if y == 0 then throw .floatDivisionByZero else pure (.float (x / y))

end Num

namespace Scalar

/-- The integer a truth value or integer stands for, as a repetition count. -/
def count? : Scalar → Option Int
  | bool b => some (if b then 1 else 0)
  | int i => some i
  | _ => Option.none

/-- `s` repeated `n` times; empty for `n ≤ 0`. The count must lie in the range of indices, even
when the result is empty. -/
def repeatStr (s : String) (n : Int) : Except ArithError Scalar :=
  if n < -2 ^ (63 : Nat) ∨ 2 ^ (63 : Nat) ≤ n then throw .countTooLarge
  else if n ≤ 0 ∨ s.isEmpty then pure (str "")
  else if 2 ^ (63 : Nat) ≤ Text.codeLength s * n.toNat then throw .repeatTooLong
  else pure (str (String.join (List.replicate n.toNat s)))

/-- The sum of two scalars: numbers add, strings concatenate. -/
def add (a b : Scalar) : Except ArithError Scalar :=
  match a, b with
  | str x, str y => pure (str (x ++ y))
  | str _, _ => throw (.concatNonStr b.kindName)
  | _, _ =>
      match a.num?, b.num? with
      | some x, some y => Num.toScalar <$> Num.lift (· + ·) (· + ·) x y
      | _, _ => throw (.unsupported "+" a.kindName b.kindName)

/-- The difference of two numbers. -/
def sub (a b : Scalar) : Except ArithError Scalar :=
  match a.num?, b.num? with
  | some x, some y => Num.toScalar <$> Num.lift (· - ·) (· - ·) x y
  | _, _ => throw (.unsupported "-" a.kindName b.kindName)

/-- The product of two numbers, or a string repeated by an integer. -/
def mul (a b : Scalar) : Except ArithError Scalar :=
  match a, b with
  | str x, _ =>
      match b.count? with
      | some n => repeatStr x n
      | Option.none => throw (.repeatByNonInt b.kindName)
  | _, str y =>
      match a.count? with
      | some n => repeatStr y n
      | Option.none => throw (.repeatByNonInt a.kindName)
  | _, _ =>
      match a.num?, b.num? with
      | some x, some y => Num.toScalar <$> Num.lift (· * ·) (· * ·) x y
      | _, _ => throw (.unsupported "*" a.kindName b.kindName)

/-- The true quotient of two numbers. -/
def div (a b : Scalar) : Except ArithError Scalar :=
  match a.num?, b.num? with
  | some x, some y => Num.toScalar <$> Num.divide x y
  | _, _ => throw (.unsupported "/" a.kindName b.kindName)

/-- The negation of a number; a truth value negates as an integer. -/
def neg (a : Scalar) : Except ArithError Scalar :=
  match a.num? with
  | some (.int i) => pure (int (-i))
  | some (.float x) => pure (float (-x))
  | Option.none => throw (.badUnary "-" a.kindName)

end Scalar

end Lingo
