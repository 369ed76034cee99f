import Lingo.Binary64
import Lingo.Text.Digit
import Lingo.Text.Space

/-!
# Reading a double from decimal text

`readFloat? s` reads text as a double in four steps.

1. Past ASCII, a wide space becomes a space and a decimal digit of any script becomes its ASCII
   digit; any other character past ASCII, and the delete control, make the text unreadable.
2. An underscore may stand only between two digits, and is then dropped.
3. Blanks at both ends are dropped.
4. What remains is an optionally signed numeral, digits with an optional point and an optional
   exponent, with at least one digit before the exponent; or one of the words `inf`, `infinity`
   and `nan` in any case, after an optional sign.

The exact value of the numeral is rounded to the nearest double. A value past the largest finite
double reads as an infinity and one below the smallest positive double as a zero, however long
its exponent; a zero keeps its sign.
-/

namespace Lingo.Decimal

-- Powers are the core library's, `Nat.pow` and `Int.pow`, whatever else is imported, so these
-- definitions read the same in every context.
attribute [local instance (high)] instPowNat

/-- The ASCII form of a character, as step 1 reads it; none for a character that has none. -/
def asciiForm (c : Char) : Option Char :=
  if c.toNat < 0x7F then some c
  else if Text.isWideSpace c then some ' '
  else (Text.digitValue? c).map fun d => Char.ofNat (0x30 + d)

/-- The text without its underscores, when each of them stands between two digits; `prev` is the
character before the text, a blank at its start. -/
def dropUnderscores (prev : Char) : List Char → Option (List Char)
  | [] => if prev = '_' then none else some []
  | c :: cs =>
      if c = '_' then
        if prev.isDigit then dropUnderscores c cs else none
      else if prev = '_' ∧ !c.isDigit then none
      else (c :: ·) <$> dropUnderscores c cs

/-- The text without blanks at either end. -/
def trimBlanks (cs : List Char) : List Char :=
  ((cs.dropWhile Text.isBlank).reverse.dropWhile Text.isBlank).reverse

/-- Splits off the leading decimal digits of a character list, with their value and count. -/
def readDigits : List Char → Nat × Nat × List Char
  | c :: cs =>
      if c.isDigit then
        let (v, n, rest) := readDigits cs
        ((c.toNat - '0'.toNat) * 10 ^ n + v, n + 1, rest)
      else (0, 0, c :: cs)
  | [] => (0, 0, [])

/-- The optional sign at the front of a character list. -/
def readSign : List Char → Bool × List Char
  | '-' :: cs => (true, cs)
  | '+' :: cs => (false, cs)
  | cs => (false, cs)

/-- An infinity of the given sign. -/
def infinity (neg : Bool) : Float := if neg then -(1.0 / 0.0) else 1.0 / 0.0

/-- A zero of the given sign. -/
def signedZero (neg : Bool) : Float := if neg then -0.0 else 0.0

/-- The exact value `± m * 10 ^ e` rounded to a double. A value of at least `10 ^ 309` is past
every finite double and one below `10 ^ -325` under half the smallest positive one, so those
read as an infinity and a zero without being computed. -/
def scientificToFloat (neg : Bool) (m : Nat) (e : Int) : Float :=
  let size := ((Nat.toDigits 10 m).length : Int)
  if m = 0 then signedZero neg
  else if 309 < e + size then infinity neg
  else if e + size < -325 then signedZero neg
  else
    let r := if 0 ≤ e then Binary64.ofFraction neg (m * 10 ^ e.toNat) 1
      else Binary64.ofFraction neg m (10 ^ (-e).toNat)
    match r with
    | some x => x
    | none => infinity neg

/-- Reads a numeral: digits, an optional point with digits, an optional exponent; at least one
digit before the exponent. -/
def readNumeral (neg : Bool) (cs : List Char) : Option Float :=
  let (whole, nWhole, rest) := readDigits cs
  let (frac, nFrac, rest) := match rest with
    | '.' :: r => readDigits r
    | r => (0, 0, r)
  if nWhole + nFrac = 0 then none
  else
    let m := whole * 10 ^ nFrac + frac
    match rest with
    | [] => some (scientificToFloat neg m (-(nFrac : Int)))
    | c :: r =>
        if c = 'e' ∨ c = 'E' then
          let (eneg, r) := readSign r
          let (ev, en, r) := readDigits r
          if en = 0 ∨ !r.isEmpty then none
          else some (scientificToFloat neg m ((if eneg then -(ev : Int) else ev) - nFrac))
        else none

/-- Reads a signed numeral or word, the text being exactly that. -/
def readNumber (cs : List Char) : Option Float :=
  let (neg, body) := readSign cs
  let word := (String.ofList body).toLower
  if word = "inf" ∨ word = "infinity" then some (infinity neg)
  else if word = "nan" then some (0.0 / 0.0)
  else readNumeral neg body

/-- Reads a double from text. -/
def readFloat? (s : String) : Option Float := do
  let cs ← s.toList.mapM asciiForm
  let cs ← dropUnderscores ' ' cs
  readNumber (trimBlanks cs)

end Lingo.Decimal
