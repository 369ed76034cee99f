import Lingo.Code.Value
import Lingo.Codec.Encode
import Lingo.Decimal.Reading

/-!
# Primitive steps of emitted code

The steps of running emitted code that run no code of their own: attribute access, lookups,
arithmetic, comparison and membership, and calls of built-ins, methods and host functions.
Arithmetic on two data is the arithmetic of data (`Lingo.Datum.Arith`), byte strings concatenate
and repeat, and any other mix is a `TypeError` naming the types. Ordering compares numbers with
numbers and strings with strings. The output context encodes only plain strings, and
`make_safe_string` marks text as already encoded; a string's own `encode` turns it into bytes by a
codec (`Lingo.Codec.Encode`).
-/

namespace Lingo

namespace Code

-- Powers are the core library's, `Nat.pow` and `Int.pow`, whatever else is imported, so these
-- definitions read the same in every context; a literal exponent is typed to the same end.
attribute [local instance (high)] instPowNat

/-- The failure of class `kind` with `message`. -/
def fail {α : Type} (kind message : String) : Except Raised α := throw ⟨kind, message⟩

/-- A name quoted as messages quote it. -/
def quoted (x : String) : String := "\x27" ++ x ++ "\x27"

/-- Quoted names as an arity message lists them: `'a'`, `'a' and 'b'`, `'a', 'b', and 'c'`. -/
def nameList (xs : List String) : String :=
  match (xs.map quoted).reverse with
  | [] => ""
  | [a] => a
  | [b, a] => a ++ " and " ++ b
  | last :: rest => ", ".intercalate rest.reverse ++ ", and " ++ last

/-- Binds the parameters of function `f` to the arguments of a call, refusing a call with too many
or too few arguments. -/
def bindParams (f : String) (ps : List String) (args : List Value) : Except Raised (List (String × Value)) :=
  if ps.length < args.length then
    fail "TypeError" (f ++ "() takes " ++ toString ps.length ++ " positional argument" ++
      (if ps.length == 1 then "" else "s") ++ " but " ++ toString args.length ++
      (if args.length == 1 then " was" else " were") ++ " given")
  else if args.length < ps.length then
    let missing := ps.drop args.length
    fail "TypeError" (f ++ "() missing " ++ toString missing.length ++ " required positional argument" ++
      (if missing.length == 1 then "" else "s") ++ ": " ++ nameList missing)
  else pure (ps.zip args).reverse

/-- The attribute `f` of a value. -/
def getAttr (v : Value) (f : String) : Except Raised Value :=
  match v, f with
  | .dict _, "get" => pure (.method v f)
  | .context _, "encode" | .context _, "is_safe_string" | .context _, "convert_safe_string"
  | .context _, "make_safe_string" => pure (.method v f)
  | .context q, "quote" => pure (.ofBool q)
  | .scalar (.float _), "is_integer" => pure (.method v f)
  | .scalar (.str _), "encode" => pure (.method v f)
  | _, _ => fail "AttributeError" (quoted v.typeName ++ " object has no attribute " ++ quoted f)

/-- Whether a value can serve as a key: not a list or dictionary. -/
def hashable (k : Value) : Except Raised Unit :=
  match k with
  | .list _ => fail "TypeError" "unhashable type: \x27list\x27"
  | .dict _ => fail "TypeError" "unhashable type: \x27dict\x27"
  | _ => pure ()

/-- The value stored under a key; only a string finds an entry, the keys being strings. -/
def lookupKey (entries : List (String × Value)) (k : Value) : Option Value :=
  match k with
  | .scalar (.str s) => (entries.find? (·.1 == s)).map (·.2)
  | _ => none

/-- The position an integer index picks in a sequence of `size` items, counting from the end
when negative. -/
def indexAt? (size : Nat) (i : Int) : Option Nat :=
  let j := if i < 0 then i + size else i
  if 0 ≤ j ∧ j < size then some j.toNat else none

/-- The value under key `k` in `o`: an entry of a dictionary, or an item of a sequence under an
integer index. -/
def subscript (o k : Value) : Except Raised Value :=
  let index? : Option Int := match k with
    | .scalar (.int i) => some i
    | .scalar (.bool b) => some (if b then 1 else 0)
    | _ => none
  match o with
  | .dict entries => do
      hashable k
      match lookupKey entries k with
      | some v => pure v
      | none => fail "KeyError" k.repr
  | .scalar (.str s) =>
      match index? with
      | some i =>
          let cps := Text.codePoints s
          match indexAt? cps.length i with
          | some j => pure (.str (Text.ofCodePoints [cps.getD j 0]))
          | none => fail "IndexError" "string index out of range"
      | none => fail "TypeError" ("string indices must be integers, not " ++ quoted k.typeName)
  | .list items | .tuple items =>
      match index? with
      | some i =>
          match indexAt? items.length i with
          | some j => pure (items.getD j .none)
          | none => fail "IndexError" (o.typeName ++ " index out of range")
      | none => fail "TypeError" (o.typeName ++ " indices must be integers or slices, not " ++ k.typeName)
  | .bytes data =>
      match index? with
      | some i =>
          match indexAt? data.length i with
          | some j => pure (.scalar (.int (data.getD j 0)))
          | none => fail "IndexError" "index out of range"
      | none => fail "TypeError" ("byte indices must be integers or slices, not " ++ k.typeName)
  | .builtin b =>
      if b.isType then fail "TypeError" ("type " ++ quoted b.name ++ " is not subscriptable")
      else fail "TypeError" (quoted o.typeName ++ " object is not subscriptable")
  | _ => fail "TypeError" (quoted o.typeName ++ " object is not subscriptable")

/-- Lifts the result of arithmetic on data. -/
def ofArith (r : Except ArithError Datum) : Except Raised Value :=
  match r with
  | .ok v => pure (Value.ofDatum v)
  | .error e => fail e.kind e.message

/-- The bytes of `data` repeated `n` times; none for `n ≤ 0`. -/
def repeatBytes (data : List Nat) (n : Int) : Except Raised Value :=
  if n < -2 ^ (63 : Nat) ∨ 2 ^ (63 : Nat) ≤ n then
    fail ArithError.countTooLarge.kind ArithError.countTooLarge.message
  else if n ≤ 0 then pure (.bytes [])
  else pure (.bytes (List.flatten (List.replicate n.toNat data)))

/-- The integer a value stands for as a repetition count. -/
def Value.count? : Value → Option Int
  | .scalar (.bool b) => some (if b then 1 else 0)
  | .scalar (.int i) => some i
  | _ => Option.none

/-- Binary arithmetic on values: on data, the arithmetic of data; byte strings concatenate with
byte strings and repeat by integers. -/
def arithValue (op : ArithOp) (a b : Value) : Except Raised Value :=
  match a.toDatum?, b.toDatum? with
  | some x, some y =>
      ofArith (match op with
        | .add => x.add y
        | .sub => x.sub y
        | .mul => x.mul y
        | .div => x.div y)
  | _, _ =>
      match op, a, b with
      | .add, .bytes x, .bytes y => pure (.bytes (x ++ y))
      | .add, .bytes _, _ => fail "TypeError" ("can\x27t concat " ++ b.typeName ++ " to bytes")
      | .mul, .bytes x, _ =>
          match b.count? with
          | some n => repeatBytes x n
          | none => fail "TypeError" ("can\x27t multiply sequence by non-int of type " ++ quoted b.typeName)
      | .mul, _, .bytes y =>
          match a.count? with
          | some n => repeatBytes y n
          | none => fail "TypeError" ("can\x27t multiply sequence by non-int of type " ++ quoted a.typeName)
      | _, _, _ =>
          let err : ArithError :=
            match op, a, b with
            | .add, .scalar (.str _), _ => .concatNonStr b.typeName
            | .add, .list _, _ => .concatNonList b.typeName
            | .mul, .scalar (.str _), _ | .mul, .list _, _ => .repeatByNonInt b.typeName
            | .mul, _, .scalar (.str _) | .mul, _, .list _ => .repeatByNonInt a.typeName
            | op, _, _ => .unsupported op.symbol a.typeName b.typeName
          fail err.kind err.message

/-- Arithmetic negation of a value. -/
def negValue (a : Value) : Except Raised Value :=
  match a.toDatum? with
  | some x => ofArith x.neg
  | none => fail "TypeError" ("bad operand type for unary -: " ++ quoted a.typeName)

/-- Whether an ordering comparison holds for the outcome of comparing; unordered values satisfy
none. -/
def holds (op : CmpOp) (o : Option Ordering) : Bool :=
  match op, o with
  | .lt, some .lt | .le, some .lt | .le, some .eq | .gt, some .gt | .ge, some .gt | .ge, some .eq => true
  | _, _ => false

/-- An ordering comparison: numbers with numbers, strings with strings. -/
def order (op : CmpOp) (a b : Value) : Except Raised Bool :=
  let refuse : Except Raised Bool :=
    fail "TypeError" (quoted op.symbol ++ " not supported between instances of " ++ quoted a.typeName ++
      " and " ++ quoted b.typeName)
  match a, b with
  | .scalar x, .scalar y =>
      match x.num?, y.num?, x, y with
      | some p, some q, _, _ => pure (holds op (p.compare? q))
      | _, _, .str s, .str t => pure (holds op (some (Text.compareText s t)))
      | _, _, _, _ => refuse
  | _, _ => refuse

/-- Whether `item` is in `container`: a key of a dictionary, an item of a tuple or list, or a piece
of a string. -/
def contains (container item : Value) : Except Raised Bool :=
  match container with
  | .dict entries =>
      match item with
      | .scalar (.str s) => pure (entries.any (·.1 == s))
      | .dict _ => fail "TypeError" "unhashable type: \x27dict\x27"
      | .list _ => fail "TypeError" "unhashable type: \x27list\x27"
      | _ => pure false
  | .tuple items | .list items => pure (items.any item.equal)
  | .scalar (.str s) =>
      match item with
      | .scalar (.str t) => pure (Text.occursIn (Text.codePoints t) (Text.codePoints s))
      | _ => fail "TypeError" ("\x27in <string>\x27 requires string as left operand, not " ++ item.typeName)
  | _ => fail "TypeError" ("argument of type " ++ quoted container.typeName ++ " is not iterable")

/-- A comparison of two values. -/
def compareValues (op : CmpOp) (a b : Value) : Except Raised Value :=
  match op with
  | .eq => pure (.ofBool (a.equal b))
  | .ne => pure (.ofBool !(a.equal b))
  | .isIn => Value.ofBool <$> contains b a
  | .notIn => (fun r => Value.ofBool !r) <$> contains b a
  | _ => Value.ofBool <$> order op a b

/-- Whether a value is an instance of a built-in type; a truth value is an integer too. -/
def isInstance (v : Value) (b : Builtin) : Bool :=
  match b, v with
  | .str, .scalar (.str _) => true
  | .int, .scalar (.int _) | .int, .scalar (.bool _) => true
  | .float, .scalar (.float _) => true
  | .bool, .scalar (.bool _) => true
  | .typeError, .exception k _ => k == "TypeError"
  | .valueError, .exception k _ => k == "ValueError"
  | _, _ => false

/-- The refusal of a type test whose second argument names no type. -/
def badClassinfo {α : Type} : Except Raised α :=
  fail "TypeError" "isinstance() arg 2 must be a type, a tuple of types, or a union"

mutual

/-- Whether `v` is an instance of what `c` names: a built-in type, or a tuple whose items are
tried in order until one accepts `v`. An item that names no type is refused when it is reached,
so a type earlier in the tuple that accepts `v` hides it. -/
def instanceOf (v : Value) : Value → Except Raised Bool
  | .builtin b => if b.isType then pure (isInstance v b) else badClassinfo
  | .tuple items => instanceOfAny v items
  | _ => badClassinfo

/-- Whether `v` is an instance of one of the items, tried in order. -/
def instanceOfAny (v : Value) : List Value → Except Raised Bool
  | [] => pure false
  | c :: cs => do
    if ← instanceOf v c then pure true else instanceOfAny v cs

end

/-- The integer a value converts to; a double is truncated toward zero. -/
def toInt (v : Value) : Except Raised Value :=
  match v with
  | .scalar (.int _) => pure v
  | .scalar (.bool b) => pure (.scalar (.int (if b then 1 else 0)))
  | .scalar (.float x) =>
      match Binary64.shape x, Binary64.toFraction? x with
      | .nan, _ => fail "ValueError" "cannot convert float NaN to integer"
      | .infinite _, _ => fail "OverflowError" "cannot convert float infinity to integer"
      | _, some (a, b) => pure (.scalar (.int (a.tdiv b)))
      | _, none => pure (.scalar (.int 0))
  | .scalar (.str s) =>
      match s.trimAscii.toString.toInt? with
      | some i => pure (.scalar (.int i))
      | none => fail "ValueError" ("invalid literal for int() with base 10: " ++ Text.quote s)
  | _ => fail "TypeError"
      ("int() argument must be a string, a bytes-like object or a real number, not " ++ quoted v.typeName)

/-- The double a text reads as; a text that reads as none is refused with its literal. -/
def floatOfText (t : String) : Except Raised Float :=
  match Decimal.readFloat? t with
  | some x => pure x
  | none => fail "ValueError" ("could not convert string to float: " ++ Text.quote t)

/-- The double a number converts to. -/
def toFloat (v : Value) : Except Raised Value :=
  match v with
  | .scalar (.str t) => (fun x => .scalar (.float x)) <$> floatOfText t
  | .scalar s =>
      match s.num? with
      | some n => ofArith ((fun x => Datum.scalar (.float x)) <$> n.toFloat)
      | none => fail "TypeError" ("float() argument must be a string or a real number, not " ++ quoted v.typeName)
  | _ => fail "TypeError" ("float() argument must be a string or a real number, not " ++ quoted v.typeName)

/-- The text of a value, refusing a datum that holds an integer too long to write. -/
def textOf (v : Value) : Except Raised String :=
  match v.toDatum? with
  | some d => match d.text? with
    | .ok t => pure t
    | .error e => fail e.kind e.message
  | none => pure v.text

/-- A call of a built-in. -/
def callBuiltin (b : Builtin) (args : List Value) : Except Raised Value :=
  match b, args with
  | .isinstance, [v, c] => Value.ofBool <$> instanceOf v c
  | .isinstance, _ => fail "TypeError" ("isinstance expected 2 arguments, got " ++ toString args.length)
  | .callable, [v] => pure (.ofBool v.isCallable)
  | .callable, _ =>
      fail "TypeError" ("callable() takes exactly one argument (" ++ toString args.length ++ " given)")
  | .str, [] => pure (.str "")
  | .str, [v] => (.str ·) <$> textOf v
  | .int, [] => pure (.scalar (.int 0))
  | .int, [v] => toInt v
  | .float, [] => pure (.scalar (.float 0))
  | .float, [v] => toFloat v
  | .bool, [] => pure (.ofBool false)
  | .bool, [v] => pure (.ofBool v.truthy)
  | .typeError, [] => pure (.exception "TypeError" "")
  | .typeError, [m] => pure (.exception "TypeError" m.text)
  | .valueError, [] => pure (.exception "ValueError" "")
  | .valueError, [m] => pure (.exception "ValueError" m.text)
  | b, _ => fail "TypeError" (b.name ++ "() takes at most 1 argument (" ++ toString args.length ++ " given)")

/-- A call of a method of the output context with quoting `q`, after checking its arity. -/
def callContext (q : Bool) (m : String) (args : List Value) : Except Raised Value := do
  let bound ← bindParams ("HtmlContext." ++ m) ["self", "value"] (.context q :: args)
  let v := ((bound.find? (·.1 == "value")).map (·.2)).getD .none
  match m with
  | "encode" =>
      match v with
      | .scalar (.str t) => pure (.str (htmlEscape q t))
      | .bytes _ => fail "TypeError" "a bytes-like object is required, not \x27str\x27"
      | _ => fail "AttributeError" (quoted v.typeName ++ " object has no attribute \x27replace\x27")
  | "is_safe_string" => pure (.ofBool (match v with | .safe _ => true | _ => false))
  | "convert_safe_string" => pure (.str v.text)
  | _ => pure (.safe v.text)

/-- A string's own `encode`: the bytes of `s` under the codec its argument names, UTF-8 when none
is named. A second argument names how errors are handled and must be a string. -/
def encodeStr (s : String) (args : List Value) : Except Raised Value :=
  let run (name : String) : Except Raised Value :=
    match Codec.encodeText name s with
    | .ok data => pure (.bytes data)
    | .error e => fail e.kind e.message
  let named (v : Value) (what : String) : Except Raised String :=
    match v with
    | .scalar (.str t) => pure t
    | _ => fail "TypeError" ("encode() argument " ++ quoted what ++ " must be str, not " ++ v.typeName)
  match args with
  | [] => run "utf-8"
  | [e] => do run (← named e "encoding")
  | [e, r] => do
      let name ← named e "encoding"
      discard <| named r "errors"
      run name
  | _ => fail "TypeError" ("encode() takes at most 2 arguments (" ++ toString args.length ++ " given)")

/-- A call of a bound method. -/
def callMethod (recv : Value) (m : String) (args : List Value) : Except Raised Value :=
  match recv, args with
  | .dict entries, [k] => pure ((lookupKey entries k).getD .none)
  | .dict entries, [k, d] => pure ((lookupKey entries k).getD d)
  | .dict _, _ =>
      if args.isEmpty then fail "TypeError" "get expected at least 1 argument, got 0"
      else fail "TypeError" ("get expected at most 2 arguments, got " ++ toString args.length)
  | .scalar (.str s), _ => encodeStr s args
  | .scalar (.float x), [] => pure (.ofBool (Binary64.isInteger x))
  | .scalar _, _ =>
      fail "TypeError" ("float.is_integer() takes no arguments (" ++ toString args.length ++ " given)")
  | .context q, _ => callContext q m args
  | _, _ => fail "TypeError" (quoted recv.typeName ++ " object is not callable")

/-- A call of a host function; the first argument is the output context. -/
def callHost (f : HostFn) (args : List Value) : Except Raised Value :=
  match args with
  | [] => fail "TypeError" "host function missing 1 required positional argument: \x27c\x27"
  | c :: rest =>
      match f with
      | .wrap tag =>
          match c with
          | .context q => do
              let texts ← rest.mapM textOf
              pure (.safe ("<" ++ tag ++ ">" ++ ",".intercalate (texts.map (htmlEscape q)) ++ "</" ++ tag ++ ">"))
          | _ => fail "AttributeError" (quoted c.typeName ++ " object has no attribute \x27encode\x27")
      | .join sep => do pure (.str (sep.intercalate (← rest.mapM textOf)))
      | .returns v => pure (Value.ofDatum v)
      | .raises m => fail "ValueError" m

/-- The exception a raised value denotes. -/
def raisedOf (v : Value) : Raised :=
  match v with
  | .exception k m => ⟨k, m⟩
  | .builtin .typeError => ⟨"TypeError", ""⟩
  | .builtin .valueError => ⟨"ValueError", ""⟩
  | _ => ⟨"TypeError", "exceptions must derive from BaseException"⟩

end Code

end Lingo
