import Lingo.Tree.Memo

/-!
# Constant folding

`Node.fold t` evaluates what a typed tree can evaluate without parameters:

* an operator whose operands are both literals becomes the literal of its value, a string when
  the value is one (`+` joins a string with the text of a number);
* unary minus of a number literal becomes the negated literal;
* `(x * c₁) * c₂` with number literals `c₁` and `c₂` becomes `x * (c₁ * c₂)`;
* in a text, each run of literal text and interpolated literals becomes one literal text, whose
  span runs from the first fragment of the run to the last.

Arithmetic other than `+` on a string, negating a string and dividing by a literal zero are
refused. Dividing two integers gives an integer when the quotient is whole. Results are remembered
by key (`Memo`).
-/

namespace Lingo

namespace Folding

/-- Lifts a failure of arithmetic into a transformation step. -/
def arith (r : Except ArithError Datum) : TransformM Datum :=
  match r with
  | .ok v => pure v
  | .error e => throw (.arith e)

/-- Lifts a rebuild into a transformation step. -/
def rebuildM (n : Node) (cs : List Node) (f : Fields) : TransformM Node :=
  TransformM.ofBuild (n.rebuild cs f)

/-- The literal node holding `v` at `pos`: a string literal for a string, a number otherwise. -/
def literalOf (v : Datum) (pos : Pos) : Node :=
  if v.isStr then .mk .stringLit { value := v, pos, ty := some .string, const := some true } []
  else .mk .number { value := v, pos, ty := some .number, const := some true } []

/-- The name of an operator in a folding message. -/
def opWord : Kind → String
  | .sub => "Minus"
  | .mul => "Multiply"
  | .div => "Divide"
  | _ => "Plus"

/-- Refuses arithmetic other than `+` on a string. -/
def numbersOnly (k : Kind) (a b : Datum) : TransformM Unit :=
  if a.isStr || b.isStr then throw (.fold (.notNumbers (opWord k) a.kindName b.kindName))
  else pure ()

/-- The text a datum takes when joined to a string. -/
def joinText (v : Datum) : TransformM Datum :=
  if v.isStr then pure v else arith (Datum.str <$> v.numberText?)

/-- The value of a binary operator of kind `k` on two literal values. -/
def evalBinary (k : Kind) (a b : Datum) : TransformM Datum := do
  match k with
  | .add =>
      if a.isStr || b.isStr then do arith ((← joinText a).add (← joinText b)) else arith (a.add b)
  | .sub => numbersOnly k a b; arith (a.sub b)
  | .mul => numbersOnly k a b; arith (a.mul b)
  | _ =>
      numbersOnly k a b
      if b.sameValue (.int 0) then throw (.fold .divisionByZero)
      let q ← arith (a.div b)
      match a.count?, b.count?, q with
      | some _, some _, .scalar (.float x) =>
          match Binary64.toInt? x with
          | some i => pure (.int i)
          | none => pure q
      | _, _, _ => pure q

/-- The text an interpolated literal contributes to a text. -/
def fragmentText (e : Node) : TransformM Datum :=
  if e.kind = .number then arith (Datum.str <$> e.fields.value.numberText?) else pure e.fields.value

/-- Merges runs of literal text and interpolated literals in the folded fragments of a text.
`current` is the index in `done` of the literal that the run being read merges into. -/
def mergeRuns : List Node → List Node → Option Nat → TransformM (List Node)
  | [], done, _ => pure done
  | c :: rest, done, current => do
    let piece : Option (Datum × Pos) ←
      match c.kind, c.children with
      | .textExpr, [e] => if e.kind.isLiteral then pure (some (← fragmentText e, c.pos)) else pure none
      | _, _ => pure none
    match piece with
    | some (text, pos) => mergePiece rest done current text pos
    | none =>
        if c.kind = .literal then
          match current with
          | none => mergeRuns rest (done ++ [c]) (some done.length)
          | some _ => mergePiece rest done current c.fields.value c.pos
        else mergeRuns rest (done ++ [c]) none
where
  /-- Adds one piece of literal text to the run being read. -/
  mergePiece (rest done : List Node) (current : Option Nat) (text : Datum) (pos : Pos) :
      TransformM (List Node) :=
    match current with
    | none =>
        let lit := Node.mk .literal { value := text, pos, ty := some .string } []
        mergeRuns rest (done ++ [lit]) (some done.length)
    | some i =>
        match done[i]? with
        | some prev => do
            let v ← arith (prev.fields.value.add text)
            let prev' ← rebuildM prev prev.children { prev.fields with value := v, pos := prev.pos.combine pos }
            mergeRuns rest (done.set i prev') current
        | none => mergeRuns rest done current

end Folding

namespace Node

open Folding in
/-- The folded form of `n`, remembered by key. -/
def foldM : Node → TransformM Node
  | .mk k f cs => do
    let n := Node.mk k f cs
    match (← get).find? n with
    | some r => pure r
    | none =>
      let r ← match k, cs with
        | .neg, [o] => do
            let o' ← foldM o
            if o'.kind = .stringLit then throw (.fold .negString)
            if o'.kind = .number then pure (literalOf (← arith o'.fields.value.neg) f.pos)
            else rebuildM n [o'] f
        | .add, [l, r] | .sub, [l, r] | .mul, [l, r] | .div, [l, r] => do
            let l' ← foldM l
            let r' ← foldM r
            if l'.kind.isLiteral && r'.kind.isLiteral then
              pure (literalOf (← evalBinary k l'.fields.value r'.fields.value) f.pos)
            else
              match k, l'.kind, r'.kind, l'.children with
              | .mul, .mul, .number, [x, c] =>
                  if c.kind = .number then do
                    let v ← arith (c.fields.value.mul r'.fields.value)
                    rebuildM n [x, literalOf v (c.pos.combine r'.pos)] f
                  else rebuildM n [l', r'] f
              | _, _, _, _ => rebuildM n [l', r'] f
        | .textRoot, cs => do
            let cs' ← cs.mapM foldM
            let merged ← mergeRuns cs' [] none
            pure (Node.mk .textRoot { input := f.input } merged)
        | _, cs => do rebuildM n (← cs.mapM foldM) f
      let r := settle n r
      modify (·.insert n r)
      pure r

/-- The folded form of a tree. -/
def fold (t : Node) : Except Failure Node := do
  t.requireKey
  (foldM t).run' {}

/-- Folds repeatedly until a round returns a tree with the same key, at most `rounds` times; no
round runs when `rounds` is not positive. -/
def foldToFixedPoint (t : Node) (rounds : Int) : Except Failure Node :=
  go t rounds.toNat
where
  /-- Rounds of folding, at most `left` more. -/
  go (t : Node) : Nat → Except Failure Node
    | 0 => throw (.noFixedPoint rounds)
    | left + 1 => do
      let t' ← fold t
      if sameKey true t' t then pure t' else go t' left

end Node

end Lingo
