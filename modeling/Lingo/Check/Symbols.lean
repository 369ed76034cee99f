import Lingo.Error

/-!
# Allowed variables and functions

`Node.usedSymbols allowedVars allowedFns t` lists the variables and functions that the texts of a
translation use, each once, in the order of first use, and refuses the first use of a name outside
its allow-list, pointing at it in its text. An absent list allows every name. Constraints and
literal text are not looked at; a call's name is checked before its arguments. Names are data and
match as data do, so the name `1` is allowed by an entry `true`; a list or dictionary can be
neither a name nor an entry, and refusing one fails with a type error, the entries of the
allow-lists being read before the walk starts. The report on a function joins the allowed
functions, so an allow-list of functions with an entry other than a string cannot be reported:
refusing a function against it fails with a type error instead.
-/

namespace Lingo

/-- The names a translation uses, in the order of first use. -/
structure SymbolUse where
  vars : List Datum := []
  functions : List Datum := []

/-- The state of the walk: the text being read and the names seen so far. -/
structure SymbolState where
  text : Option Node := none
  used : SymbolUse := {}

namespace Symbols

/-- A step of the walk. -/
abbrev SymbolM := StateT SymbolState (Except Failure)

/-- Appends a name unless the list holds it already. -/
def addName (xs : List Datum) (x : Datum) : List Datum :=
  if xs.any (Datum.sameValue · x) then xs else xs ++ [x]

/-- Whether a name is allowed by an allow-list. -/
def allows (allowed : Option (List Datum)) (x : Datum) : Bool :=
  match allowed with
  | some xs => xs.any (Datum.sameValue · x)
  | none => true

/-- Lifts a check into the walk. -/
def check (r : Except Failure Unit) : SymbolM Unit :=
  match r with
  | .ok () => pure ()
  | .error e => throw e

/-- The report for a name used at `n` outside its allow-list. -/
def report (n : Node) (x : Datum) (allowed : List Datum) : SymbolM UnknownSymbol := do
  let st ← get
  pure (UnknownSymbol.ofParts x (some allowed) (some n) (st.text.bind (·.fields.input)))

mutual

/-- Walks `n`, recording and checking the names its texts use. -/
def visit (vars fns : Option (List Datum)) : Node → SymbolM Unit
  | .mk k f cs => do
    let n := Node.mk k f cs
    match k, cs with
    | .rule, [_, t] => visit vars fns t
    | .textRoot, cs => do
        modify fun s => { s with text := some n }
        visitAll vars fns cs
    | .constraintRoot, _ | .literal, _ => pure ()
    | .textVar, _ | .var, _ => do
        let x := n.fields.name
        check x.hashable
        modify fun s => { s with used := { s.used with vars := addName s.used.vars x } }
        if !allows vars x then throw (.unknownVariable (← report n x (vars.getD [])))
    | .call, cs => do
        let x := n.fields.name
        check x.hashable
        modify fun s => { s with used := { s.used with functions := addName s.used.functions x } }
        if !allows fns x then throw (Failure.ofUnknownFunction (← report n x (fns.getD [])))
        visitAll vars fns cs
    | _, cs => visitAll vars fns cs

/-- Walks a list of nodes in order. -/
def visitAll (vars fns : Option (List Datum)) : List Node → SymbolM Unit
  | [] => pure ()
  | c :: rest => do
    visit vars fns c
    visitAll vars fns rest

end

end Symbols

namespace Node

/-- The names the texts of `t` use, refusing the first outside its allow-list. -/
def usedSymbols (vars fns : Option (List Datum)) (t : Node) : Except Failure SymbolUse := do
  (vars.getD []).forM Datum.hashable
  (fns.getD []).forM Datum.hashable
  (·.used) <$> ((Symbols.visit vars fns t).run {}).map (·.2)

end Node

end Lingo
