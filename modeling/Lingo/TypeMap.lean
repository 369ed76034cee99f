import Lingo.Error

/-!
# Type maps

A type map holds what is known about the variables and functions of one translation. Each variable
has a type and the uses that gave it that type, in the order they were recorded; a use merges its
type into the variable's (`Ty.merge`). The use that first turns a variable's type into `error` is
kept as a type conflict, so the map holds one conflict per variable in error, in the order the
variables went wrong. Functions are declared with or without parameter types.

Once frozen, the map refuses new uses and declarations, and asking for an unseen variable fails.
Variables and functions keep the order in which they were first seen.
-/

namespace Lingo

/-- Where a use of a variable was seen. -/
inductive UsageKind where
  | constraint | expression | text | custom
  deriving DecidableEq, Repr

/-- The name of a kind of use. -/
def UsageKind.name : UsageKind → String
  | constraint => "constraint"
  | expression => "expression"
  | text => "text"
  | custom => "custom"

/-- One use of a variable and the type it asks for. -/
structure Usage where
  kind : UsageKind
  ty : Ty
  /-- The node of the use; none for a use declared by the caller. -/
  node : Option Node := none
  /-- The source text a conflict at this use points into. -/
  source : Option String := none
  /-- A constraint used outside any constraint list has no source to point into. -/
  detached : Bool := false

/-- What the map knows of one variable. -/
structure VarInfo where
  ty : Ty := .unknown
  usages : List Usage := []

/-- The types of the variables and functions of a translation, keyed by names that are data. -/
structure TypeMap where
  vars : List (Datum × VarInfo) := []
  functions : List (Datum × Option (List Ty)) := []
  frozen : Bool := false
  errors : List TypeMismatch := []

namespace Usage

/-- The conflict recorded when this use turns `var` from `found` into an error by asking for
`expected`. -/
def mismatch (u : Usage) (var : Datum) (expected found : Ty) : Except Failure TypeMismatch :=
  if u.kind = .constraint ∧ u.detached then throw (.missingPart "NoneType" "input")
  else pure (TypeMismatch.ofParts [expected] found var u.node u.source u.source false)

end Usage

namespace TypeMap

/-- The position of a variable's entry, if the map has one. -/
def indexOf? (m : TypeMap) (v : Datum) : Option Nat := m.vars.findIdx? (Datum.sameValue ·.1 v)

/-- The information on a variable, if the map has any. -/
def info? (m : TypeMap) (v : Datum) : Option VarInfo :=
  (m.vars.find? (Datum.sameValue ·.1 v)).map (·.2)

/-- Whether the map has an entry for a variable; a list or dictionary cannot name one. -/
def has (m : TypeMap) (v : Datum) : Except Failure Bool := do
  v.hashable
  pure (m.info? v).isSome

/-- The number of variables in the map. -/
def size (m : TypeMap) : Nat := m.vars.length

/-- The variables, in the order they were first seen. -/
def varNames (m : TypeMap) : List Datum := m.vars.map (·.1)

/-- Replaces the information at position `i`, keeping the name the entry was made with. -/
def setInfoAt (m : TypeMap) (i : Nat) (info : VarInfo) : TypeMap :=
  { m with vars := m.vars.mapIdx fun j e => if j = i then (e.1, info) else e }

/-- The position of and information on a variable, adding an empty entry for an unseen one; after
freezing, an unseen variable has no information. -/
def getInfo (m : TypeMap) (v : Datum) : Except Failure (TypeMap × Nat × VarInfo) := do
  v.hashable
  match m.indexOf? v with
  | some i => pure (m, i, ((m.vars[i]?).map (·.2)).getD {})
  | none =>
      if m.frozen then throw (.unknownVariable ⟨v, none, none, none⟩)
      else pure ({ m with vars := m.vars ++ [(v, {})] }, m.vars.length, {})

/-- The type of a variable, adding an entry for an unseen one while the map is not frozen. -/
def typeOf (m : TypeMap) (v : Datum) : Except Failure (TypeMap × Ty) := do
  let (m', _, i) ← m.getInfo v
  pure (m', i.ty)

/-- Freezes the map. -/
def freeze (m : TypeMap) : TypeMap := { m with frozen := true }

/-- Whether a function is declared. -/
def hasFunction (m : TypeMap) (name : Datum) : Bool := m.functions.any (Datum.sameValue ·.1 name)

/-- The declared parameter types of a function; none for an undeclared function or one declared
without types. -/
def paramTypes? (m : TypeMap) (name : Datum) : Except Failure (Option (List Ty)) := do
  name.hashable
  pure ((m.functions.find? (Datum.sameValue ·.1 name)).bind (·.2))

/-- The functions, in the order they were first declared. -/
def functionNames (m : TypeMap) : List Datum := m.functions.map (·.1)

/-- A step that updates a type map; a failure keeps the updates made before it. -/
abbrev Step := ExceptT Failure (StateM TypeMap)

/-- Records a use of `v` asking for type `t` and gives the variable's new type. The use that
turns the variable into an error is kept as a conflict against the type it had before. -/
def addUsage (v : Datum) (t : Ty) (u : Usage) : Step Ty := do
  let m ← get
  if m.frozen then throw (.frozenUsage v)
  let (m, idx, i) ← liftExcept (m.getInfo v)
  let previous := i.ty
  let now := previous.merge t
  set (m.setInfoAt idx { ty := now, usages := i.usages ++ [u] })
  if now = .error ∧ previous ≠ .error then
    let e ← liftExcept (u.mismatch v t previous)
    modify fun m => { m with errors := m.errors ++ [e] }
  pure now
where
  liftExcept {α : Type} (r : Except Failure α) : Step α :=
    match r with
    | .ok a => pure a
    | .error f => throw f

/-- Declares a function without parameter types; a declared function keeps its types. -/
def addFunction (m : TypeMap) (name : Datum) : Except Failure TypeMap :=
  if m.frozen then throw (.frozenFunction name)
  else do
    name.hashable
    if m.hasFunction name then pure m
    else pure { m with functions := m.functions ++ [(name, none)] }

/-- Declares a function with the parameter types `types` gives; a function is declared at most
once this way. The types are only read once the map has accepted the name. -/
def declareTyped (m : TypeMap) (name : Datum) (types : Except Failure (List Ty)) :
    Except Failure TypeMap := do
  if m.frozen then throw (.frozenFunction name)
  name.hashable
  if m.hasFunction name then throw (.redeclared name)
  let ts ← types
  pure { m with functions := m.functions ++ [(name, some ts)] }

/-- Declares a function with parameter types given by name; each name must name a type. -/
def addTypedFunction (m : TypeMap) (name : Datum) (types : List Datum) : Except Failure TypeMap :=
  m.declareTyped name (types.mapM Ty.ofDatum)

/-- The first recorded type conflict, if any. -/
def firstError (m : TypeMap) : Option TypeMismatch := m.errors.head?

/-- Fails with the first recorded type conflict, if any. -/
def throwErrors (m : TypeMap) : Except Failure Unit :=
  match m.firstError with
  | some e => throw (.typeMismatch e)
  | none => pure ()

end TypeMap

end Lingo
