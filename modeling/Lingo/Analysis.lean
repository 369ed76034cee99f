import Lingo.Typing
import Lingo.Fold

/-!
# Analysing a translation

Analysis runs the front half of compilation on one translation and its type map: inference into the
map unless the map is already frozen, freezing, the typed tree, then constant folding once. A frozen
map is taken as it is, and the function signatures are then not looked at.

A caller may fill the map first (`Prefill`): declared variable types, declared functions, and
whether to freeze it before anything runs.
-/

namespace Lingo

/-- What a caller declares in a fresh type map before compiling. -/
structure Prefill where
  /-- Variables with the name of the type each is declared to have. -/
  custom : List (Datum × Datum) := []
  /-- Functions declared without parameter types. -/
  functions : List Datum := []
  /-- Whether the map is frozen before anything runs. -/
  freeze : Bool := false

namespace TypeMap

/-- Records a use declared by the caller: variable `v` has the type named `name`. The name is
read before the map is asked. -/
def declareType (m : TypeMap) (v : Datum) (name : Datum) : Except Failure (TypeMap × Ty) := do
  let t ← Ty.ofDatum name
  match ((addUsage v t { kind := .custom, ty := t }).run).run m with
  | (.ok r, m') => pure (m', r)
  | (.error e, _) => throw e

/-- A fresh map filled as the caller declares. -/
def prefilled (p : Prefill) : Except Failure TypeMap := do
  let m ← p.custom.foldlM (fun m (v, t) => (·.1) <$> m.declareType v t) ({} : TypeMap)
  let m ← p.functions.foldlM (fun m f => m.addFunction f) m
  pure (if p.freeze then m.freeze else m)

/-- Entries keyed by names, a name given twice kept at its first place with its last value; a list
or dictionary cannot be a name. -/
def keyedByName {α : Type} (entries : List (Datum × α)) : Except Failure (List (Datum × α)) :=
  entries.foldlM (fun acc (k, v) => do
    k.hashable
    if acc.any (Datum.sameValue ·.1 k) then
      pure (acc.map fun e => if Datum.sameValue e.1 k then (e.1, v) else e)
    else pure (acc ++ [(k, v)])) []

/-- Function signatures keyed by name, with their type names read. -/
def parseSignatures (sigs : List (Datum × List Datum)) : Except Failure (List (Datum × List Ty)) := do
  (← keyedByName sigs).mapM fun (f, ts) => do pure (f, ← ts.mapM Ty.ofDatum)

/-- Records the uses of `t` in the map under the given signatures; the map comes back with
whatever was recorded before a failure. -/
def inferWith (m : TypeMap) (sigs : List (Datum × List Datum)) (t : Node) :
    TypeMap × Option Failure :=
  match parseSignatures sigs with
  | .error f => (m, some f)
  | .ok s => m.infer s t

/-- Infers into a map that is not frozen yet and freezes it. -/
def settleTypes (m : TypeMap) (sigs : List (Datum × List Datum)) (t : Node) :
    TypeMap × Option Failure :=
  if m.frozen then (m, none)
  else
    match m.inferWith sigs t with
    | (m', none) => (m'.freeze, none)
    | (m', some f) => (m', some f)

/-- The typed and folded tree of `t`, with the map as analysis leaves it. -/
def analyze (m : TypeMap) (sigs : List (Datum × List Datum)) (t : Node) :
    TypeMap × Except Failure Node :=
  match m.settleTypes sigs t with
  | (m', some f) => (m', throw f)
  | (m', none) => (m', do (← m'.typeTree t).fold)

end TypeMap

end Lingo
