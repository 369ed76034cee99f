import Lingo.Analysis
import Lingo.Check.Rules
import Lingo.Check.Symbols
import Lingo.Emit.Module
import Lingo.Keyed

/-!
# Compiling translations

Compiling one translation analyses it against its type map (inference, freezing, the typed tree and
folding), then checks for unreachable rules unless told not to, then checks the names it uses
when an allow-list is given, and last emits it. The type map and the record of helpers come back
in the state the pipeline left them, also when a stage fails.

Compiling a table of translations gives each its own fresh type map and one shared record of
helpers, names the functions `_translation_0`, `_translation_1`, … by position, and builds one
module. A key given twice keeps its first position and takes its last translation.
-/

namespace Lingo

/-- How a translation is compiled. -/
structure CompileOptions where
  /-- The name of the emitted function. -/
  name : String := "translation"
  /-- The variables a translation may use; any when absent. -/
  allowedVariables : Option (List Datum) := none
  /-- The functions a translation may call; any when absent. -/
  allowedFunctions : Option (List Datum) := none
  /-- Declared parameter types of functions, by type name. -/
  signatures : List (Datum × List Datum) := []
  /-- Whether unreachable rules are refused. -/
  checkDeadCode : Bool := true
  deriving Inhabited

/-- The checks that run between analysis and emission. -/
def CompileOptions.check (o : CompileOptions) (typed : Node) : Except Failure Unit := do
  if o.checkDeadCode then discard typed.liveRules
  if o.allowedVariables.isSome || o.allowedFunctions.isSome then
    discard (typed.usedSymbols o.allowedVariables o.allowedFunctions)

/-- Compiles translation `t` against map `m`, recording helpers in `h`. -/
def compileTranslation (m : TypeMap) (h : Helpers) (o : CompileOptions) (t : Node) :
    TypeMap × Helpers × Except Failure Emitted :=
  match m.analyze o.signatures t with
  | (m', .error f) => (m', h, .error f)
  | (m', .ok typed) =>
      match o.check typed with
      | .error f => (m', h, .error f)
      | .ok () =>
          let (r, h') := (Emit.translation m' o.name typed).run' h
          (m', h', r)

/-- Compiles keyed translations in order from position `i`, each against a fresh map. -/
def compileFrom (o : CompileOptions) : Nat → List (String × Node) → Helpers →
    Except Failure (List (String × Emitted) × Helpers)
  | _, [], h => pure ([], h)
  | i, (k, t) :: rest, h =>
      match compileTranslation {} h { o with name := "_translation_" ++ toString i } t with
      | (_, _, .error f) => throw f
      | (_, h', .ok e) => do
          let (es, h'') ← compileFrom o (i + 1) rest h'
          pure ((k, e) :: es, h'')

/-- The module of a table of translations. -/
def compileTranslations (o : CompileOptions) (table : List (String × Node)) : Except Failure Code.Program := do
  let (es, h) ← compileFrom o 0 (keyed table) {}
  pure (Emit.translationsModule es h)

/-- Translations compiled one after another against one shared map and record of helpers, kept by
key in the order the keys first came. -/
structure Session where
  map : TypeMap := {}
  helpers : Helpers := {}
  emitted : List (String × Emitted) := []
  deriving Inhabited

namespace Session

/-- Compiles a translation with the session's map and helpers and keeps it under `key`. -/
def compile (s : Session) (o : CompileOptions) (key : String) (t : Node) : Session × Except Failure Emitted :=
  let (m, h, r) := compileTranslation s.map s.helpers o t
  let s' := { s with map := m, helpers := h }
  match r with
  | .ok e => ({ s' with emitted := upsert s'.emitted key e }, .ok e)
  | .error f => (s', .error f)

/-- The module of the translations kept so far. -/
def module (s : Session) : Code.Program := Emit.translationsModule s.emitted s.helpers

end Session

end Lingo
