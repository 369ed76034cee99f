import Lingo.Code.Eval

/-!
# Calling compiled translations

A call names a translation, gives parameter values and host functions, and says whether quotes are
encoded. Calls run against a loaded module: the table of a module of many translations is its
dictionary `translations`, and a module of one translation offers just the variable it defines.
Calls run only against a module that loaded.
-/

namespace Lingo

namespace Code

/-- One rendering request. -/
structure Call where
  key : String
  params : List (String × Value) := []
  functions : List (String × Value) := []
  quote : Bool := true
  deriving Inhabited

/-- A loaded module: its namespace and its table of translations. -/
structure Loaded where
  globals : Env
  table : List (String × Value)

/-- Loads a module of many translations. -/
def loadTable (p : Code.Program) : Except Raised Loaded := do
  let ns ← load p
  match ns.lookup "translations" with
  | some (.dict entries) => pure ⟨ns, entries⟩
  | some v => fail "TypeError" (quoted v.typeName ++ " object is not a dictionary")
  | none => fail "KeyError" (quoted "translations")

/-- Loads a module of one translation defined under `name`. -/
def loadSingle (p : Code.Program) (name : String) : Except Raised Loaded := do
  let ns ← load p
  match ns.lookup name with
  | some v => pure ⟨ns, [(name, v)]⟩
  | none => fail "KeyError" (quoted name)

/-- The result of one call against a loaded module. -/
def Call.run (c : Call) (l : Loaded) : Except Raised Value :=
  translate l.globals l.table c.key (.dict c.params) (.dict c.functions) c.quote

end Code

end Lingo
