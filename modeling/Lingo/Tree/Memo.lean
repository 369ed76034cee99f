import Lingo.Error

/-!
# Results remembered by key

A tree transformation computes each node's result once per key: when a later node has the same key
as an earlier one (`Node.sameKey`), it takes the earlier node's result as it is. Two keys can
agree while the nodes differ in the kind of a literal (`1` against `1.0`), so the result a node
gets can carry the earlier node's literals. A result with the same key as its node is the node
itself. Lookups treat NaN values as agreeing: a transformation only ever meets a NaN again in the
very node that holds it. A tree with a list or dictionary in a field has no key, so such a
transformation refuses it from the start (`Node.requireKey`).
-/

namespace Lingo

/-- The results of a transformation so far, each with the node it was computed for. -/
structure Memo where
  entries : List (Node × Node) := []
  deriving Inhabited

namespace Memo

/-- The result remembered for a node with the key of `n`. -/
def find? (m : Memo) (n : Node) : Option Node :=
  (m.entries.find? (fun e => Node.sameKey true e.1 n)).map (·.2)

/-- Remembers the result `r` for the key of `n`. -/
def insert (m : Memo) (n r : Node) : Memo := ⟨(n, r) :: m.entries⟩

end Memo

/-- A transformation step: it reads and extends the memo and may fail. -/
abbrev TransformM := StateT Memo (Except Failure)

/-- Lifts a build result into a transformation step. -/
def TransformM.ofBuild (r : Except BuildError Node) : TransformM Node :=
  match r with
  | .ok n => pure n
  | .error e => throw (.build e)

/-- Refuses a tree that has no key because a field holds a list or a dictionary; every
transformation that remembers results asks for the key of the root before anything else. -/
def Node.requireKey (t : Node) : Except Failure Unit :=
  match t.unhashable? with
  | some k => throw (.unhashable k)
  | none => pure ()

/-- The result `r` computed for `n`, or `n` itself when `r` has its key. -/
def settle (n r : Node) : Node := if Node.sameKey true r n then n else r

end Lingo
