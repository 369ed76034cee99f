import Lingo.Tree.Memo

/-!
# Moving a tree into its enclosing text

`Node.reposition enclosing t` maps the position of every node of `t` by `Pos.reposition`, for a
tree read from a fragment that starts at `enclosing` in a larger text. Nodes without a position
keep their fields. Results are remembered by key (`Memo`).
-/

namespace Lingo

namespace Node

/-- Repositions every node below and at `n`, remembering results by key. -/
def repositionM (enclosing : Pos) : Node → TransformM Node
  | mk k f cs => do
    let n := mk k f cs
    match (← get).find? n with
    | some r => pure r
    | none =>
      let cs' ← cs.mapM (repositionM enclosing)
      let f' := if k.has .pos then { f with pos := enclosing.reposition f.pos } else f
      let r := settle n (← TransformM.ofBuild (n.rebuild cs' f'))
      modify (·.insert n r)
      pure r

/-- The tree with every position mapped into the text where its fragment starts at
`enclosing`. -/
def reposition (enclosing : Pos) (n : Node) : Except Failure Node := do
  n.requireKey
  (repositionM enclosing n).run' {}

end Node

end Lingo
