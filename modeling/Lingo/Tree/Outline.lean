import Lingo.Tree.Node
import Lingo.Datum.Arith

/-!
# Outlines of trees

The tree printer draws a tree one node per line in depth-first pre-order, each line indented by one
bar per level of depth. A line names the node's kind, then its set fields other than position,
type, constancy and input text as literals (`Literal[value='a']`), then `: T` when the node has a
type and ` const` when it is constant.

The printer keeps as its state the depth of the node it visits (`Node.Printer`). A visit writes the
node's line at that depth, goes one level down for the children and comes back up after them
(`Node.printVisit`). A value or name holding an integer too long to write stops the printer
(`Node.outline?`).
-/

namespace Lingo

namespace Node

/-- The bar that marks one level of depth. -/
def depthMark : String := "│   "

/-- The line of one node, without indentation. -/
def outlineLine (n : Node) : String :=
  let shown := (n.kind.fields.filter (fun f => !([FieldName.pos, .ty, .const, .input].contains f))).filterMap
    fun fld => match n.fields.get fld with
      | .absent => none
      | v => some (fld.label ++ "=" ++ v.quoted)
  let fieldPart := if shown.isEmpty then "" else "[" ++ ", ".intercalate shown ++ "]"
  let tyPart := match n.ty? with
    | some t => ": " ++ t.name
    | none => ""
  let constPart := if n.kind.has .const && n.isConst then " const" else ""
  n.kind.name ++ fieldPart ++ tyPart ++ constPart

/-- The printer's state: the depth of the node it visits. Printing fails on an integer too long to
write. -/
abbrev Printer := StateT Nat (Except ArithError)

/-- Refuses a node whose value or name holds an integer too long to write. -/
def checkWritable (n : Node) : Except ArithError Unit := do
  n.fields.value.writable
  n.fields.name.writable

/-- Prints a node at the printer's depth: its line, then the texts of its children one level
deeper, one per line. The depth goes back up after the children. -/
def printVisit : Node → Printer String
  | mk k f cs => do
      checkWritable (mk k f cs)
      let depth ← get
      let line := String.join (List.replicate depth depthMark) ++ outlineLine (mk k f cs)
      modify (· + 1)
      let rest ← printChildren cs
      modify (· - 1)
      pure ("\n".intercalate (line :: rest))
where
  /-- Prints the children of a node in order. -/
  printChildren : List Node → Printer (List String)
    | [] => pure []
    | c :: cs => do
        let s ← printVisit c
        let ss ← printChildren cs
        pure (s :: ss)

/-- The outline of a tree, printed from depth zero. -/
def outline? (t : Node) : Except ArithError String := (printVisit t).run' 0

end Node

end Lingo
