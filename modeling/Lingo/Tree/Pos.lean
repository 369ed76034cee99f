/-!
# Source positions

A position is the span of a node in its source text: lines count from one, columns from zero, and
the last column points one past the span. `Pos.reposition` maps a span measured in a fragment that
was read on its own into the text the fragment stands in: lines shift by the fragment's first
line, and columns shift only on the fragment's first line.
-/

namespace Lingo

/-- The span of a node in its source text. -/
structure Pos where
  firstLine : Int
  firstColumn : Int
  lastLine : Int
  lastColumn : Int
  deriving DecidableEq, Repr

namespace Pos

/-- The span a node has when none is given: the start of the first line. -/
def start : Pos := ⟨1, 0, 1, 0⟩

instance : Inhabited Pos := ⟨start⟩

/-- The span from the start of `a` to the end of `b`. -/
def combine (a b : Pos) : Pos := ⟨a.firstLine, a.firstColumn, b.lastLine, b.lastColumn⟩

/-- The span `p`, measured in a fragment read on its own, within the text where the fragment
starts at `enclosing`. -/
def reposition (enclosing p : Pos) : Pos :=
  { firstLine := enclosing.firstLine + p.firstLine - 1
    firstColumn := if p.firstLine ≠ 1 then p.firstColumn else enclosing.firstColumn + p.firstColumn
    lastLine := enclosing.firstLine + p.lastLine - 1
    lastColumn := if p.lastLine ≠ 1 then p.lastColumn else enclosing.firstColumn + p.lastColumn }

end Pos

end Lingo
