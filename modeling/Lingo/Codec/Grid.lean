import Std.Data.HashMap
import Lingo.Codec.Ranges

/-!
# Character grids and multibyte encoders

A double-byte character set is a grid of rows of cells, most often 94 rows of 94. A `Grid` keeps
one text per row holding its characters in cell order: U+FFFD marks an empty cell, and a row may
stop before its last cell. An encoder needs the grid the other way round, so `Grid.addTo` gives
each character the code of its cell, computed from the cell number `row * width + cell`.

A multibyte encoder (`Encoder`) reads its input one character at a time, looking at the character
after it: some codecs write two characters in one code. Stateful codecs carry a state from one
character to the next and close their output from the last state.
-/

namespace Lingo.Codec

/-- A grid of characters: `rows` in order, each of at most `width` cells. -/
structure Grid where
  width : Nat
  rows : List String

/-- The character that marks an empty cell. -/
def Grid.hole : Char := '�'

/-- Adds to `table` the characters of one row whose first cell has number `start`, each with the
code `code` gives its cell number. -/
def Grid.addRow (code : Nat → Nat) (table : Std.HashMap Nat Nat) (start : Nat) (row : String) :
    Std.HashMap Nat Nat :=
  row.toList.zipIdx.foldl (fun table (ch, i) =>
    if ch = Grid.hole then table else table.insert ch.toNat (code (start + i))) table

/-- Adds the characters of a grid to `table`, each with the code `code` gives its cell number. -/
def Grid.addTo (g : Grid) (code : Nat → Nat) (table : Std.HashMap Nat Nat) :
    Std.HashMap Nat Nat :=
  g.rows.zipIdx.foldl (fun table (row, r) => Grid.addRow code table (r * g.width) row) table

/-- The cell number of every character of a grid. -/
def Grid.index (g : Grid) : Std.HashMap Nat Nat :=
  g.addTo id {}

/-- Adds the characters `chars` to `table`, the `k`-th with the code `codes[k]`. -/
def fillCodes (table : Std.HashMap Nat Nat) (chars codes : List Nat) : Std.HashMap Nat Nat :=
  (chars.zip codes).foldl (fun table (c, k) => table.insert c k) table

/-- The two bytes of a cell of a 94 by 94 grid, each with its high bit set. -/
def eucPair (cell : Nat) : List Nat :=
  [0xA1 + cell / 94, 0xA1 + cell % 94]

/-- The two bytes of a code below 0x10000. -/
def codeBytes (code : Nat) : List Nat :=
  [code / 256, code % 256]

/-- A multibyte encoder with states `σ`. From a state, `step` reads the character at the head of
the input, given the character after it if there is one: it gives the bytes written, whether
they stand for both characters, and the next state, or nothing when the head cannot be
written. `finish` gives the bytes that close the output from the last state. -/
structure Encoder (σ : Type) where
  start : σ
  step : σ → Nat → Option Nat → Option (List Nat × Bool × σ)
  finish : σ → List Nat

/-- A stateless encoder from its step. -/
def Encoder.stateless (step : Nat → Option Nat → Option (List Nat × Bool)) : Encoder Unit where
  start := ()
  step _ c next := (step c next).map fun (bs, both) => (bs, both, ())
  finish _ := []

/-- A stateless encoder that writes one character at a time. -/
def Encoder.ofSingle (f : Nat → Option (List Nat)) : Encoder Unit :=
  Encoder.stateless fun c _ => (f c).map (·, false)

/-- Runs an encoder from state `st` over code points from position `pos` on: the bytes, or the
position of the first character it cannot write. -/
def Encoder.runFrom {σ : Type} (e : Encoder σ) (st : σ) (pos : Nat) :
    List Nat → Except Nat (List Nat)
  | [] => .ok (e.finish st)
  | [c] =>
      match e.step st c none with
      | some (bs, _, st) => .ok (bs ++ e.finish st)
      | none => .error pos
  | c :: d :: rest =>
      match e.step st c (some d) with
      | some (bs, true, st) => (e.runFrom st (pos + 2) rest).map (bs ++ ·)
      | some (bs, false, st) => (e.runFrom st (pos + 1) (d :: rest)).map (bs ++ ·)
      | none => .error pos

/-- Runs an encoder over code points: the bytes, or the position of the first character it
cannot write. -/
def Encoder.run {σ : Type} (e : Encoder σ) (cps : List Nat) : Except Nat (List Nat) :=
  e.runFrom e.start 0 cps

theorem Encoder.run_nil {σ : Type} (e : Encoder σ) : e.run [] = .ok (e.finish e.start) := by
  simp [Encoder.run, Encoder.runFrom]

end Lingo.Codec
