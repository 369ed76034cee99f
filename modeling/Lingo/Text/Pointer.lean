import Lingo.Text.CodePoint

/-!
# Pointing at a place in a source text

`pointAt source note line column` lays out every line of `source` behind its number and a colon,
the numbers padded to one width, and puts two lines directly after line `line`: a caret under
code point `column` of that line, led by dashes, and the note. Line and column are clamped into the
text, so every position renders, even one outside it.
-/

namespace Lingo.Text

/-- `n` spaces. -/
def spaces (n : Nat) : String := String.ofList (List.replicate n ' ')

/-- The number of decimal digits of `n`. -/
def digitCount (n : Nat) : Nat := (Nat.toDigits 10 n).length

/-- Line `i` (counting from one) behind its number, padded so that all line texts of a source
with `width`-digit line numbers start in one column. -/
def numberedLine (width i : Nat) (text : String) : String :=
  toString i ++ ":" ++ spaces (width - digitCount i + 1) ++ text

/-- Clamps `x` into `[lo, hi]`. -/
def clampInt (x lo hi : Int) : Int := max lo (min x hi)

/-- The numbered lines of `source` with a caret under `column` of line `line`, then `note`. -/
def pointAt (source note : String) (line column : Int) : String :=
  let lines := source.splitOn "\n"
  let width := digitCount lines.length
  let numbered := (List.range lines.length).zip lines |>.map fun (i, t) => numberedLine width (i + 1) t
  let pad := spaces (width + 2)
  let l := (clampInt line 1 lines.length).toNat
  let lineText := (lines[l - 1]?).getD ""
  let c := (clampInt column 0 (codeLength lineText)).toNat
  let marks := [pad ++ String.ofList (List.replicate c '-') ++ "^", pad ++ note]
  "\n".intercalate (numbered.take l ++ marks ++ numbered.drop l)

end Lingo.Text
