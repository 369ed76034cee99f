/-!
# White space

Two notions of white space meet when text is read as a number. The blanks are the six ASCII
white-space characters: space, tab, line feed, vertical tab, form feed and carriage return. The
wide spaces are the characters past ASCII that Unicode counts as white space: the next line
control, the no-break spaces, the ogham space mark, the typographic spaces of the general
punctuation block, the line and paragraph separators and the ideographic space.
-/

namespace Lingo.Text

/-- Whether a character is one of the six ASCII blanks. -/
def isBlank (c : Char) : Bool :=
  c = ' ' ∨ c = '\t' ∨ c = '\n' ∨ c = '\x0b' ∨ c = '\x0c' ∨ c = '\r'

/-- Whether a character past ASCII is white space. -/
def isWideSpace (c : Char) : Bool :=
  let n := c.toNat
  n = 0x85 ∨ n = 0xA0 ∨ n = 0x1680 ∨ (0x2000 ≤ n ∧ n ≤ 0x200A) ∨ n = 0x2028 ∨ n = 0x2029 ∨
    n = 0x202F ∨ n = 0x205F ∨ n = 0x3000

/-- Every white-space character that core knows is a blank. -/
theorem isBlank_of_isWhitespace (c : Char) (h : c.isWhitespace) : isBlank c := by
  unfold Char.isWhitespace at h
  unfold isBlank
  simp only [Bool.or_eq_true, decide_eq_true_eq] at h ⊢
  rcases h with ((h | h) | h) | h <;> simp [h]

end Lingo.Text
