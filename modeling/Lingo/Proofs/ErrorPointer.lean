import Lingo.Proofs.Lines
import Lingo.Text.Pointer

/-!
# Pointing at a place in a source

`Text.pointAt source note line column` writes every line of `source` behind its number, and
right after the line it points at a caret line and the note. `Text.PointerLayout` states that
layout line by line: the source lines in order, each behind a prefix of one width, the caret under
the asked column of the asked line (both clamped into the source), and the source recovered when
the two added lines and the prefixes are dropped. `Text.pointAt_lays_out_source` proves that the
pointer has this layout for every source, line and column, and every note that fits on one line.

The line numbers take as many digits as the number of lines (`Text.digitCount_mono`), so every
prefix has the width of the last one (`Text.length_numberPrefix`).
-/

namespace Lingo.Text

/-! ## Widths of line numbers -/

theorem digitCount_pos (n : Nat) : 0 < digitCount n := Nat.length_toDigits_pos

theorem lt_pow_digitCount (n : Nat) : n < 10 ^ digitCount n :=
  (Nat.length_toDigits_le_iff (by decide) (digitCount_pos n)).1 le_rfl

/-- A smaller number has no more digits. -/
theorem digitCount_mono {i n : Nat} (h : i ≤ n) : digitCount i ≤ digitCount n :=
  (Nat.length_toDigits_le_iff (by decide) (digitCount_pos n)).2
    (Nat.lt_of_le_of_lt h (lt_pow_digitCount n))

@[simp] theorem length_spaces (n : Nat) : (spaces n).length = n := by
  simp [spaces]

theorem length_toString (i : Nat) : (toString i).length = digitCount i := by
  simp [Nat.repr_eq_ofList_toDigits, digitCount]

/-- A line number, its colon and its padding take `w + 2` characters when the number has at most
`w` digits. -/
theorem length_numberPrefix {w i : Nat} (h : digitCount i ≤ w) :
    (toString i ++ ":" ++ spaces (w - digitCount i + 1)).length = w + 2 := by
  simp only [String.length_append, length_toString, length_spaces]
  have hcolon : ":".length = 1 := rfl
  omega

theorem oneLine_spaces (n : Nat) : OneLine (spaces n) := by
  simp [spaces, List.mem_replicate]

/-! ## The pointer's lines -/

/-- What a pointer into `source` at (`line`, `column`) with the note `note` shows, line by line,
as the lines `out`. Every source line appears in order behind its number, a colon and padding to
a common width `w + 2`, where `w` is the number of digits of the number of lines. Right after line
`l` (`line` clamped to the source's lines) come the caret line, `w + 2` blanks, `c` dashes and a
caret, with `c` the column clamped to that line's code points, and the note line. Dropping those
two lines and the prefixes gives the source back. -/
def PointerLayout (source note : String) (line column : Int) (out : List String) : Prop :=
  let lines := source.splitOn "\n"
  let w := digitCount lines.length
  let l := (clampInt line 1 lines.length).toNat
  let c := (clampInt column 0 (codeLength (lines[l - 1]?.getD ""))).toNat
  let numbered := lines.mapIdx fun i t =>
    toString (i + 1) ++ ":" ++ spaces (w - digitCount (i + 1) + 1) ++ t
  out = numbered.take l ++
      [spaces (w + 2) ++ String.ofList (List.replicate c '-') ++ "^", spaces (w + 2) ++ note] ++
      numbered.drop l ∧
    out.length = lines.length + 2 ∧
    (1 ≤ l ∧ l ≤ lines.length) ∧
    (∀ i, 1 ≤ i → i ≤ lines.length →
      (toString i ++ ":" ++ spaces (w - digitCount i + 1)).length = w + 2) ∧
    "\n".intercalate ((out.take l ++ out.drop (l + 2)).map fun t =>
      String.ofList (t.toList.drop (w + 2))) = source

/-- The source lines, numbered as the pointer numbers them. -/
theorem numbered_eq_mapIdx (w : Nat) (lines : List String) :
    ((List.range lines.length).zip lines).map (fun (i, t) => numberedLine w (i + 1) t) =
      lines.mapIdx fun i t => toString (i + 1) ++ ":" ++ spaces (w - digitCount (i + 1) + 1) ++ t := by
  apply List.ext_getElem (by simp)
  intro i h₁ h₂
  simp [numberedLine]

/-- The line asked for is clamped into the source. -/
theorem clamp_line_mem {n : Nat} (hn : 1 ≤ n) (line : Int) :
    1 ≤ (clampInt line 1 n).toNat ∧ (clampInt line 1 n).toNat ≤ n := by
  unfold clampInt
  omega

/-- A numbered line drops its prefix to give back the source line. -/
theorem drop_numberPrefix {w i : Nat} (h : digitCount i ≤ w) (t : String) :
    String.ofList ((toString i ++ ":" ++ spaces (w - digitCount i + 1) ++ t).toList.drop (w + 2)) = t := by
  have hlen : (toString i ++ ":" ++ spaces (w - digitCount i + 1)).toList.length = w + 2 := by
    rw [String.length_toList]
    exact length_numberPrefix h
  rw [String.toList_append, List.drop_left' hlen, String.ofList_toList]

/-- Two lines put in after the first `l` of a list lengthen it by two, and taking them out again
gives the list back. -/
theorem insert_two_lines {α : Type} {xs : List α} {l : Nat} (hl : l ≤ xs.length) (a b : α) :
    (xs.take l ++ [a, b] ++ xs.drop l).length = xs.length + 2 ∧
      (xs.take l ++ [a, b] ++ xs.drop l).take l ++ (xs.take l ++ [a, b] ++ xs.drop l).drop (l + 2) =
        xs := by
  have htake : (xs.take l).length = l := List.length_take_of_le hl
  refine ⟨by simp; omega, ?_⟩
  rw [List.append_assoc, List.take_left' htake, show l + 2 = (xs.take l).length + 2 by omega,
    List.drop_append, List.drop_eq_nil_of_le (by omega), Nat.add_sub_cancel_left]
  simp

/-- Each source line, numbered, fits on one line. -/
theorem oneLine_of_mem_numbered {source t : String} {w : Nat}
    (ht : t ∈ (source.splitOn "\n").mapIdx fun i t =>
      toString (i + 1) ++ ":" ++ spaces (w - digitCount (i + 1) + 1) ++ t) : OneLine t := by
  obtain ⟨i, hi, rfl⟩ := List.mem_mapIdx.1 ht
  have hline : OneLine (source.splitOn "\n")[i] := oneLine_of_mem_lines (List.getElem_mem hi)
  have hnum : OneLine (toString (i + 1)) := by
    simp [Nat.repr_eq_ofList_toDigits]
  simp only [OneLine.append]
  exact ⟨⟨⟨hnum, by decide⟩, oneLine_spaces _⟩, hline⟩

/-- The pointer's text splits into the numbered source lines, with the caret line and the note
line right after line `l`. -/
theorem pointAt_splitOn (source note : String) (line column : Int) (hnote : OneLine note) :
    let lines := source.splitOn "\n"
    let w := digitCount lines.length
    let l := (clampInt line 1 lines.length).toNat
    let c := (clampInt column 0 (codeLength (lines[l - 1]?.getD ""))).toNat
    let numbered := lines.mapIdx fun i t =>
      toString (i + 1) ++ ":" ++ spaces (w - digitCount (i + 1) + 1) ++ t
    (pointAt source note line column).splitOn "\n" = numbered.take l ++
      [spaces (w + 2) ++ String.ofList (List.replicate c '-') ++ "^", spaces (w + 2) ++ note] ++
      numbered.drop l := by
  intro lines w l c numbered
  have hnumbered : ∀ t ∈ numbered, OneLine t := fun t ht => oneLine_of_mem_numbered ht
  have hcaret : OneLine (spaces (w + 2) ++ String.ofList (List.replicate c '-') ++ "^") := by
    simp only [OneLine.append, OneLine.ofList, List.mem_replicate]
    exact ⟨⟨oneLine_spaces _, by simp⟩, by decide⟩
  have hall : ∀ t ∈ numbered.take l ++
      [spaces (w + 2) ++ String.ofList (List.replicate c '-') ++ "^", spaces (w + 2) ++ note] ++
      numbered.drop l, OneLine t := by
    simp only [List.mem_append, List.mem_cons, List.not_mem_nil, or_false]
    rintro t ((ht | rfl | rfl) | ht)
    · exact hnumbered t (List.mem_of_mem_take ht)
    · exact hcaret
    · exact OneLine.append.2 ⟨oneLine_spaces _, hnote⟩
    · exact hnumbered t (List.mem_of_mem_drop ht)
  rw [pointAt, ← lines_intercalate hall (by simp)]
  simp only [numbered_eq_mapIdx]
  rfl

/-- The pointer shows every source line in order behind its number, and the caret line and the
note right after the line it points at, for every source, line, column and one-line note. -/
theorem pointAt_lays_out_source (source note : String) (line column : Int)
    (hnote : '\n' ∉ note.toList) :
    PointerLayout source note line column ((pointAt source note line column).splitOn "\n") := by
  have hsplit := pointAt_splitOn source note line column hnote
  unfold PointerLayout
  intro lines w l c numbered
  have hn : 1 ≤ lines.length := List.length_pos_of_ne_nil (lines_ne_nil source)
  obtain ⟨hl₁, hl₂⟩ := clamp_line_mem hn line
  have hlen : numbered.length = lines.length := List.length_mapIdx
  have hl : l ≤ numbered.length := by omega
  obtain ⟨hout, hback⟩ := insert_two_lines hl
    (spaces (w + 2) ++ String.ofList (List.replicate c '-') ++ "^") (spaces (w + 2) ++ note)
  have hprefix : ∀ i, 1 ≤ i → i ≤ lines.length →
      (toString i ++ ":" ++ spaces (w - digitCount i + 1)).length = w + 2 :=
    fun i _ hi => length_numberPrefix (digitCount_mono hi)
  -- every numbered line drops its prefix to give back its source line
  have hdrop : numbered.map (fun t => String.ofList (t.toList.drop (w + 2))) = lines := by
    apply List.ext_getElem (by simp [hlen])
    intro i h₁ h₂
    simp only [List.getElem_map, numbered, List.getElem_mapIdx]
    exact drop_numberPrefix (digitCount_mono (by omega)) _
  refine ⟨hsplit, ?_, ⟨hl₁, hl₂⟩, hprefix, ?_⟩
  · rw [hsplit, hout, hlen]
  · rw [hsplit, hback, hdrop, intercalate_lines]

/-- A pointer at the tenth of twelve lines, whose numbers take two digits. -/
theorem pointAt_lays_out_twelve_lines :
    '\n' ∉ "oops".toList ∧
      PointerLayout "0\n1\n2\n3\n4\n5\n6\n7\n8\n9\n10\n11" "oops" 10 1
        ((pointAt "0\n1\n2\n3\n4\n5\n6\n7\n8\n9\n10\n11" "oops" 10 1).splitOn "\n") :=
  ⟨by simp, pointAt_lays_out_source _ _ 10 1 (by simp)⟩

example : pointAt "a\nbc" "m" 2 1 = "1: a\n2: bc\n   -^\n   m" := by cbv

end Lingo.Text
