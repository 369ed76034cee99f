import Mathlib.Data.String.Basic
import Mathlib.Tactic.IntervalCases
import Lingo.Datum.Basic

/-!
# Texts and their lines

A text is split into lines at each line feed (`String.splitOn` on `"\n"`), and lines are joined
with line feeds between them (`String.intercalate`). Splitting on a one-character separator is
`List.splitOn` on the characters (`String.splitOn_singleton`), so joining the lines of a text
gives it back (`Text.intercalate_lines`) and splitting a join of texts that fit on one line gives
them back (`Text.lines_intercalate`).

A text fits on one line (`Text.OneLine`) when it holds no line feed. The literals the library
writes do: the quoted form of every string, since a line feed is written as an escape
(`Text.oneLine_quote`), the text of every double (`Scalar.oneLine_floatText`), and the literal of
every datum (`Datum.oneLine_repr`).
-/

namespace String

/-- `splitOnAux` with a one-character separator, started at a boundary `l` with the piece `m` read
so far, splits what is left as `List.splitOn` would. -/
private theorem splitOnAux_singleton (c : Char) (l m r : List Char) (acc : List String) :
    splitOnAux (ofList (l ++ m ++ r)) (singleton c) ⟨utf8Len l⟩ ⟨utf8Len l + utf8Len m⟩ 0 acc =
      acc.reverse ++ (List.splitOnPPrepend (· == c) r m.reverse).map ofList := by
  rw [splitOnAux]
  simp only [List.append_assoc, atEnd_iff, rawEndPos_ofList, utf8Len_append, Pos.Raw.mk_le_mk,
    Nat.add_le_add_iff_left, (by omega : utf8Len m + utf8Len r ≤ utf8Len m ↔ utf8Len r = 0),
    utf8Len_eq_zero]
  split
  · subst r
    simpa using extract_of_valid l m []
  · obtain ⟨d, r, rfl⟩ := r.exists_cons_of_ne_nil ‹_›
    have hget : Pos.Raw.get (ofList (l ++ (m ++ d :: r))) ⟨utf8Len l + utf8Len m⟩ = d := by
      simpa [utf8Len_append] using get_of_valid (l ++ m) (d :: r)
    have hnext : Pos.Raw.next (ofList (l ++ (m ++ d :: r))) ⟨utf8Len l + utf8Len m⟩ =
        ⟨utf8Len l + utf8Len m + d.utf8Size⟩ := by
      simpa [utf8Len_append] using next_of_valid (l ++ m) d r
    -- the separator is matched in one step: its one character ends it
    have hsep : Pos.Raw.get (singleton c) 0 = c := by simpa using get_of_valid [] [c]
    have hsepNext : Pos.Raw.next (singleton c) 0 = ⟨c.utf8Size⟩ := by
      simpa using next_of_valid [] c []
    have hsepEnd : (singleton c).rawEndPos = ⟨c.utf8Size⟩ := by simpa using rawEndPos_ofList [c]
    rw [hget, hsep, hsepNext, hsepEnd, hnext]
    by_cases h : d = c
    · subst h
      have hm : Pos.Raw.extract (ofList (l ++ (m ++ d :: r))) ⟨utf8Len l⟩
          (Pos.Raw.unoffsetBy ⟨utf8Len l + utf8Len m + d.utf8Size⟩ ⟨d.utf8Size⟩) = ofList m := by
        simpa [Pos.Raw.unoffsetBy] using extract_of_valid l m (d :: r)
      simp only [beq_self_eq_true, ↓reduceIte, Pos.Raw.le_refl, hm]
      simpa [List.splitOnPPrepend_cons_eq_if, utf8Len_append, Nat.add_assoc] using
        splitOnAux_singleton d (l ++ m ++ [d]) [] r (ofList m :: acc)
    · have hskip : Pos.Raw.unoffsetBy ⟨utf8Len l + utf8Len m⟩ 0 = ⟨utf8Len l + utf8Len m⟩ := by
        simp [Pos.Raw.unoffsetBy]
      simp only [beq_iff_eq, h, ↓reduceIte, hskip, hnext]
      simpa [List.splitOnPPrepend_cons_eq_if, h, utf8Len_append, Nat.add_assoc] using
        splitOnAux_singleton c l (m ++ [d]) r acc

/-- Splitting on a one-character separator splits the characters. -/
theorem splitOn_singleton (s : String) (c : Char) :
    s.splitOn (singleton c) = (s.toList.splitOn c).map ofList := by
  rw [splitOn, if_neg (by simp [← String.toList_inj]), List.splitOn_eq_splitOnP,
    List.splitOnP_eq_splitOnPPrepend]
  simpa using splitOnAux_singleton c [] [] s.toList []

end String

namespace Lingo.Text

/-- A text fits on one line when it holds no line feed. -/
def OneLine (s : String) : Prop := '\n' ∉ s.toList

instance : DecidablePred OneLine := fun s => inferInstanceAs (Decidable ('\n' ∉ s.toList))

/-- The lines of a text, split at its line feeds. -/
theorem lines_eq (s : String) : s.splitOn "\n" = (s.toList.splitOn '\n').map String.ofList :=
  String.splitOn_singleton s '\n'

/-- Joining the lines of a text gives the text back. -/
theorem intercalate_lines (s : String) : "\n".intercalate (s.splitOn "\n") = s := by
  rw [← String.toList_inj, String.toList_intercalate, lines_eq, List.map_map]
  simp [List.intercalate_splitOn]

/-- Splitting a join of one-line texts gives them back. -/
theorem lines_intercalate {ls : List String} (h : ∀ l ∈ ls, OneLine l) (hne : ls ≠ []) :
    ("\n".intercalate ls).splitOn "\n" = ls := by
  have hsplit : List.splitOn '\n' (['\n'].intercalate (ls.map String.toList)) =
      ls.map String.toList :=
    List.splitOn_intercalate '\n' (by simpa [OneLine] using h) (by simpa using hne)
  rw [lines_eq, String.toList_intercalate]
  simpa [List.map_map] using congrArg (List.map String.ofList) hsplit

/-- A piece of a split holds no separator. -/
theorem not_mem_of_mem_splitOn {c : Char} :
    ∀ {xs piece : List Char}, piece ∈ xs.splitOn c → c ∉ piece
  | [], piece, h => by
    rw [List.splitOn_nil, List.mem_singleton] at h
    simp [h]
  | x :: xs, piece, h => by
    rw [List.splitOn_cons_eq_if_modifyHead] at h
    obtain ⟨first, rest, hsplit⟩ := List.exists_cons_of_ne_nil (List.splitOn_ne_nil c xs)
    have hfirst : c ∉ first := not_mem_of_mem_splitOn (hsplit ▸ List.mem_cons_self)
    have hrest : ∀ p ∈ rest, c ∉ p := fun p hp =>
      not_mem_of_mem_splitOn (hsplit ▸ List.mem_cons_of_mem _ hp)
    split at h
    · rcases List.mem_cons.1 h with rfl | h
      · simp
      · exact not_mem_of_mem_splitOn h
    · next hx =>
      rw [hsplit, List.modifyHead_cons, List.mem_cons] at h
      rcases h with rfl | h
      · simp only [List.mem_cons, not_or]
        exact ⟨fun h => hx (by simp [h]), hfirst⟩
      · exact hrest piece h

/-- Joining groups of texts, each group joined first, is joining all their texts, as long as no
group is empty. -/
theorem intercalate_map_intercalate (sep : String) :
    ∀ {xss : List (List String)}, (∀ xs ∈ xss, xs ≠ []) →
      sep.intercalate (xss.map sep.intercalate) = sep.intercalate xss.flatten
  | [], _ => rfl
  | [xs], _ => by simp
  | xs :: ys :: xss, h => by
    have hxs : xs ≠ [] := h xs List.mem_cons_self
    have hys : ys ≠ [] := h ys (List.mem_cons_of_mem _ List.mem_cons_self)
    have hrest : ∀ zs ∈ ys :: xss, zs ≠ [] := fun zs hz => h zs (List.mem_cons_of_mem _ hz)
    have hflat : (ys :: xss).flatten ≠ [] := by simp [hys]
    rw [List.map_cons, String.intercalate_cons_of_ne_nil (by simp),
      intercalate_map_intercalate sep hrest]
    conv_rhs => rw [List.flatten_cons, String.intercalate_append_of_ne_nil hxs hflat]

/-- Every line of a text fits on one line. -/
theorem oneLine_of_mem_lines {s l : String} (h : l ∈ s.splitOn "\n") : OneLine l := by
  rw [lines_eq, List.mem_map] at h
  obtain ⟨piece, hpiece, rfl⟩ := h
  simpa [OneLine] using not_mem_of_mem_splitOn hpiece

/-- A text has at least one line. -/
theorem lines_ne_nil (s : String) : s.splitOn "\n" ≠ [] := by
  simp [lines_eq]

namespace OneLine

@[simp] theorem append {s t : String} : OneLine (s ++ t) ↔ OneLine s ∧ OneLine t := by
  simp [OneLine, not_or]

@[simp] theorem ofList {l : List Char} : OneLine (String.ofList l) ↔ '\n' ∉ l := by
  simp [OneLine]

@[simp] theorem singleton {c : Char} : OneLine (String.singleton c) ↔ c ≠ '\n' := by
  simp [OneLine, eq_comm]

@[simp] theorem push {s : String} {c : Char} : OneLine (s.push c) ↔ OneLine s ∧ c ≠ '\n' := by
  simp [OneLine, String.toList_push, eq_comm]

@[simp] theorem join {l : List String} : OneLine (String.join l) ↔ ∀ s ∈ l, OneLine s := by
  simp [OneLine, String.toList_join]

theorem intercalate {sep : String} (hsep : OneLine sep) :
    ∀ {l : List String}, (∀ s ∈ l, OneLine s) → OneLine (sep.intercalate l)
  | [], _ => by simp [OneLine]
  | [s], h => by simpa using h
  | s :: t :: l, h => by
    rw [String.intercalate_cons_cons]
    simp only [List.mem_cons, forall_eq_or_imp] at h
    exact append.2 ⟨append.2 ⟨h.1, hsep⟩, intercalate hsep (by simpa using h.2)⟩

end OneLine

/-- A digit is never a line feed, in any base. -/
theorem digitChar_ne_newline (d : Nat) : d.digitChar ≠ '\n' := by
  by_cases hd : 16 ≤ d
  · rw [Nat.digitChar_eq_star.2 hd]
    decide
  · interval_cases d <;> decide

/-- The digits written in front of `cs` are digits. -/
theorem digitChar_of_mem_toDigitsCore {b fuel n : Nat} {cs : List Char} {c : Char}
    (hc : c ∈ Nat.toDigitsCore b fuel n cs) : c ∈ cs ∨ ∃ d : Nat, c = d.digitChar := by
  induction fuel generalizing n cs with
  | zero => exact .inl hc
  | succ fuel ih =>
    rw [Nat.toDigitsCore] at hc
    split at hc
    · rcases List.mem_cons.1 hc with rfl | h
      · exact .inr ⟨_, rfl⟩
      · exact .inl h
    · rcases ih hc with h | h
      · rcases List.mem_cons.1 h with rfl | h
        · exact .inr ⟨_, rfl⟩
        · exact .inl h
      · exact .inr h

@[simp] theorem newline_not_mem_toDigits (b n : Nat) : '\n' ∉ Nat.toDigits b n := by
  intro h
  rcases digitChar_of_mem_toDigitsCore h with h | ⟨d, hd⟩
  · simp at h
  · exact digitChar_ne_newline d hd.symm

theorem oneLine_hexEscape (n : Nat) : OneLine (hexEscape n) := by
  unfold hexEscape hexPadded
  split_ifs <;> simp [OneLine]

/-- A code point of a literal is written on one line, whatever the delimiter, as long as the
delimiter is no line feed: the line feed itself takes its escape. -/
theorem oneLine_quotePoint {d : Char} (hd : d ≠ '\n') (n : Nat) : OneLine (quotePoint d n) := by
  unfold quotePoint
  dsimp only
  split_ifs with hesc hdelim htab hlf
  · exact oneLine_hexEscape n
  · -- the delimiter or a backslash, behind a backslash
    rcases hdelim with h | h
    · simp [h, hd.symm, OneLine]
    · simp [h, OneLine]
  · decide
  · decide
  · decide
  · exact oneLine_hexEscape n
  · -- a printable character stands for itself, and it is no line feed
    simpa using hlf
  · simpa using hlf
  · exact oneLine_hexEscape n

/-- The quoted form of a text fits on one line. -/
theorem oneLine_quote (s : String) : OneLine (quote s) := by
  have hd : delimiterFor s ≠ '\n' := by
    unfold delimiterFor
    split <;> decide
  simp only [quote, OneLine.append, OneLine.singleton, OneLine.join, List.mem_map]
  refine ⟨⟨hd, ?_⟩, hd⟩
  rintro _ ⟨n, -, rfl⟩
  exact oneLine_quotePoint hd n

end Lingo.Text

namespace Lingo.Decimal

open Text

theorem oneLine_zeros (n : Nat) : OneLine (zeros n) := by
  simp [zeros, List.mem_replicate]

/-- The digits cut anywhere give two pieces on one line. -/
theorem oneLine_take_drop {ds : String} (hds : OneLine ds) (k : Nat) :
    OneLine (String.ofList (ds.toList.take k)) ∧ OneLine (String.ofList (ds.toList.drop k)) :=
  ⟨OneLine.ofList.2 fun h => hds (List.mem_of_mem_take h),
    OneLine.ofList.2 fun h => hds (List.mem_of_mem_drop h)⟩

theorem oneLine_pointZero (st : Style) : OneLine (if st.pointZero then ".0" else "") := by
  split <;> decide

theorem oneLine_fixedText (st : Style) {ds : String} (hds : OneLine ds) (e : Int) :
    OneLine (fixedText st ds e) := by
  unfold fixedText
  dsimp only
  split
  · -- a negative exponent: zeros between the point and the digits
    exact OneLine.append.2 ⟨OneLine.append.2 ⟨by decide, oneLine_zeros _⟩, hds⟩
  split
  · -- the point falls inside the digits
    obtain ⟨htake, hdrop⟩ := oneLine_take_drop hds (e.toNat + 1)
    exact OneLine.append.2 ⟨OneLine.append.2 ⟨htake, by decide⟩, hdrop⟩
  · -- zeros after the digits, then the point and a zero if the style asks for them
    exact OneLine.append.2 ⟨OneLine.append.2 ⟨hds, oneLine_zeros _⟩, oneLine_pointZero st⟩

theorem oneLine_scientificText {st : Style} (hm : OneLine st.mark) {ds : String} (hds : OneLine ds)
    (e : Int) : OneLine (scientificText st ds e) := by
  obtain ⟨hlead, hrest⟩ := oneLine_take_drop hds 1
  have hfraction : OneLine (if (String.ofList (ds.toList.drop 1)).isEmpty then "" else
      "." ++ String.ofList (ds.toList.drop 1)) := by
    split
    · decide
    · exact OneLine.append.2 ⟨by decide, hrest⟩
  have hsign : OneLine (if e < 0 then "-" else if st.plusSign then "+" else "") := by
    split_ifs <;> decide
  have hexp : OneLine (String.ofList (Nat.toDigits 10 e.natAbs)) := by simp
  unfold scientificText
  dsimp only
  refine OneLine.append.2 ⟨OneLine.append.2 ⟨OneLine.append.2 ⟨?_, hsign⟩, oneLine_zeros _⟩, hexp⟩
  exact OneLine.append.2 ⟨OneLine.append.2 ⟨hlead, hfraction⟩, hm⟩

/-- A double is written on one line when its style's texts are. -/
theorem oneLine_floatText {st : Style} (hm : OneLine st.mark) (hn : OneLine st.nanText)
    (hi : OneLine st.infText) (f : Float) : OneLine (floatText st f) := by
  have hsign (neg : Bool) : OneLine (if neg then "-" else "") := by
    split <;> simp [OneLine]
  have hdec (c : Nat) (j : Int) : OneLine (decimalText st c j) := by
    have hds : OneLine (String.ofList (Nat.toDigits 10 c)) := by simp
    unfold decimalText
    dsimp only
    split_ifs
    · exact oneLine_fixedText st hds _
    · exact oneLine_scientificText hm hds _
  unfold floatText
  split
  · exact OneLine.append.2 ⟨OneLine.append.2 ⟨hsign _, by simp [OneLine]⟩, oneLine_pointZero st⟩
  · exact OneLine.append.2 ⟨hsign _, hdec _ _⟩
  · exact OneLine.append.2 ⟨hsign _, hi⟩
  · exact hn

end Lingo.Decimal

namespace Lingo

open Text

theorem Scalar.oneLine_intText (i : Int) : OneLine (Scalar.intText i) := by
  unfold Scalar.intText
  split <;> simp [OneLine]

theorem Scalar.oneLine_floatText (x : Float) : OneLine (Scalar.floatText x) :=
  Decimal.oneLine_floatText (by decide) (by decide) (by decide) x

/-- The literal of a scalar fits on one line; its plain text need not, as a string stands for
itself. -/
theorem Scalar.oneLine_literal (s : Scalar) : OneLine s.literal := by
  cases s with
  | str t => exact oneLine_quote t
  | float x => exact Scalar.oneLine_floatText x
  | int i => exact Scalar.oneLine_intText i
  | none => decide
  | bool b => cases b <;> decide

mutual

/-- The literal of a datum fits on one line. -/
theorem Datum.oneLine_repr : ∀ d : Datum, OneLine d.repr
  | .scalar s => s.oneLine_literal
  | .safe s => by
    simp only [Datum.repr, OneLine.append]
    exact ⟨⟨by decide, oneLine_quote s⟩, by decide⟩
  | .list items => by
    simp only [Datum.repr, OneLine.append]
    exact ⟨⟨by decide, OneLine.intercalate (by decide) (Datum.oneLine_reprAll items)⟩, by decide⟩
  | .dict entries => by
    simp only [Datum.repr, OneLine.append]
    exact ⟨⟨by decide, OneLine.intercalate (by decide) (Datum.oneLine_reprEntries entries)⟩,
      by decide⟩

theorem Datum.oneLine_reprAll : ∀ ds : List Datum, ∀ s ∈ Datum.reprAll ds, OneLine s
  | [] => by simp [Datum.reprAll]
  | d :: ds => by
    simp only [Datum.reprAll, List.mem_cons, forall_eq_or_imp]
    exact ⟨Datum.oneLine_repr d, Datum.oneLine_reprAll ds⟩

theorem Datum.oneLine_reprEntries :
    ∀ es : List (String × Datum), ∀ s ∈ Datum.reprEntries es, OneLine s
  | [] => by simp [Datum.reprEntries]
  | (k, d) :: es => by
    simp only [Datum.reprEntries, List.mem_cons, forall_eq_or_imp, OneLine.append]
    exact ⟨⟨⟨oneLine_quote k, by decide⟩, Datum.oneLine_repr d⟩, Datum.oneLine_reprEntries es⟩

end

end Lingo
