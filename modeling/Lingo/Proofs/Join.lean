import Lingo.Ty

/-!
# Merging types is a join

`Ty.merge` is the join of a semilattice on the seven types: it is associative, commutative and
idempotent, `unknown` is its neutral element and `error` absorbs everything. The table it is read
from is written row by row, the existing type against the new one; these laws say that the order of
the two never mattered. So the type that a list of uses asks for (`Ty.join`) depends only on which
uses there are, and not on the order in which a walk meets them.
-/

namespace Lingo

namespace Ty

@[simp] theorem merge_unknown (t : Ty) : t.merge unknown = t := by
  cases t <;> rfl

@[simp] theorem unknown_merge (t : Ty) : unknown.merge t = t := by
  cases t <;> rfl

@[simp] theorem merge_error (t : Ty) : t.merge error = error := by
  cases t <;> rfl

@[simp] theorem error_merge (t : Ty) : error.merge t = error := by
  cases t <;> rfl

@[simp] theorem merge_self (t : Ty) : t.merge t = t := by
  cases t <;> rfl

theorem merge_comm (a b : Ty) : a.merge b = b.merge a := by
  cases a <;> cases b <;> rfl

theorem merge_assoc (a b c : Ty) : (a.merge b).merge c = a.merge (b.merge c) := by
  cases a <;> cases b <;> cases c <;> rfl

/-- Merging a type into the result of an earlier merge commutes with merging another one, the
step that lets a fold of merges take its uses in any order. -/
theorem merge_right_comm (a b c : Ty) : (a.merge b).merge c = (a.merge c).merge b := by
  rw [merge_assoc, merge_comm b c, ← merge_assoc]

/-- Only `number` and `error` lie above `number`: a variable once used as a number is a number
or in conflict. -/
theorem merge_number_cases (t : Ty) :
    t.merge number = number ∨ t.merge number = error := by
  cases t <;> simp [merge]

/-- The type that a list of uses asks for together, merged in from `unknown`. -/
def join (ts : List Ty) : Ty := ts.foldl merge unknown

@[simp] theorem join_nil : join [] = unknown := rfl

theorem foldl_merge_eq (t : Ty) (ts : List Ty) : ts.foldl merge t = t.merge (join ts) := by
  induction ts generalizing t with
  | nil => simp [join]
  | cons u us ih =>
    simp only [List.foldl_cons, join, unknown_merge]
    rw [ih, ih u, merge_assoc]

theorem join_append (ts us : List Ty) : join (ts ++ us) = (join ts).merge (join us) := by
  rw [join, List.foldl_append, foldl_merge_eq]
  rfl

@[simp] theorem join_cons (t : Ty) (ts : List Ty) : join (t :: ts) = t.merge (join ts) := by
  rw [join, List.foldl_cons, unknown_merge, foldl_merge_eq]

/-- The join does not depend on the order of the uses. -/
theorem join_perm {ts us : List Ty} (h : ts.Perm us) : join ts = join us :=
  h.foldl_eq' (fun a _ b _ c => merge_right_comm c a b) unknown

/-- A use as a number keeps the join at `number` or `error`. -/
theorem join_cases_of_number_mem {ts : List Ty} (h : number ∈ ts) :
    join ts = number ∨ join ts = error := by
  obtain ⟨pre, post, rfl⟩ := List.append_of_mem h
  rw [join_append, join_cons, ← merge_assoc]
  rcases merge_number_cases (join pre) with hn | hn <;> rw [hn]
  · rw [merge_comm]
    exact merge_number_cases (join post)
  · simp

end Ty

end Lingo
