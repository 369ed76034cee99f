import Lingo.Keyed

/-!
# Keyed lists

What `keyed` keeps of a list of entries: every value it keeps was stored (`keyed_forall`), each
key comes once (`keyed_nodup`), and a list whose keys come once already is kept as it is
(`keyed_of_nodup`). In such a list the first entry under a key is the only one
(`find?_of_nodup`). These are the facts a table of translations and the dictionary its module
builds rely on.
-/

namespace Lingo


variable {α : Type}

/-- Storing under a key already present keeps the keys; a new key goes last. -/
theorem upsert_keys (entries : List (String × α)) (k : String) (v : α) :
    (upsert entries k v).map (·.1) =
      if k ∈ entries.map (·.1) then entries.map (·.1) else entries.map (·.1) ++ [k] := by
  unfold upsert
  by_cases hk : k ∈ entries.map (·.1)
  · have hany : entries.any (·.1 == k) = true := by
      obtain ⟨e, he, rfl⟩ := List.mem_map.1 hk
      exact List.any_eq_true.2 ⟨e, he, by simp⟩
    rw [if_pos hany, if_pos hk, List.map_map]
    congr 1
    funext e
    by_cases he : e.1 = k <;> simp [he]
  · have hany : entries.any (·.1 == k) = false := by
      simpa [List.any_eq_false] using fun e he hek => hk (List.mem_map.2 ⟨e, he, hek⟩)
    rw [if_neg (by simp [hany]), if_neg hk, List.map_append]
    rfl

/-- Storing a value keeps a property every value has. -/
theorem upsert_forall {P : α → Prop} {entries : List (String × α)} (h : ∀ e ∈ entries, P e.2)
    (k : String) {v : α} (hv : P v) : ∀ e ∈ upsert entries k v, P e.2 := by
  unfold upsert
  split
  · intro e he
    obtain ⟨e', he', rfl⟩ := List.mem_map.1 he
    split
    · exact hv
    · exact h e' he'
  · intro e he
    rcases List.mem_append.1 he with he | he
    · exact h e he
    · rw [List.mem_singleton.1 he]
      exact hv

theorem keyed_foldl_forall {P : α → Prop} (es acc : List (String × α)) (hacc : ∀ e ∈ acc, P e.2)
    (hes : ∀ e ∈ es, P e.2) :
    ∀ e ∈ es.foldl (fun acc (k, v) => upsert acc k v) acc, P e.2 := by
  induction es generalizing acc with
  | nil => exact hacc
  | cons e es ih =>
    exact ih _ (upsert_forall hacc e.1 (hes e List.mem_cons_self))
      fun e' he' => hes e' (List.mem_cons_of_mem _ he')

/-- Keyed entries keep a property of every value. -/
theorem keyed_forall {P : α → Prop} {es : List (String × α)} (h : ∀ e ∈ es, P e.2) :
    ∀ e ∈ keyed es, P e.2 :=
  keyed_foldl_forall es [] nofun h

/-- A new key goes last. -/
theorem upsert_of_not_mem {entries : List (String × α)} {k : String} (hk : k ∉ entries.map (·.1))
    (v : α) : upsert entries k v = entries ++ [(k, v)] := by
  have hany : entries.any (·.1 == k) = false := by
    simpa [List.any_eq_false] using fun e he hek => hk (List.mem_map.2 ⟨e, he, hek⟩)
  simp only [upsert, hany, Bool.false_eq_true, if_false]

theorem keyed_foldl_nodup (es acc : List (String × α)) (hacc : (acc.map (·.1)).Nodup) :
    ((es.foldl (fun acc (k, v) => upsert acc k v) acc).map (·.1)).Nodup := by
  induction es generalizing acc with
  | nil => exact hacc
  | cons e es ih =>
    refine ih _ ?_
    rw [upsert_keys]
    split
    · exact hacc
    · next hk =>
      refine List.nodup_append.2 ⟨hacc, by simp, fun a ha b hb => ?_⟩
      rw [List.mem_singleton.1 hb]
      exact fun hak => hk (hak ▸ ha)

/-- Keyed entries have each key once. -/
theorem keyed_nodup (es : List (String × α)) : ((keyed es).map (·.1)).Nodup :=
  keyed_foldl_nodup es [] List.nodup_nil

theorem keyed_foldl_of_nodup (es acc : List (String × α)) (h : ((acc ++ es).map (·.1)).Nodup) :
    es.foldl (fun acc (k, v) => upsert acc k v) acc = acc ++ es := by
  induction es generalizing acc with
  | nil => simp
  | cons e es ih =>
    obtain ⟨k, v⟩ := e
    -- the key is new, so it goes last
    have hk : k ∉ acc.map (·.1) := by
      rw [List.map_append, List.map_cons] at h
      exact fun hmem => (List.nodup_append.1 h).2.2 _ hmem _ List.mem_cons_self rfl
    simp only [List.foldl_cons]
    rw [upsert_of_not_mem hk, ih _ (by simpa using h)]
    simp

/-- Entries with each key once are their own keyed entries. -/
theorem keyed_of_nodup {es : List (String × α)} (h : (es.map (·.1)).Nodup) : keyed es = es :=
  keyed_foldl_of_nodup es [] (by simpa using h)

/-- In entries with each key once, looking a key up finds its own entry. -/
theorem find?_of_nodup {es : List (String × α)} (h : (es.map (·.1)).Nodup) {e : String × α}
    (he : e ∈ es) : es.find? (·.1 == e.1) = some e := by
  induction es with
  | nil => cases he
  | cons x xs ih =>
    rw [List.map_cons, List.nodup_cons] at h
    rcases List.mem_cons.1 he with rfl | he
    · simp
    · -- the head has another key, since the key of `e` comes later
      have hne : x.1 ≠ e.1 := fun hx => h.1 (hx ▸ List.mem_map_of_mem he)
      rw [List.find?_cons_of_neg (by simpa using hne)]
      exact ih h.2 he

end Lingo
