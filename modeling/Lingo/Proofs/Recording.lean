import Lingo.TypeMap
import Lingo.Proofs.Join

/-!
# What recording a use does to a type map

A type map is read here through three views: the types the uses of each variable asked for, in
the order they were recorded (`TypeMap.usageTypes`), whether the map has an entry for a variable,
and the declared signatures of functions (`TypeMap.signature`). Recording a use of a variable
named by a string appends the use's type to that variable's list and leaves every other variable
as it was; declaring a function without types leaves every signature as it was.

A map is consistent when each variable's type is the join of the types its uses asked for. Every
map that starts empty and only records uses stays consistent, so the type of a variable is a
function of the multiset of its uses.

`TypeMap.Records m us m'` packs these views into one relation between the map before a walk, the
uses the walk recorded and the map after it; relations of successive walks compose.
-/

namespace Lingo

namespace Datum

/-- Only the string `s` equals the string `s`. -/
theorem sameValue_str_right (d : Datum) (s : String) :
    sameValue d (.str s) = true ↔ d = .str s := by
  cases d with
  | scalar sc => cases sc <;> simp [sameValue, agree, Scalar.sameValue, Scalar.num?, str]
  | safe t => simp [sameValue, agree, str]
  | list items => simp [sameValue, agree, str]
  | dict entries => simp [sameValue, agree, str]

theorem sameValue_str_left (d : Datum) (s : String) :
    sameValue (.str s) d = true ↔ d = .str s := by
  cases d with
  | scalar sc =>
    cases sc with
    | str t =>
      simp only [sameValue, agree, Scalar.sameValue, beq_iff_eq, str, scalar.injEq, Scalar.str.injEq]
      exact eq_comm
    | _ => simp [sameValue, agree, Scalar.sameValue, Scalar.num?, str]
  | safe t => simp [sameValue, agree, str]
  | list items => simp [sameValue, agree, str]
  | dict entries => simp [sameValue, agree, str]

theorem sameValue_str_comm (d : Datum) (s : String) :
    sameValue (.str s) d = sameValue d (.str s) := by
  rw [Bool.eq_iff_iff, sameValue_str_left, sameValue_str_right]

end Datum

/-- The types that the uses named `v` among `us` ask for, in order. -/
def usesOf (v : Datum) (us : List (Datum × Ty)) : List Ty :=
  (us.filter fun p => Datum.sameValue v p.1).map (·.2)

@[simp] theorem usesOf_nil (v : Datum) : usesOf v [] = [] := rfl

theorem usesOf_append (v : Datum) (us us' : List (Datum × Ty)) :
    usesOf v (us ++ us') = usesOf v us ++ usesOf v us' := by
  simp [usesOf]

theorem usesOf_str_single (v : Datum) (s : String) (t : Ty) :
    usesOf v [(.str s, t)] = if Datum.sameValue v (.str s) then [t] else [] := by
  by_cases h : Datum.sameValue v (.str s) <;> simp [usesOf, h]

/-- What a variable's entry holds after a use of type `t` is recorded in it. -/
def VarInfo.record (i : VarInfo) (t : Ty) (u : Usage) : VarInfo :=
  { ty := i.ty.merge t, usages := i.usages ++ [u] }

/-- A use that cannot fail to report a conflict: only a constraint outside any constraint list
has no text to point into. -/
def Usage.Attached (u : Usage) : Prop := ¬(u.kind = .constraint ∧ u.detached = true)

theorem Usage.mismatch_ok {u : Usage} (hu : u.Attached) (v : Datum) (e f : Ty) :
    ∃ r, u.mismatch v e f = .ok r := by
  simp only [Usage.mismatch, Usage.Attached] at hu ⊢
  simp only [hu, if_false]
  exact ⟨_, rfl⟩

namespace TypeMap

/-- The types the uses of a variable asked for, in the order they were recorded. -/
def usageTypes (m : TypeMap) (v : Datum) : List Ty :=
  ((m.info? v).map fun i => i.usages.map (·.ty)).getD []

/-- The type the map gives a variable, when it has an entry for it. -/
def typeOf? (m : TypeMap) (v : Datum) : Option Ty := (m.info? v).map (·.ty)

/-- Each variable's type is the join of the types its uses asked for. -/
def Consistent (m : TypeMap) : Prop :=
  ∀ e ∈ m.vars, e.2.ty = Ty.join (e.2.usages.map (·.ty))

/-- The parameter types a function is declared with, as a call reads them. -/
def signature (m : TypeMap) (f : Datum) : Option (List Ty) :=
  (m.functions.find? (Datum.sameValue ·.1 f)).bind (·.2)

theorem consistent_empty : ({} : TypeMap).Consistent := by
  simp [Consistent]

/-- A consistent map gives each variable the join of its uses. -/
theorem Consistent.typeOf? {m : TypeMap} (hc : m.Consistent) (v : Datum) :
    m.typeOf? v = (m.info? v).map fun _ => Ty.join (m.usageTypes v) := by
  unfold TypeMap.typeOf? usageTypes info?
  cases h : m.vars.find? (Datum.sameValue ·.1 v) with
  | none => rfl
  | some e => simp [hc e (List.mem_of_find?_eq_some h)]

theorem paramTypes?_str (m : TypeMap) (s : String) :
    m.paramTypes? (.str s) = .ok (m.signature (.str s)) := rfl

/-- Replacing the entry that a string key first matches changes what that key finds and
nothing else. -/
private theorem find?_replaceFirst {l : List (Datum × VarInfo)} {s : String} {i : Nat}
    (hi : l.findIdx? (Datum.sameValue ·.1 (.str s)) = some i) (x : VarInfo) (w : Datum) :
    ((l.mapIdx fun j e => if j = i then (e.1, x) else e).find? (Datum.sameValue ·.1 w)).map
        (·.2) =
      if Datum.sameValue w (.str s) then some x
      else (l.find? (Datum.sameValue ·.1 w)).map (·.2) := by
  induction l generalizing i with
  | nil => simp at hi
  | cons e rest ih =>
    obtain ⟨name, old⟩ := e
    rw [List.findIdx?_cons] at hi
    by_cases he : Datum.sameValue name (.str s) = true
    · -- the first entry is the one replaced
      simp only [he, if_true, Option.some.injEq] at hi
      subst hi
      rw [(Datum.sameValue_str_right _ _).1 he]
      have hrest : (rest.mapIdx fun j e => if j + 1 = 0 then (e.1, x) else e) = rest :=
        List.mapIdx_eq_iff.2 fun j => by simp
      simp only [List.mapIdx_cons, if_true, hrest, List.find?_cons, Datum.sameValue_str_comm]
      by_cases hw : Datum.sameValue w (.str s) = true <;> simp [hw]
    · simp only [he, Bool.false_eq_true, if_false, Option.map_eq_some_iff] at hi
      obtain ⟨k, hk, rfl⟩ := hi
      have hshift : (fun j (e : Datum × VarInfo) => if j + 1 = k + 1 then (e.1, x) else e) =
          fun j e => if j = k then (e.1, x) else e := by
        funext j e
        simp
      have hhead : (0 = k + 1) = False := by simp
      simp only [List.mapIdx_cons, hhead, if_false, hshift, List.find?_cons]
      by_cases hnw : Datum.sameValue name w = true
      · have hw : Datum.sameValue w (.str s) = false := by
          cases hw : Datum.sameValue w (.str s) with
          | false => rfl
          | true =>
            rw [Datum.sameValue_str_right] at hw
            subst hw
            exact absurd hnw he
        simp [hnw, hw]
      · simp only [hnw]
        exact ih hk

/-- Appending an entry for a string key that the map lacks makes that key find it. -/
private theorem find?_appendFresh {l : List (Datum × VarInfo)} {s : String}
    (hnone : l.findIdx? (Datum.sameValue ·.1 (.str s)) = none) (x : VarInfo) (w : Datum) :
    ((l ++ [(Datum.str s, x)]).find? (Datum.sameValue ·.1 w)).map (·.2) =
      if Datum.sameValue w (.str s) then some x
      else (l.find? (Datum.sameValue ·.1 w)).map (·.2) := by
  rw [List.findIdx?_eq_none_iff] at hnone
  by_cases hw : Datum.sameValue w (.str s) = true
  · have hfind : l.find? (Datum.sameValue ·.1 w) = none := by
      rw [List.find?_eq_none]
      intro e he hew
      rw [(Datum.sameValue_str_right _ _).1 hw] at hew
      simp [hnone e he] at hew
    simp [hfind, hw, Datum.sameValue_str_comm]
  · simp [hw, Datum.sameValue_str_comm]

@[simp] theorem step_run_get :
    ExceptT.run (get : Step TypeMap) = (Except.ok <$> (get : StateM TypeMap TypeMap)) := rfl

@[simp] theorem step_run_set (m : TypeMap) :
    ExceptT.run (set m : Step PUnit) = (Except.ok <$> (set m : StateM TypeMap PUnit)) := rfl

@[simp] theorem step_run_modify (f : TypeMap → TypeMap) :
    ExceptT.run (modify f : Step PUnit) = (Except.ok <$> (modify f : StateM TypeMap PUnit)) := rfl

/-- Recording a use runs the map's bookkeeping on the entry `getInfo` found or made. -/
theorem addUsage_run {m m₁ : TypeMap} {v : Datum} {i : Nat} {info : VarInfo} {t : Ty} {u : Usage}
    (hf : m.frozen = false) (hg : m.getInfo v = .ok (m₁, i, info)) (hu : u.Attached) :
    ∃ errors, ((addUsage v t u).run).run m =
      (.ok (info.ty.merge t), { m₁.setInfoAt i (info.record t u) with errors }) := by
  simp [addUsage, hf, ExceptT.run_bind, hg, addUsage.liftExcept]
  split
  · obtain ⟨r, hr⟩ := Usage.mismatch_ok hu v t info.ty
    simp [hr]
    exact ⟨_, rfl⟩
  · exact ⟨_, rfl⟩

/-- The entry of a variable, or an empty one when the map has none. -/
def entryOf (m : TypeMap) (v : Datum) : VarInfo := (m.info? v).getD {}

theorem getInfo_str_of_some {m : TypeMap} {s : String} {i : Nat}
    (h : m.indexOf? (.str s) = some i) :
    m.getInfo (.str s) = .ok (m, i, m.entryOf (.str s)) := by
  have hfind : m.info? (.str s) = (m.vars[i]?).map (·.2) := by
    unfold info?
    rw [List.find?_eq_bind_findIdx?_getElem?]
    unfold indexOf? at h
    rw [h]
    rfl
  simp only [getInfo, h, entryOf, hfind]
  rfl

theorem getInfo_str_of_none {m : TypeMap} {s : String} (hf : m.frozen = false)
    (h : m.indexOf? (.str s) = none) :
    m.getInfo (.str s) =
      .ok ({ m with vars := m.vars ++ [(.str s, {})] }, m.vars.length, m.entryOf (.str s)) := by
  have hfind : m.info? (.str s) = none := by
    unfold info?
    rw [List.find?_eq_bind_findIdx?_getElem?]
    unfold indexOf? at h
    rw [h]
    rfl
  simp only [getInfo, h, hf, entryOf, hfind]
  rfl

/-- Replacing the last entry of a list keeps the ones before it. -/
private theorem mapIdx_append_last {l : List (Datum × VarInfo)} (e : Datum × VarInfo)
    (x : VarInfo) :
    (l ++ [e]).mapIdx (fun j e => if j = l.length then (e.1, x) else e) = l ++ [(e.1, x)] := by
  rw [List.mapIdx_append]
  have hpre : (l.mapIdx fun j e => if j = l.length then (e.1, x) else e) = l :=
    List.mapIdx_eq_iff.2 fun j => by
      cases hj : l[j]? with
      | none => simp
      | some a =>
        have hlt : j < l.length := (List.getElem?_eq_some_iff.1 hj).1
        simp [Nat.ne_of_lt hlt]
  simp [hpre]

/-- Recording a use of the variable named `s` gives it the merged type and the use, and leaves
every other variable, the functions and the frozen flag as they were. -/
theorem addUsage_str {m : TypeMap} {s : String} {t : Ty} {u : Usage} (hf : m.frozen = false)
    (hu : u.Attached) :
    ∃ m', ((addUsage (.str s) t u).run).run m =
        (.ok ((m.entryOf (.str s)).ty.merge t), m') ∧
      m'.frozen = false ∧ m'.functions = m.functions ∧
      (∀ w, m'.info? w =
        if Datum.sameValue w (.str s) then some ((m.entryOf (.str s)).record t u) else m.info? w) ∧
      (∀ e ∈ m'.vars, e ∈ m.vars ∨ e.2 = (m.entryOf (.str s)).record t u) ∧
      (∀ e ∈ m'.vars, e.1 ∈ m.varNames ∨ e.1 = .str s) := by
  cases hidx : m.indexOf? (.str s) with
  | some i =>
    obtain ⟨errors, hrun⟩ := addUsage_run (t := t) hf (getInfo_str_of_some hidx) hu
    refine ⟨_, hrun, hf, rfl, fun w => ?_, fun e he => ?_, fun e he => ?_⟩
    · exact find?_replaceFirst hidx _ w
    · obtain ⟨j, hj, rfl⟩ := List.mem_mapIdx.1 he
      by_cases hji : j = i
      · exact .inr (by simp [hji])
      · exact .inl (by simp [hji])
    · -- the replaced entry keeps the name it was made with
      obtain ⟨j, hj, rfl⟩ := List.mem_mapIdx.1 he
      have hname : m.vars[j].1 ∈ m.varNames := List.mem_map.2 ⟨_, List.getElem_mem hj, rfl⟩
      by_cases hji : j = i
      · exact .inl (by simpa [hji] using hname)
      · exact .inl (by simpa [hji] using hname)
  | none =>
    obtain ⟨errors, hrun⟩ := addUsage_run (t := t) hf (getInfo_str_of_none hf hidx) hu
    have hvars : (({ m with vars := m.vars ++ [(.str s, {})] } : TypeMap).setInfoAt m.vars.length
        ((m.entryOf (.str s)).record t u)).vars =
        m.vars ++ [(.str s, (m.entryOf (.str s)).record t u)] :=
      mapIdx_append_last _ _
    refine ⟨_, hrun, hf, rfl, fun w => ?_, fun e he => ?_, fun e he => ?_⟩
    · simp only [info?, hvars]
      exact find?_appendFresh hidx _ w
    · simp only [hvars, List.mem_append, List.mem_singleton] at he
      rcases he with he | rfl
      · exact .inl he
      · exact .inr rfl
    · simp only [hvars, List.mem_append, List.mem_singleton] at he
      rcases he with he | rfl
      · exact .inl (List.mem_map.2 ⟨e, he, rfl⟩)
      · exact .inr rfl

/-- The entry a consistent map holds for a variable is consistent too, also when it is the empty
entry of a variable the map lacks. -/
theorem Consistent.entryOf {m : TypeMap} (hc : m.Consistent) (v : Datum) :
    (m.entryOf v).ty = Ty.join ((m.entryOf v).usages.map (·.ty)) := by
  unfold TypeMap.entryOf info?
  cases h : m.vars.find? (Datum.sameValue ·.1 v) with
  | none => rfl
  | some e => exact hc e (List.mem_of_find?_eq_some h)

theorem record_consistent {i : VarInfo} (hi : i.ty = Ty.join (i.usages.map (·.ty))) {t : Ty}
    {u : Usage} (ht : u.ty = t) : (i.record t u).ty = Ty.join ((i.record t u).usages.map (·.ty)) := by
  simp [VarInfo.record, hi, Ty.join_append, ht]

theorem usageTypes_of_info? {m' : TypeMap} {w : Datum} {i : VarInfo}
    (h : m'.info? w = some i) : m'.usageTypes w = i.usages.map (·.ty) := by
  simp [usageTypes, h]

/-- Every variable of the map is named by a datum that can serve as a key: the map's own steps
refuse a list or a dictionary as a name. -/
def Keyed (m : TypeMap) : Prop := ∀ e ∈ m.vars, e.1.unhashable? = none

theorem keyed_empty : ({} : TypeMap).Keyed := by
  simp [Keyed]

/-- What a walk that recorded the uses `us` did to the map `m`, leaving `m'`: each use was
appended to its variable's list, an entry was made for each new variable, and the frozen flag,
the function signatures, consistency and keyed names were kept. -/
structure Records (m : TypeMap) (us : List (Datum × Ty)) (m' : TypeMap) : Prop where
  frozen : m'.frozen = m.frozen
  signature : m'.signature = m.signature
  usageTypes : ∀ w, m'.usageTypes w = m.usageTypes w ++ usesOf w us
  present : ∀ w,
    (m'.info? w).isSome = ((m.info? w).isSome || us.any fun p => Datum.sameValue w p.1)
  consistent : m.Consistent → m'.Consistent
  keyed : m.Keyed → m'.Keyed

theorem Records.refl (m : TypeMap) : Records m [] m :=
  ⟨rfl, rfl, fun _ => by simp, fun _ => by simp, id, id⟩

theorem Records.trans {m m' m'' : TypeMap} {us us' : List (Datum × Ty)}
    (h : Records m us m') (h' : Records m' us' m'') : Records m (us ++ us') m'' where
  frozen := h'.frozen.trans h.frozen
  signature := h'.signature.trans h.signature
  usageTypes w := by rw [h'.usageTypes, h.usageTypes, usesOf_append, List.append_assoc]
  present w := by rw [h'.present, h.present, List.any_append, Bool.or_assoc]
  consistent hc := h'.consistent (h.consistent hc)
  keyed hk := h'.keyed (h.keyed hk)

/-- The type a variable has once the uses `us` are recorded in `m`: none when it neither had an
entry nor is used, and otherwise the join of its earlier uses and its uses in `us`. -/
def typeAfter (m : TypeMap) (us : List (Datum × Ty)) (v : Datum) : Option Ty :=
  if (m.info? v).isSome || us.any (fun p => Datum.sameValue v p.1) then
    some (Ty.join (m.usageTypes v ++ usesOf v us))
  else none

/-- The type after a list of uses does not depend on their order. -/
theorem typeAfter_perm (m : TypeMap) {us us' : List (Datum × Ty)} (h : us.Perm us') (v : Datum) :
    m.typeAfter us v = m.typeAfter us' v := by
  have hjoin : Ty.join (m.usageTypes v ++ usesOf v us) = Ty.join (m.usageTypes v ++ usesOf v us') :=
    Ty.join_perm (.append_left _ ((h.filter _).map _))
  simp only [typeAfter, h.any_eq, hjoin]

/-- After a walk from a consistent map, each variable has the type `typeAfter` gives. -/
theorem Records.typeOf? {m m' : TypeMap} {us : List (Datum × Ty)} (h : Records m us m')
    (hc : m.Consistent) (v : Datum) : m'.typeOf? v = m.typeAfter us v := by
  rw [(h.consistent hc).typeOf?, typeAfter, h.usageTypes, ← h.present]
  cases m'.info? v <;> rfl

/-- Recording a use of a variable named by a string never fails on a map that is not frozen, and
records exactly that use. -/
theorem records_addUsage {m : TypeMap} {s : String} {t : Ty} {u : Usage} (hf : m.frozen = false)
    (hu : u.Attached) (ht : u.ty = t) :
    ∃ r m', ((addUsage (.str s) t u).run).run m = (.ok r, m') ∧ Records m [(.str s, t)] m' := by
  obtain ⟨m', hrun, hf', hfun, hinfo, hmem, hnames⟩ := addUsage_str (t := t) hf hu
  refine ⟨_, m', hrun, ⟨hf'.trans hf.symm, by funext g; simp [signature, hfun], ?_, ?_, ?_, ?_⟩⟩
  · intro w
    rw [usesOf_str_single]
    by_cases hw : Datum.sameValue w (.str s) = true
    · obtain rfl := (Datum.sameValue_str_right _ _).1 hw
      have hnew := hinfo (.str s)
      rw [if_pos hw] at hnew
      rw [usageTypes_of_info? hnew, if_pos hw]
      cases hm : m.info? (.str s) <;> simp [usageTypes, entryOf, VarInfo.record, hm, ht]
    · have hold := hinfo w
      simp only [hw, Bool.false_eq_true, if_false] at hold
      simp [usageTypes, hold, hw]
  · intro w
    by_cases hw : Datum.sameValue w (.str s) = true <;> simp [hinfo w, hw]
  · intro hc e he
    rcases hmem e he with he | he
    · exact hc e he
    · rw [he]
      exact record_consistent (hc.entryOf _) ht
  · -- a new entry is named by the string itself
    intro hk e he
    rcases hnames e he with hold | hnew
    · obtain ⟨e', he', hname⟩ := List.mem_map.1 hold
      rw [← hname]
      exact hk e' he'
    · rw [hnew]
      rfl

/-- Declaring a function without types never fails on a map that is not frozen and changes no
signature and no variable. -/
theorem records_addFunction {m : TypeMap} {s : String} (hf : m.frozen = false) :
    ∃ m', m.addFunction (.str s) = .ok m' ∧ Records m [] m' := by
  by_cases hfn : m.hasFunction (.str s) = true
  · refine ⟨m, ?_, Records.refl m⟩
    simp only [addFunction, hf, hfn]
    rfl
  · refine ⟨{ m with functions := m.functions ++ [(.str s, none)] }, ?_, ?_⟩
    · simp only [addFunction, hf, hfn]
      rfl
    · refine ⟨rfl, ?_, fun w => by simp [usageTypes, info?], fun w => by simp [info?], id, id⟩
      funext g
      simp only [signature, List.find?_append]
      cases hg : m.functions.find? (Datum.sameValue ·.1 g) with
      | some e => rfl
      | none =>
        simp only [Option.none_or, List.find?_cons, List.find?_nil]
        cases Datum.sameValue (.str s) g <;> rfl

end TypeMap

end Lingo
