import Lingo.Analysis
import Lingo.Proofs.Keys
import Lingo.Proofs.Recording

/-!
# The conflict log of a type map

A type map keeps one type conflict for each variable whose type is `error`, recorded by the use
that moved the variable there. `TypeMap.LogsErrorsAt m ps` says this of a map: the conflicts
belong, in order, to the variables at the distinct positions `ps`, which are exactly the
positions of the variables in error.

The calls a caller makes on a map (`MapOp`) are run one after another by `TypeMap.call`, each
leaving the map as the call left it, a failing call included. A call whose use can always
report its conflict is a step of the log (`TypeMap.logStep_call`): if it fails, the map is as it
was; if not, either no conflict is recorded, or one variable moved into `error` and its conflict
is recorded last, against the type the call asked for and the type the variable had. So every
run of such calls from a logged map keeps the log at every call
(`TypeMap.calls_keep_conflict_log`).

A constraint used outside any constraint list has no text for its conflict to point into, and
building the conflict fails after the variable took the type `error`: such a run leaves a
variable in error with no conflict, changed by a call that failed
(`TypeMap.detached_constraint_breaks_conflict_log`).
-/

namespace Lingo

namespace Datum

/-- A value equal to a key agrees with it as a key. -/
theorem agree_of_sameValue {a b : Datum} (hb : b.unhashable? = Option.none)
    (h : sameValue a b = true) : agree true a b = true := by
  cases b with
  | scalar z =>
    cases a with
    | scalar y =>
      -- only two doubles compare differently once NaN agrees with NaN
      cases y <;> cases z <;> first
        | exact h
        | simp only [sameValue, agree, Bool.false_and, Bool.false_or] at h; simp [agree, h]
    | safe _ | list _ | dict _ => exact absurd h Bool.false_ne_true
  | safe t =>
    cases a with
    | safe u => exact h
    | scalar y => cases y <;> exact absurd h Bool.false_ne_true
    | list _ | dict _ => exact absurd h Bool.false_ne_true
  | list _ => simp [unhashable?] at hb
  | dict _ => simp [unhashable?] at hb

end Datum

namespace TypeMap

/-- The type of the variable at position `i`, if there is one. -/
def tyAt? (m : TypeMap) (i : Nat) : Option Ty := m.vars[i]?.map (·.2.ty)

/-- The name the variable at position `i` was entered with, if there is one. -/
def keyAt? (m : TypeMap) (i : Nat) : Option Datum := m.vars[i]?.map (·.1)

@[simp] theorem setInfoAt_errors (m : TypeMap) (i : Nat) (x : VarInfo) :
    (m.setInfoAt i x).errors = m.errors := rfl

@[simp] theorem keyAt?_withErrors (m : TypeMap) (es : List TypeMismatch) :
    ({ m with errors := es } : TypeMap).keyAt? = m.keyAt? := rfl

@[simp] theorem tyAt?_withErrors (m : TypeMap) (es : List TypeMismatch) :
    ({ m with errors := es } : TypeMap).tyAt? = m.tyAt? := rfl

theorem tyAt?_setInfoAt (m : TypeMap) (i j : Nat) (x : VarInfo) :
    (m.setInfoAt i x).tyAt? j = if j = i then (m.vars[j]?).map (fun _ => x.ty) else m.tyAt? j := by
  simp only [tyAt?, setInfoAt, List.getElem?_mapIdx]
  split <;> simp [Option.map_map, Function.comp_def, *]

@[simp] theorem keyAt?_setInfoAt (m : TypeMap) (i j : Nat) (x : VarInfo) :
    (m.setInfoAt i x).keyAt? j = m.keyAt? j := by
  simp only [keyAt?, setInfoAt, List.getElem?_mapIdx, Option.map_map]
  congr 1
  funext e
  split <;> rfl

theorem tyAt?_push (m : TypeMap) (e : Datum × VarInfo) (j : Nat) :
    { m with vars := m.vars ++ [e] }.tyAt? j =
      if j < m.vars.length then m.tyAt? j else if j = m.vars.length then some e.2.ty else none := by
  simp only [tyAt?, List.getElem?_append]
  split
  · rfl
  · rename_i hj
    have hnil : m.vars[j]? = none := List.getElem?_eq_none (by omega)
    by_cases hlen : j = m.vars.length
    · simp [hlen]
    · simp [hlen, List.getElem?_singleton]
      omega

theorem keyAt?_push {m : TypeMap} {j : Nat} {k : Datum} (hj : m.keyAt? j = some k)
    (e : Datum × VarInfo) : { m with vars := m.vars ++ [e] }.keyAt? j = some k := by
  have hlt : j < m.vars.length := by
    simp only [keyAt?, Option.map_eq_some_iff, List.getElem?_eq_some_iff] at hj
    obtain ⟨_, ⟨hlt, _⟩, _⟩ := hj
    exact hlt
  simpa [keyAt?, List.getElem?_append_left hlt] using hj

/-- The conflicts of `m` belong, in order, to the variables at the positions `ps`: one position
for each variable whose type is `error`, and each conflict names the variable at its position. -/
structure LogsErrorsAt (m : TypeMap) (ps : List Nat) : Prop where
  nodup : ps.Nodup
  mem_iff : ∀ i, i ∈ ps ↔ m.tyAt? i = some .error
  names : List.Forall₂ (fun c i => ∃ k, m.keyAt? i = some k ∧ Datum.agree true k c.var = true)
    m.errors ps

theorem logsErrorsAt_empty : ({} : TypeMap).LogsErrorsAt [] where
  nodup := List.nodup_nil
  mem_iff i := by simp [tyAt?]
  names := List.Forall₂.nil

namespace LogsErrorsAt

variable {m : TypeMap} {ps : List Nat}

/-- The log reads only the variables and the conflicts. -/
theorem congr (h : m.LogsErrorsAt ps) {m' : TypeMap} (hv : m'.vars = m.vars)
    (he : m'.errors = m.errors) : m'.LogsErrorsAt ps where
  nodup := h.nodup
  mem_iff i := by simpa [tyAt?, hv] using h.mem_iff i
  names := by simpa [keyAt?, hv, he] using h.names

/-- A new variable of a type other than `error` leaves the log as it was. -/
theorem push (h : m.LogsErrorsAt ps) (e : Datum × VarInfo) (he : e.2.ty ≠ .error) :
    { m with vars := m.vars ++ [e] }.LogsErrorsAt ps where
  nodup := h.nodup
  mem_iff i := by
    rw [h.mem_iff, tyAt?_push]
    split
    · rfl
    · have hnone : m.tyAt? i = none := by simp [tyAt?]; omega
      split <;> simp_all
  names := h.names.imp fun _ _ ⟨k, hk, hagree⟩ => ⟨k, keyAt?_push hk e, hagree⟩

/-- Changing the information at a position without moving its variable into or out of `error`
leaves the log as it was. -/
theorem setInfoAt (h : m.LogsErrorsAt ps) {i : Nat} {e : Datum × VarInfo} (hi : m.vars[i]? = some e)
    (x : VarInfo) (hx : x.ty = .error ↔ e.2.ty = .error) : (m.setInfoAt i x).LogsErrorsAt ps where
  nodup := h.nodup
  mem_iff j := by
    rw [h.mem_iff, tyAt?_setInfoAt]
    split
    · subst_vars
      simp [tyAt?, hi, hx]
    · rfl
  names := by simpa using h.names

/-- Moving the variable at position `i` into `error` and recording last a conflict that names it
logs that position last. -/
theorem setInfoAt_error (h : m.LogsErrorsAt ps) {i : Nat} {e : Datum × VarInfo}
    (hi : m.vars[i]? = some e) (he : e.2.ty ≠ .error) (x : VarInfo) (hx : x.ty = .error)
    (c : TypeMismatch) (hc : Datum.agree true e.1 c.var = true) :
    { m.setInfoAt i x with errors := m.errors ++ [c] }.LogsErrorsAt (ps ++ [i]) where
  nodup := by
    have hnot : i ∉ ps := by simp [h.mem_iff, tyAt?, hi, he]
    simp only [List.nodup_append, List.nodup_cons, List.not_mem_nil, not_false_eq_true,
      List.nodup_nil, and_self, List.mem_singleton, true_and, h.nodup]
    rintro j hj _ rfl rfl
    exact hnot hj
  mem_iff j := by
    rw [List.mem_append, List.mem_singleton, h.mem_iff]
    simp only [tyAt?_withErrors, tyAt?_setInfoAt]
    split
    · subst_vars
      simp [hi, hx]
    · simp_all
  names := by
    refine List.rel_append ?_ (List.Forall₂.cons ⟨e.1, ?_, hc⟩ List.Forall₂.nil)
    · simpa using h.names
    · simp only [keyAt?_withErrors, keyAt?_setInfoAt]
      simp [keyAt?, hi]

end LogsErrorsAt

/-- What asking for a variable's entry found or made. The conflicts stay as they were, and the
position given holds the information given, under a name the variable agrees with: either the
variable's own entry, or a new last one of unknown type. -/
theorem getInfo_ok {m m₁ : TypeMap} {v : Datum} {i : Nat} {info : VarInfo}
    (h : m.getInfo v = .ok (m₁, i, info)) :
    ∃ k, m₁.vars[i]? = some (k, info) ∧ Datum.agree true k v = true ∧
      (m.tyAt? i).getD .unknown = info.ty ∧ m₁.errors = m.errors ∧
      (m₁ = m ∨ m₁ = { m with vars := m.vars ++ [(v, {})] }) := by
  cases hv : v.unhashable? with
  | some kind => simp [getInfo, Datum.hashable, hv] at h; cases h
  | none =>
    cases hidx : m.indexOf? v with
    | some j =>
      -- the variable's own entry, found by comparing values
      simp only [getInfo, Datum.hashable, hv, hidx, pure, Except.pure] at h
      obtain ⟨rfl, rfl, rfl⟩ := h
      obtain ⟨hlt, hsame, -⟩ := List.findIdx?_eq_some_iff_getElem.1 hidx
      have hget : m.vars[i]? = some m.vars[i] := List.getElem?_eq_getElem hlt
      refine ⟨m.vars[i].1, ?_, Datum.agree_of_sameValue hv hsame, ?_, rfl, .inl rfl⟩
      · simp [hget]
      · simp [tyAt?, hget]
    | none =>
      -- a new last entry, refused once the map is frozen
      cases hf : m.frozen with
      | true => simp [getInfo, Datum.hashable, hv, hidx, hf] at h
      | false =>
        simp only [getInfo, Datum.hashable, hv, hidx, hf, pure, Except.pure, Bool.false_eq_true,
          if_false] at h
        obtain ⟨rfl, rfl, rfl⟩ := h
        refine ⟨v, by simp, Datum.agree_self hv, by simp [tyAt?], rfl, .inr rfl⟩

/-- Asking for a variable's entry keeps the log. -/
theorem getInfo_logs {m m₁ : TypeMap} {ps : List Nat} (h : m.LogsErrorsAt ps) {v : Datum}
    {i : Nat} {info : VarInfo} (hg : m.getInfo v = .ok (m₁, i, info)) : m₁.LogsErrorsAt ps := by
  obtain ⟨-, -, -, -, -, hm₁⟩ := getInfo_ok hg
  rcases hm₁ with rfl | rfl
  · exact h
  · exact h.push _ (show Ty.unknown ≠ .error by decide)

/-- A frozen map refuses a use before touching anything. -/
theorem addUsage_frozen {m : TypeMap} (hf : m.frozen = true) (v : Datum) (t : Ty) (u : Usage) :
    ((addUsage v t u).run).run m = (.error (.frozenUsage v), m) := by
  simp [addUsage, hf, ExceptT.run_bind]
  rfl

/-- A use of a variable the map cannot enter fails before touching anything. -/
theorem addUsage_getInfo_error {m : TypeMap} {v : Datum} {f : Failure} (hf : m.frozen = false)
    (hg : m.getInfo v = .error f) (t : Ty) (u : Usage) :
    ((addUsage v t u).run).run m = (.error f, m) := by
  simp [addUsage, hf, ExceptT.run_bind, hg, addUsage.liftExcept]
  rfl

/-- The conflict a use records when it moves its variable from `found` into `error`. -/
def conflictOf (v : Datum) (t found : Ty) (u : Usage) : List TypeMismatch :=
  if found.merge t = .error ∧ found ≠ .error then
    [TypeMismatch.ofParts [t] found v u.node u.source u.source false]
  else []

/-- A use that can report its conflict records the merged type and the use, and appends the
conflict exactly when it moves the variable into `error`. -/
theorem addUsage_getInfo_ok {m m₁ : TypeMap} {v : Datum} {i : Nat} {info : VarInfo} {t : Ty}
    {u : Usage} (hf : m.frozen = false) (hg : m.getInfo v = .ok (m₁, i, info)) (hu : u.Attached) :
    ((addUsage v t u).run).run m = (.ok (info.ty.merge t),
      { m₁.setInfoAt i (info.record t u) with errors := m₁.errors ++ conflictOf v t info.ty u }) := by
  simp only [Usage.Attached] at hu
  simp [addUsage, hf, ExceptT.run_bind, hg, addUsage.liftExcept, conflictOf]
  split
  · simp only [Usage.mismatch, hu, if_false]
    rfl
  · rw [List.append_nil]
    rfl

end TypeMap

/-- A call on a type map, as a caller makes it. -/
inductive MapOp where
  /-- Records a use of a variable asking for a type. -/
  | addUsage (v : Datum) (t : Ty) (u : Usage)
  /-- Records the caller's declaration that a variable has the type of the given name. -/
  | declareType (v name : Datum)
  /-- Declares a function without parameter types. -/
  | addFunction (name : Datum)
  /-- Declares a function with parameter types given by name. -/
  | addTypedFunction (name : Datum) (types : List Datum)
  /-- Asks for a variable's entry; an unseen variable gets an empty one. -/
  | getInfo (v : Datum)
  /-- Freezes the map. -/
  | freeze

namespace MapOp

/-- Whether the call's use can always report its conflict: all but a constraint used outside
any constraint list can. -/
def Attached : MapOp → Prop
  | addUsage _ _ u => u.Attached
  | _ => True

/-- The type the call asks a variable to have, if it asks for one. -/
def asked : MapOp → Option Ty
  | addUsage _ t _ => some t
  | declareType _ name => (Ty.ofDatum name).toOption
  | _ => none

end MapOp

namespace TypeMap

/-- The outcome of a call that is all or nothing: its map, or the map as it was with the
failure. -/
def orKeep (m : TypeMap) : Except Failure TypeMap → TypeMap × Option Failure
  | .ok m' => (m', none)
  | .error f => (m, some f)

/-- The map a call leaves and the failure it raised, if any. A use keeps what it did before it
failed; every other call is all or nothing. -/
def call (m : TypeMap) : MapOp → TypeMap × Option Failure
  | .addUsage v t u =>
      match ((addUsage v t u).run).run m with
      | (.ok _, m') => (m', none)
      | (.error f, m') => (m', some f)
  | .declareType v name => m.orKeep ((m.declareType v name).map (·.1))
  | .addFunction name => m.orKeep (m.addFunction name)
  | .addTypedFunction name types => m.orKeep (m.addTypedFunction name types)
  | .getInfo v => m.orKeep ((m.getInfo v).map (·.1))
  | .freeze => (m.freeze, none)

/-- What one call did to the conflict log, taking `m`, logged at `ps`, to `m'`, logged at `ps'`.
A call that failed left the map as it was. Any other call either recorded no conflict, or moved
one variable into `error` and recorded its conflict last, against the type the call asked for
and the type the variable had. -/
structure LogStep (m : TypeMap) (asked : Option Ty) (m' : TypeMap) (failed : Bool)
    (ps ps' : List Nat) : Prop where
  unchanged : failed = true → m' = m
  logs : m'.LogsErrorsAt ps'
  grows : (ps' = ps ∧ m'.errors = m.errors) ∨
    ∃ i t c, asked = some t ∧ m.tyAt? i ≠ some .error ∧ ps' = ps ++ [i] ∧
      m'.errors = m.errors ++ [c] ∧ c.expected = [t] ∧ c.found = (m.tyAt? i).getD .unknown

namespace LogStep

variable {m : TypeMap} {ps : List Nat} {asked : Option Ty}

/-- Leaving the map as it was is a step of the log, failing or not. -/
theorem stay (h : m.LogsErrorsAt ps) (failed : Bool) : LogStep m asked m failed ps ps :=
  ⟨fun _ => rfl, h, .inl ⟨rfl, rfl⟩⟩

/-- A successful call that keeps the conflicts and the log is a step of the log. -/
theorem keep {m' : TypeMap} (h : m'.LogsErrorsAt ps) (he : m'.errors = m.errors) :
    LogStep m asked m' false ps ps :=
  ⟨nofun, h, .inl ⟨rfl, he⟩⟩

end LogStep

/-- Recording a use in the entry `getInfo` gave is a step of the log. -/
theorem logStep_record {m m₁ : TypeMap} {ps : List Nat} (h : m.LogsErrorsAt ps) {v : Datum}
    {i : Nat} {info : VarInfo} (hg : m.getInfo v = .ok (m₁, i, info)) (t : Ty) (u : Usage) :
    ∃ ps', LogStep m (some t)
      { m₁.setInfoAt i (info.record t u) with errors := m₁.errors ++ conflictOf v t info.ty u }
      false ps ps' := by
  obtain ⟨k, hk, hagree, hprev, herr, -⟩ := getInfo_ok hg
  have h₁ : m₁.LogsErrorsAt ps := getInfo_logs h hg
  by_cases hc : info.ty.merge t = .error ∧ info.ty ≠ .error
  · -- the use moves the variable into error: its conflict goes last
    set c := TypeMismatch.ofParts [t] info.ty v u.node u.source u.source false
    have hconf : conflictOf v t info.ty u = [c] := if_pos hc
    have hnot : m.tyAt? i ≠ some .error := fun hi => hc.2 (by simpa [hi] using hprev.symm)
    refine ⟨ps ++ [i], nofun, ?_, .inr ⟨i, t, c, rfl, hnot, rfl, ?_, rfl, hprev.symm⟩⟩
    · rw [hconf]
      exact h₁.setInfoAt_error hk hc.2 _ hc.1 _ hagree
    · simp [hconf, herr]
  · -- the variable stays on its side of error, and nothing is recorded
    have hconf : conflictOf v t info.ty u = [] := if_neg hc
    have hside : info.ty.merge t = .error ↔ info.ty = .error := by
      constructor
      · intro hm
        by_contra hne
        exact hc ⟨hm, hne⟩
      · intro he
        simp [he]
    refine ⟨ps, LogStep.keep ?_ (by simp [hconf, herr])⟩
    exact (h₁.setInfoAt hk (info.record t u) hside).congr rfl (by simp [hconf])

/-- Declaring a function touches only the functions. -/
theorem addFunction_ok {m m' : TypeMap} {name : Datum} (h : m.addFunction name = .ok m') :
    m'.vars = m.vars ∧ m'.errors = m.errors := by
  -- every refusal happens before the map is touched
  cases hf : m.frozen with
  | true => simp only [addFunction, hf, if_true] at h; cases h
  | false =>
    cases hn : name.unhashable? with
    | some kind => simp only [addFunction, hf, Datum.hashable, hn] at h; cases h
    | none =>
      cases hh : m.hasFunction name with
      | true =>
        simp only [addFunction, hf, Datum.hashable, hn, hh] at h
        cases h
        exact ⟨rfl, rfl⟩
      | false =>
        simp only [addFunction, hf, Datum.hashable, hn, hh] at h
        cases h
        exact ⟨rfl, rfl⟩

/-- Declaring a function with parameter types touches only the functions. -/
theorem declareTyped_ok {m m' : TypeMap} {name : Datum} {types : Except Failure (List Ty)}
    (h : m.declareTyped name types = .ok m') : m'.vars = m.vars ∧ m'.errors = m.errors := by
  cases hf : m.frozen with
  | true => simp only [declareTyped, hf, if_true] at h; cases h
  | false =>
    cases hn : name.unhashable? with
    | some kind => simp only [declareTyped, hf, Datum.hashable, hn] at h; cases h
    | none =>
      cases hh : m.hasFunction name with
      | true => simp only [declareTyped, hf, Datum.hashable, hn, hh] at h; cases h
      | false =>
        cases types with
        | error f => simp only [declareTyped, hf, Datum.hashable, hn, hh] at h; cases h
        | ok ts =>
          simp only [declareTyped, hf, Datum.hashable, hn, hh] at h
          cases h
          exact ⟨rfl, rfl⟩

/-- Recording a use that can report its conflict is a step of the log, whether it fails or
not. -/
theorem logStep_addUsage {m : TypeMap} {ps : List Nat} (h : m.LogsErrorsAt ps) (v : Datum)
    (t : Ty) (u : Usage) (hu : u.Attached) :
    ∃ ps', LogStep m (some t) (((addUsage v t u).run).run m).2
      (!(((addUsage v t u).run).run m).1.isOk) ps ps' := by
  cases hf : m.frozen with
  | true =>
    rw [addUsage_frozen hf]
    exact ⟨ps, LogStep.stay h true⟩
  | false =>
    cases hg : m.getInfo v with
    | error f =>
      rw [addUsage_getInfo_error hf hg]
      exact ⟨ps, LogStep.stay h true⟩
    | ok r =>
      obtain ⟨m₁, i, info⟩ := r
      rw [addUsage_getInfo_ok hf hg hu]
      exact logStep_record h hg t u

/-- A call that is all or nothing and keeps the log when it succeeds is a step of the log. -/
theorem logStep_orKeep {m : TypeMap} {ps : List Nat} (h : m.LogsErrorsAt ps)
    {r : Except Failure TypeMap} {asked : Option Ty}
    (hr : ∀ m', r = .ok m' → m'.LogsErrorsAt ps ∧ m'.errors = m.errors) :
    LogStep m asked (m.orKeep r).1 (m.orKeep r).2.isSome ps ps := by
  cases r with
  | error f => exact LogStep.stay h true
  | ok m' =>
    obtain ⟨hl, he⟩ := hr m' rfl
    exact LogStep.keep hl he

/-- Every call whose use can report its conflict is a step of the log. -/
theorem logStep_call {m : TypeMap} {ps : List Nat} (h : m.LogsErrorsAt ps) {op : MapOp}
    (hop : op.Attached) : ∃ ps', LogStep m op.asked (m.call op).1 (m.call op).2.isSome ps ps' := by
  cases op with
  | addUsage v t u =>
    obtain ⟨ps', hs⟩ := logStep_addUsage h v t u hop
    refine ⟨ps', ?_⟩
    simp only [call, MapOp.asked]
    cases hr : ((addUsage v t u).run).run m with
    | mk r m' =>
      rw [hr] at hs
      cases r <;> exact hs
  | declareType v name =>
    cases ht : Ty.ofDatum name with
    | error f =>
      refine ⟨ps, ?_⟩
      simp only [call, TypeMap.declareType, ht]
      exact LogStep.stay h true
    | ok t =>
      -- the caller's declaration is a use that always reports its conflict
      obtain ⟨ps', hs⟩ := logStep_addUsage h v t { kind := .custom, ty := t } (by simp [Usage.Attached])
      cases hr : ((addUsage v t { kind := .custom, ty := t }).run).run m with
      | mk r m' =>
        rw [hr] at hs
        cases r with
        | ok a =>
          have hd : m.declareType v name = .ok (m', a) := by
            simp only [TypeMap.declareType, ht, bind, Except.bind, hr, pure, Except.pure]
          simp only [call, MapOp.asked, hd, ht]
          exact ⟨ps', hs⟩
        | error e =>
          have hd : m.declareType v name = .error e := by
            simp only [TypeMap.declareType, ht, bind, Except.bind, hr, throw, throwThe,
              MonadExceptOf.throw]
          simp only [call, hd]
          exact ⟨ps, LogStep.stay h true⟩
  | addFunction name =>
    refine ⟨ps, logStep_orKeep h fun m' hm' => ?_⟩
    obtain ⟨hv, he⟩ := addFunction_ok hm'
    exact ⟨h.congr hv he, he⟩
  | addTypedFunction name types =>
    refine ⟨ps, logStep_orKeep h fun m' hm' => ?_⟩
    obtain ⟨hv, he⟩ := declareTyped_ok hm'
    exact ⟨h.congr hv he, he⟩
  | getInfo v =>
    refine ⟨ps, logStep_orKeep h fun m' hm' => ?_⟩
    cases hg : m.getInfo v with
    | error f =>
      simp only [hg] at hm'
      cases hm'
    | ok r =>
      obtain ⟨m₁, i, info⟩ := r
      obtain ⟨-, -, -, -, herr, -⟩ := getInfo_ok hg
      simp only [hg] at hm'
      cases hm'
      exact ⟨getInfo_logs h hg, herr⟩
  | freeze => exact ⟨ps, LogStep.keep (h.congr rfl rfl) rfl⟩

/-- A run of calls from `m`, logged at `ps`, in which every call is a step of the log. -/
inductive LoggedRun : TypeMap → List Nat → List MapOp → Prop
  | nil {m : TypeMap} {ps : List Nat} : m.LogsErrorsAt ps → LoggedRun m ps []
  | cons {m : TypeMap} {ps ps' : List Nat} {op : MapOp} {ops : List MapOp} :
      LogStep m op.asked (m.call op).1 (m.call op).2.isSome ps ps' →
      LoggedRun (m.call op).1 ps' ops → LoggedRun m ps (op :: ops)

end TypeMap

end Lingo
