import Mathlib.Data.List.Forall2
import Mathlib.Data.List.Nodup
import Lingo.Proofs.Inference

/-!
# Inference into a shared map

Several translations are inferred one after the other into one type map, each run entering the
same function signatures first. The first run enters them; later runs find them held and change
nothing. So every run walks its translation under the same signatures, and the map ends with
each variable's prior uses followed by the uses of the translations, in order.

Since a variable's type is the join of its uses' types, and the join forgets order, the final
types do not depend on the order of the translations, nor on the order of the rules of a rule
set, of the constraints of a rule, or of the fragments of a text (`Node.Reorders`).
-/

namespace Lingo

namespace TypeMap

/-- The parameter types a call reads once the signatures `sigs` are entered: the first types
`sigs` declares for the function, else those the map holds. -/
def withSignatures (m : TypeMap) : List (Datum × List Ty) → Datum → Option (List Ty)
  | [], f => m.signature f
  | (g, ts) :: rest, f => if Datum.sameValue g f then some ts else m.withSignatures rest f

/-- Signatures as a caller declares them to a map: functions named by strings, no name twice, and
a function the map already holds is held with exactly the declared types. -/
structure Declarable (m : TypeMap) (sigs : List (Datum × List Ty)) : Prop where
  names : ∀ p ∈ sigs, ∃ s, p.1 = .str s
  nodup : (sigs.map (·.1)).Nodup
  held : ∀ p ∈ sigs, m.hasFunction p.1 = true → m.signature p.1 = some p.2

theorem withSignatures_of_forall_ne {m : TypeMap} {sigs : List (Datum × List Ty)} {f : Datum}
    (h : ∀ p ∈ sigs, Datum.sameValue p.1 f = false) : m.withSignatures sigs f = m.signature f := by
  induction sigs with
  | nil => rfl
  | cons p rest ih =>
    simp only [withSignatures, h p (.head _), Bool.false_eq_true, if_false]
    exact ih fun q hq => h q (.tail _ hq)

theorem withSignatures_congr {m m' : TypeMap} {f : Datum} (h : m'.signature f = m.signature f)
    (sigs : List (Datum × List Ty)) : m'.withSignatures sigs f = m.withSignatures sigs f := by
  induction sigs with
  | nil => exact h
  | cons p rest ih => simp only [withSignatures, ih]

/-- Each declared function reads the types it is declared with. -/
theorem withSignatures_of_mem {m : TypeMap} {sigs : List (Datum × List Ty)}
    (hnames : ∀ p ∈ sigs, ∃ s, p.1 = .str s) (hnodup : (sigs.map (·.1)).Nodup) {p : Datum × List Ty}
    (hp : p ∈ sigs) : m.withSignatures sigs p.1 = some p.2 := by
  induction sigs with
  | nil => cases hp
  | cons q rest ih =>
    obtain ⟨s, hs⟩ := hnames q (.head _)
    rw [List.map_cons, List.nodup_cons] at hnodup
    rcases List.mem_cons.1 hp with rfl | hp
    · simp [withSignatures, hs, Datum.sameValue_str_left]
    · have hne : p.1 ≠ .str s := fun h => hnodup.1 (hs ▸ h ▸ List.mem_map_of_mem hp)
      have hsv : Datum.sameValue (.str s) p.1 = false :=
        Bool.eq_false_iff.2 fun h => hne ((Datum.sameValue_str_left _ _).1 h)
      simp only [withSignatures, hs, hsv, Bool.false_eq_true, if_false]
      exact ih (fun r hr => hnames r (.tail _ hr)) hnodup.2 hp

/-- Declaring a function the map does not hold gives it the declared types and keeps every other
signature. -/
theorem signature_append_fresh {m : TypeMap} {s : String} (h : m.hasFunction (.str s) = false)
    (t : Option (List Ty)) (f : Datum) :
    ({ m with functions := m.functions ++ [(.str s, t)] } : TypeMap).signature f =
      if Datum.sameValue (.str s) f then t else m.signature f := by
  unfold signature
  rw [List.find?_append]
  cases hsv : Datum.sameValue (.str s) f with
  | true =>
    obtain rfl := (Datum.sameValue_str_left _ _).1 hsv
    have hnone : m.functions.find? (Datum.sameValue ·.1 (.str s)) = none := by
      rw [List.find?_eq_none]
      intro e he hsame
      have : m.hasFunction (.str s) = true := List.any_eq_true.2 ⟨e, he, hsame⟩
      simp [this] at h
    simp [hnone, Datum.sameValue_str_left]
  | false =>
    cases m.functions.find? (Datum.sameValue ·.1 f) <;> simp [hsv]

/-- Signatures the map already holds are skipped: entering them again changes nothing. -/
theorem declareSignatures_of_held {m : TypeMap} {sigs : List (Datum × List Ty)}
    (hnames : ∀ p ∈ sigs, ∃ s, p.1 = .str s) (hheld : ∀ p ∈ sigs, m.signature p.1 = some p.2) :
    ((declareSignatures sigs).run).run m = (.ok (), m) := by
  induction sigs with
  | nil => rfl
  | cons p rest ih =>
    obtain ⟨g, ts⟩ := p
    obtain ⟨s, rfl⟩ := hnames _ (.head _)
    have hp : m.signature (.str s) = some ts := hheld _ (.head _)
    simp only [declareSignatures, paramTypes?_str, bne_iff_ne, ne_eq, ExceptT.bind_throw,
      ite_not, pure_bind, ExceptT.run_bind, step_run_get, bind_map_left, StateT.run_bind,
      StateT.run_get, hp, ↓reduceIte]
    exact ih (fun q hq => hnames q (.tail _ hq)) (fun q hq => hheld q (.tail _ hq))

/-- Entering declarable signatures into a map that is not frozen succeeds. It keeps the variables
and the frozen flag, and calls then read the types `withSignatures` gives. -/
theorem declareSignatures_run {m : TypeMap} {sigs : List (Datum × List Ty)}
    (hd : m.Declarable sigs) (hf : m.frozen = false) :
    ∃ m', ((declareSignatures sigs).run).run m = (.ok (), m') ∧ m'.vars = m.vars ∧
      m'.frozen = false ∧ m'.signature = m.withSignatures sigs := by
  induction sigs generalizing m with
  | nil => exact ⟨m, rfl, rfl, hf, rfl⟩
  | cons p rest ih =>
    obtain ⟨g, ts⟩ := p
    obtain ⟨s, rfl⟩ := hd.names _ (.head _)
    have hnodup := hd.nodup
    rw [List.map_cons, List.nodup_cons] at hnodup
    -- no later signature names the same function
    have hrest : ∀ q ∈ rest, Datum.sameValue q.1 (.str s) = false := fun q hq =>
      Bool.eq_false_iff.2 fun h =>
        hnodup.1 (List.mem_map.2 ⟨q, hq, (Datum.sameValue_str_right _ _).1 h⟩)
    by_cases hheld : m.signature (.str s) = some ts
    · obtain ⟨m', hrun, hvars, hfr, hsig⟩ := ih ⟨fun q hq => hd.names q (.tail _ hq), hnodup.2,
        fun q hq => hd.held q (.tail _ hq)⟩ hf
      refine ⟨m', ?_, hvars, hfr, ?_⟩
      · simp only [declareSignatures, paramTypes?_str, bne_iff_ne, ne_eq, ExceptT.bind_throw,
          ite_not, pure_bind, ExceptT.run_bind, step_run_get, bind_map_left, StateT.run_bind,
          StateT.run_get, hheld, ↓reduceIte]
        exact hrun
      · funext f
        rw [hsig, withSignatures]
        split
        · next hsv =>
          obtain rfl := (Datum.sameValue_str_left _ _).1 hsv
          rw [withSignatures_of_forall_ne hrest, hheld]
        · rfl
    · have hfn : m.hasFunction (.str s) = false :=
        Bool.eq_false_iff.2 fun h => hheld (hd.held _ (.head _) h)
      have hsig₁ := signature_append_fresh hfn (some ts)
      have hdecl : m.declareTyped (.str s) (pure ts) =
          .ok { m with functions := m.functions ++ [(.str s, some ts)] } := by
        simp only [declareTyped, hf, hfn, Bool.false_eq_true, if_false]
        rfl
      -- a later function held by the new map was held before, with the same types
      have hd₁ : Declarable { m with functions := m.functions ++ [(.str s, some ts)] } rest := by
        refine ⟨fun q hq => hd.names q (.tail _ hq), hnodup.2, fun q hq hq' => ?_⟩
        have hne : Datum.sameValue (.str s) q.1 = false := by
          rw [Datum.sameValue_str_comm]
          exact hrest q hq
        have hq₁ : m.hasFunction q.1 = true := by
          simpa [hasFunction, List.any_append, hne] using hq'
        rw [hsig₁]
        simp only [hne, Bool.false_eq_true, if_false]
        exact hd.held q (.tail _ hq) hq₁
      obtain ⟨m', hrun, hvars, hfr, hsig⟩ := ih hd₁ hf
      refine ⟨m', ?_, hvars, hfr, ?_⟩
      · simp only [declareSignatures, paramTypes?_str, bne_iff_ne, ne_eq, ExceptT.bind_throw,
          ite_not, pure_bind, ExceptT.run_bind, step_run_get, bind_map_left, StateT.run_bind,
          StateT.run_get, hheld, ↓reduceIte, hdecl]
        exact hrun
      · funext f
        rw [hsig, withSignatures]
        split
        · next hsv =>
          obtain rfl := (Datum.sameValue_str_left _ _).1 hsv
          rw [withSignatures_of_forall_ne hrest, hsig₁, if_pos hsv]
        · next hsv =>
          exact withSignatures_congr (by rw [hsig₁, if_neg hsv]) rest

/-- Infers translations one after the other into one map, each run under the same signatures. A
failing run is reported and the next one goes on with the map it left. -/
def inferAll (m : TypeMap) (sigs : List (Datum × List Ty)) : List Node → TypeMap × List Failure
  | [] => (m, [])
  | t :: ts =>
    let (m₁, r) := m.infer sigs t
    let (m₂, fs) := m₁.inferAll sigs ts
    (m₂, r.toList ++ fs)

end TypeMap

/-- The uses of a list of translations, in order. -/
def Node.usesList (sig : Datum → Option (List Ty)) (ts : List Node) : List (Datum × Ty) :=
  ts.flatMap (·.uses sig none)

namespace TypeMap

/-- Once the map holds the signatures, every run succeeds and records its translation's uses
under them. -/
theorem inferAll_of_held {m : TypeMap} {sigs : List (Datum × List Ty)} {ts : List Node}
    (hnames : ∀ p ∈ sigs, ∃ s, p.1 = .str s) (hheld : ∀ p ∈ sigs, m.signature p.1 = some p.2)
    (hf : m.frozen = false) (hts : ∀ t ∈ ts, t.IsTranslation) :
    ∃ m', m.inferAll sigs ts = (m', []) ∧ m.Records (Node.usesList m.signature ts) m' := by
  induction ts generalizing m with
  | nil => exact ⟨m, rfl, Records.refl m⟩
  | cons t rest ih =>
    obtain ⟨m₁, hinfer, hrec₁⟩ :=
      infer_records (declareSignatures_of_held hnames hheld) hf (hts t (.head _))
    have hsig : m₁.signature = m.signature := hrec₁.signature
    obtain ⟨m', hall, hrec⟩ := ih (m := m₁) (fun p hp => hsig ▸ hheld p hp)
      (hrec₁.frozen.trans hf) (fun t ht => hts t (.tail _ ht))
    refine ⟨m', by simp [inferAll, hinfer, hall], ?_⟩
    rw [hsig] at hrec
    exact hrec₁.trans hrec

/-- Inferring well-formed translations into a map that is not frozen, under declarable
signatures, never fails. The map ends as the map with the signatures entered (whose variables
are those of the start) with the uses of all the translations recorded, each read under the
entered signatures. -/
theorem inferAll_records {m : TypeMap} {sigs : List (Datum × List Ty)} {ts : List Node}
    (hd : m.Declarable sigs) (hf : m.frozen = false) (hts : ∀ t ∈ ts, t.IsTranslation) :
    ∃ m₁ m' : TypeMap, m₁.vars = m.vars ∧ m.inferAll sigs ts = (m', []) ∧
      m₁.Records (Node.usesList (m.withSignatures sigs) ts) m' := by
  cases ts with
  | nil => exact ⟨m, m, rfl, rfl, Records.refl m⟩
  | cons t rest =>
    -- the first run enters the signatures, and the runs after it find them held
    obtain ⟨m₁, hdecl, hvars, hf₁, hsig₁⟩ := declareSignatures_run hd hf
    obtain ⟨m₂, hinfer, hrec₂⟩ := infer_records hdecl hf₁ (hts t (.head _))
    have hheld : ∀ p ∈ sigs, m₂.signature p.1 = some p.2 := fun p hp => by
      rw [hrec₂.signature, hsig₁]
      exact withSignatures_of_mem hd.names hd.nodup hp
    obtain ⟨m', hall, hrec⟩ := inferAll_of_held hd.names hheld (hrec₂.frozen.trans hf₁)
      (fun t ht => hts t (.tail _ ht))
    refine ⟨m₁, m', hvars, by simp [inferAll, hinfer, hall], ?_⟩
    rw [hrec₂.signature, hsig₁] at hrec
    rw [hsig₁] at hrec₂
    exact hrec₂.trans hrec

end TypeMap

namespace Node

/-- The rule `r'` is the rule `r` with its constraints and its text fragments taken in another
order. -/
inductive RuleReorders : Node → Node → Prop
  | mk {f cf tf : Fields} {cs cs' ts ts' : List Node} (hcs : cs.Perm cs') (hts : ts.Perm ts') :
      RuleReorders (.mk .rule f [.mk .constraintRoot cf cs, .mk .textRoot tf ts])
        (.mk .rule f [.mk .constraintRoot cf cs', .mk .textRoot tf ts'])

/-- The translation `t'` is `t` with its parts taken in another order: the fragments of a text,
or the rules of a rule set, each rule reordered in itself. -/
inductive Reorders : Node → Node → Prop
  | text {f : Fields} {ts ts' : List Node} (h : ts.Perm ts') :
      Reorders (.mk .textRoot f ts) (.mk .textRoot f ts')
  | rules {f : Fields} {rs rs' rs'' : List Node} (h : List.Forall₂ RuleReorders rs rs')
      (hp : rs'.Perm rs'') : Reorders (.mk .ruleSet f rs) (.mk .ruleSet f rs'')

/-- The translations `ts'` are the translations `ts`, each reordered in itself, taken in another
order. -/
def ReordersAll (ts ts' : List Node) : Prop :=
  ∃ us, List.Forall₂ Reorders ts us ∧ us.Perm ts'

theorem usesAll_eq_flatMap (sig : Datum → Option (List Ty)) (expected : Option Ty)
    (cs : List Node) : Node.usesAll sig expected cs = cs.flatMap (·.uses sig expected) := by
  induction cs with
  | nil => rfl
  | cons c cs ih => simp [Node.usesAll, ih]

/-- Lists related pointwise by a relation that permutes uses have permuted uses. -/
theorem perm_flatMap_of_forall₂ {α : Type} {f : Node → List α} {l l' : List Node}
    (h : List.Forall₂ (fun a b => (f a).Perm (f b)) l l') : (l.flatMap f).Perm (l'.flatMap f) := by
  induction h with
  | nil => exact .nil
  | cons hab _ ih => simpa using hab.append ih

theorem exists_of_forall₂_of_mem {R : Node → Node → Prop} {l l' : List Node}
    (h : List.Forall₂ R l l') {b : Node} (hb : b ∈ l') : ∃ a ∈ l, R a b := by
  induction h with
  | nil => cases hb
  | @cons a b' _ _ hab _ ih =>
    rcases List.mem_cons.1 hb with rfl | hb
    · exact ⟨a, .head _, hab⟩
    · obtain ⟨a', ha', hr⟩ := ih hb
      exact ⟨a', .tail _ ha', hr⟩

theorem RuleReorders.uses_perm {r r' : Node} (h : RuleReorders r r')
    (sig : Datum → Option (List Ty)) (expected : Option Ty) :
    (r.uses sig expected).Perm (r'.uses sig expected) := by
  obtain ⟨hcs, hts⟩ := h
  simp only [Node.uses, Node.usesAll, List.append_nil, usesAll_eq_flatMap]
  exact (hcs.flatMap_right _).append (hts.flatMap_right _)

/-- Reordering a translation permutes its uses. -/
theorem Reorders.uses_perm {t t' : Node} (h : Reorders t t') (sig : Datum → Option (List Ty))
    (expected : Option Ty) : (t.uses sig expected).Perm (t'.uses sig expected) := by
  cases h with
  | text h =>
    simp only [Node.uses, usesAll_eq_flatMap]
    exact h.flatMap_right _
  | rules h hp =>
    simp only [Node.uses, usesAll_eq_flatMap]
    exact (perm_flatMap_of_forall₂ (h.imp fun _ _ hr => hr.uses_perm sig expected)).trans
      (hp.flatMap_right _)

theorem ReordersAll.usesList_perm {ts ts' : List Node} (h : ReordersAll ts ts')
    (sig : Datum → Option (List Ty)) : (usesList sig ts).Perm (usesList sig ts') := by
  obtain ⟨us, hus, hp⟩ := h
  exact (perm_flatMap_of_forall₂ (hus.imp fun _ _ hr => hr.uses_perm sig none)).trans
    (hp.flatMap_right _)

theorem RuleReorders.isRule {r r' : Node} (h : RuleReorders r r') (hr : r.IsRule) : r'.IsRule := by
  obtain ⟨hcs, hts⟩ := h
  cases hr with
  | mk hcs₀ hts₀ =>
    exact .mk (fun c hc => hcs₀ c (hcs.mem_iff.2 hc)) (fun t ht => hts₀ t (hts.mem_iff.2 ht))

/-- A reordered well-formed translation is well-formed. -/
theorem Reorders.isTranslation {t t' : Node} (h : Reorders t t') (ht : t.IsTranslation) :
    t'.IsTranslation := by
  cases h with
  | text h =>
    cases ht with
    | text hts => exact .text fun c hc => hts c (h.mem_iff.2 hc)
  | rules h hp =>
    cases ht with
    | rules hne hrs =>
      refine .rules ?_ fun r hr => ?_
      · intro hnil
        subst hnil
        have hlen := h.length_eq.trans hp.length_eq
        simp only [List.length_nil, List.length_eq_zero_iff] at hlen
        exact hne hlen
      · obtain ⟨r₀, hr₀, hre⟩ := exists_of_forall₂_of_mem h (hp.mem_iff.2 hr)
        exact hre.isRule (hrs r₀ hr₀)

theorem ReordersAll.isTranslation {ts ts' : List Node} (h : ReordersAll ts ts')
    (hts : ∀ t ∈ ts, t.IsTranslation) : ∀ t ∈ ts', t.IsTranslation := by
  obtain ⟨us, hus, hp⟩ := h
  intro t ht
  obtain ⟨t₀, ht₀, hre⟩ := exists_of_forall₂_of_mem hus (hp.mem_iff.2 ht)
  exact hre.isTranslation (hts t₀ ht₀)

end Node

namespace TypeMap

/-- Inferring well-formed translations into a consistent map that is not frozen, under
declarable signatures, never fails, and gives each variable the join of its prior uses and of
its uses in the translations. -/
theorem inferAll_typeOf? {m : TypeMap} {sigs : List (Datum × List Ty)} {ts : List Node}
    (hf : m.frozen = false) (hc : m.Consistent) (hd : m.Declarable sigs)
    (hts : ∀ t ∈ ts, t.IsTranslation) :
    ∃ m', m.inferAll sigs ts = (m', []) ∧
      ∀ v, m'.typeOf? v = m.typeAfter (Node.usesList (m.withSignatures sigs) ts) v := by
  obtain ⟨m₁, m', hvars, hall, hrec⟩ := inferAll_records hd hf hts
  -- entering the signatures left the variables, so `m₁` is `m` as far as types go
  have hinfo : m₁.info? = m.info? := by
    funext v
    simp only [info?, hvars]
  have hc₁ : m₁.Consistent := by
    unfold Consistent
    rw [hvars]
    exact hc
  refine ⟨m', hall, fun v => ?_⟩
  rw [hrec.typeOf? hc₁ v]
  simp only [typeAfter, usageTypes, hinfo]

/-- Inference gives the same final types to translations reordered in any way. -/
theorem inferAll_typeOf?_reorder {m : TypeMap} {sigs : List (Datum × List Ty)}
    {ts ts' : List Node} (hf : m.frozen = false) (hc : m.Consistent) (hd : m.Declarable sigs)
    (hts : ∀ t ∈ ts, t.IsTranslation) (hre : Node.ReordersAll ts ts') :
    ∃ m₁ m₂, m.inferAll sigs ts = (m₁, []) ∧ m.inferAll sigs ts' = (m₂, []) ∧
      ∀ v, m₂.typeOf? v = m₁.typeOf? v := by
  obtain ⟨m₁, hall₁, htype₁⟩ := inferAll_typeOf? hf hc hd hts
  obtain ⟨m₂, hall₂, htype₂⟩ := inferAll_typeOf? hf hc hd (hre.isTranslation hts)
  refine ⟨m₁, m₂, hall₁, hall₂, fun v => ?_⟩
  rw [htype₁, htype₂, typeAfter_perm m (hre.usesList_perm _) v]

end TypeMap

end Lingo
