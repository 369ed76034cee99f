import Lingo.Proofs.Calling
import Lingo.Proofs.ConflictLog

/-!
# Inference without conflicts

A type map records one conflict for each variable whose type is `error`
(`TypeMap.LogsErrorsAt`). Every step of inference that succeeds keeps that log, whatever tree it
walks (`Infer.visit_keepsLog`), and so do the caller's declarations before it. A map that
inference leaves without conflicts therefore gives no variable the type `error`.

The type of a variable is the join of its uses. Once it is not `error`, a variable used as a
number anywhere is a number, and a variable used as a number or a string has a type that `+`
takes once an expression narrows it (`TypeMap.conflictFree_uses`).
-/

namespace Lingo

namespace Infer

theorem run_bind_inv {α β : Type} {x : InferM α} {f : α → InferM β} {st st' : InferState} {b : β}
    (h : ((x >>= f).run).run st = (.ok b, st')) :
    ∃ a s, (x.run).run st = (.ok a, s) ∧ ((f a).run).run s = (.ok b, st') := by
  rw [ExceptT.run_bind, StateT.run_bind] at h
  rcases hx : (x.run).run st with ⟨r, s⟩
  rw [hx] at h
  cases r with
  | error e => cases h
  | ok a => exact ⟨a, s, rfl, h⟩

/-- Every successful run of `x` from a state whose map satisfies `I` ends in a state whose map
satisfies `I`. -/
def KeepsMap (I : TypeMap → Prop) {α : Type} (x : InferM α) : Prop :=
  ∀ st a st', I st.map → (x.run).run st = (.ok a, st') → I st'.map

namespace KeepsMap

variable {I : TypeMap → Prop} {α β : Type}

theorem pure' (a : α) : KeepsMap I (pure a : InferM α) := by
  intro st b st' h hrun
  cases hrun
  exact h

theorem bind {x : InferM α} {f : α → InferM β} (hx : KeepsMap I x) (hf : ∀ a, KeepsMap I (f a)) :
    KeepsMap I (x >>= f) := by
  intro st b st' h hrun
  obtain ⟨a, s, hx', hf'⟩ := run_bind_inv hrun
  exact hf a s b st' (hx st a s h hx') hf'

theorem get_bind {g : InferState → InferM α} (hg : ∀ s, I s.map → KeepsMap I (g s)) :
    KeepsMap I (get >>= g) := fun st a st' h hrun => hg st h st a st' h hrun

theorem set' {s : InferState} (h : I s.map) : KeepsMap I (set s : InferM PUnit) := by
  intro st a st' _ hrun
  cases hrun
  exact h

/-- A change of the text or constraint list being read. -/
theorem modify' {f : InferState → InferState} (hf : ∀ s, (f s).map = s.map) :
    KeepsMap I (modify f : InferM PUnit) := by
  intro st a st' h hrun
  cases hrun
  rw [hf]
  exact h

theorem throw' {e : Failure} : KeepsMap I (throw e : InferM α) := by
  intro st a st' _ hrun
  cases hrun

theorem discard {x : InferM α} (hx : KeepsMap I x) : KeepsMap I (Functor.discard x) :=
  bind hx fun _ => pure' ()

/-- A step on the map that keeps `I` whenever it succeeds. -/
theorem onMap {s : TypeMap.Step α}
    (hs : ∀ m a m', I m → (s.run).run m = (.ok a, m') → I m') : KeepsMap I (Infer.onMap s) := by
  intro st a st' h hrun
  rcases hm : (s.run).run st.map with ⟨r, m'⟩
  cases r with
  | error e =>
    simp [Infer.onMap, ExceptT.run_bind, hm] at hrun
    cases hrun
  | ok b =>
    rw [onMap_run hm] at hrun
    cases hrun
    exact hs _ _ _ h hm

theorem name {n : Node} : KeepsMap I (Infer.name n) := by
  unfold Infer.name
  split
  · exact pure' _
  · exact throw'

/-- The name of a node, when it has one, followed by a step on that name. -/
theorem name_bind {n : Node} {g : Datum → InferM α}
    (hg : ∀ v, n.nameOf = .ok v → KeepsMap I (g v)) : KeepsMap I (Infer.name n >>= g) := by
  intro st a st' h hrun
  obtain ⟨v, s, hname, hrest⟩ := run_bind_inv hrun
  unfold Infer.name at hname
  split at hname
  · next w hw =>
    cases hname
    exact hg _ hw st a st' h hrest
  · cases hname

end KeepsMap

section Walk

variable {I : TypeMap → Prop} {N : Datum → Prop}
  (hu : ∀ v t u m r m', N v → u.ty = t → I m →
    ((TypeMap.addUsage v t u).run).run m = (.ok r, m') → I m')
  (hf : ∀ (m : TypeMap) name m', N name → I m → m.addFunction name = .ok m' → I m')

include hu hf in
/-- Inference over a tree whose names all have `N` keeps `I` of the map on each successful run
when every successful use of a name with `N`, and every successful declaration of a function
named with `N`, does. -/
theorem visit_keepsMap_named (n : Node) (hn : ∀ c ∈ n.walk, ∀ v, c.nameOf = .ok v → N v) :
    ∀ expected, KeepsMap I (visit expected n) := by
  induction n using Node.induction with
  | h k f cs ih =>
    have hself : ∀ v, (Node.mk k f cs).nameOf = .ok v → N v :=
      hn _ (by rw [Node.walk]; exact List.mem_cons_self)
    have hcs : ∀ c ∈ cs, ∀ expected, KeepsMap I (visit expected c) := fun c hc =>
      ih c hc fun d hd => hn d (by
        rw [Node.walk]
        exact List.mem_cons_of_mem _ (List.mem_flatten.2 ⟨_, List.mem_map_of_mem hc, hd⟩))
    have hall : ∀ expected, KeepsMap I (visitAll expected cs) := by
      intro expected
      clear ih hn hself
      induction cs with
      | nil => exact KeepsMap.pure' ()
      | cons c rest ihl =>
        rw [visitAll]
        exact KeepsMap.bind (hcs c (.head _) expected) fun _ =>
          ihl fun d hd => hcs d (.tail _ hd)
    have hparams : ∀ types i, KeepsMap I (visitParams types i cs) := by
      intro types
      clear hall ih hn hself
      induction cs with
      | nil => exact fun _ => KeepsMap.pure' ()
      | cons c rest ihl =>
        intro i
        rw [visitParams]
        exact KeepsMap.bind (hcs c (.head _) _) fun _ => ihl (fun d hd => hcs d (.tail _ hd)) (i + 1)
    intro expected
    rw [visit.eq_def]
    dsimp only
    split
    all_goals
      repeat
        first
        | (with_reducible apply KeepsMap.bind (hall _)); intro _
        | (with_reducible apply KeepsMap.bind (hparams _ _)); intro _
        | (with_reducible apply KeepsMap.name_bind); intro _ _
        | (with_reducible apply KeepsMap.bind (KeepsMap.pure' _)); intro _
        | (with_reducible apply KeepsMap.get_bind); intro _ _
        | with_reducible exact hall _
        | with_reducible exact KeepsMap.pure' ()
        | with_reducible exact KeepsMap.discard (KeepsMap.onMap fun m a m' => hu _ _ _ m a m' (hself _ ‹_›) rfl)
        | with_reducible refine KeepsMap.bind (KeepsMap.modify' fun _ => rfl) fun _ => ?_
        | with_reducible exact KeepsMap.modify' fun _ => rfl
        | exact KeepsMap.set' (hf _ _ _ (hself _ ‹_›) ‹_› ‹_›)
        | split
        | refine KeepsMap.bind KeepsMap.throw' fun _ => ?_
        | exact KeepsMap.throw'

end Walk

/-- Whatever tree inference walks, each of its successful runs keeps `I` of the map when every
successful use of the type it asks for, and every successful declaration of a called function,
does. -/
theorem visit_keepsMap {I : TypeMap → Prop}
    (hu : ∀ v t u m r m', u.ty = t → I m → ((TypeMap.addUsage v t u).run).run m = (.ok r, m') →
      I m')
    (hf : ∀ (m : TypeMap) name m', I m → m.addFunction name = .ok m' → I m') (n : Node) :
    ∀ expected, KeepsMap I (visit expected n) :=
  visit_keepsMap_named (N := fun _ => True) (fun v t u m r m' _ => hu v t u m r m')
    (fun m name m' _ => hf m name m') n fun _ _ _ _ => trivial

end Infer

namespace Ty

theorem merge_eq_unknown {a b : Ty} : a.merge b = unknown ↔ a = unknown ∧ b = unknown := by
  cases a <;> cases b <;> decide

/-- A use that asks for a type keeps the join of the uses off `unknown`. -/
theorem join_ne_unknown {ts : List Ty} {t : Ty} (h : t ∈ ts) (ht : t ≠ unknown) :
    join ts ≠ unknown := by
  obtain ⟨pre, post, rfl⟩ := List.append_of_mem h
  rw [join_append, join_cons, Ne, merge_eq_unknown, merge_eq_unknown]
  exact fun ⟨_, h', _⟩ => ht h'

/-- An expression sees every type but `unknown` and `error` as one that `+` takes. -/
theorem narrow_isPlusOperand {t : Ty} (hu : t ≠ unknown) (he : t ≠ error) :
    t.narrow.isPlusOperand = true := by
  cases t <;> simp_all [narrow, isPlusOperand]

end Ty

namespace TypeMap

/-- What every map that only its own operations built satisfies: each variable's type is the join
of its uses, and its conflicts are logged, one for each variable in `error`. -/
structure Sound (m : TypeMap) : Prop where
  consistent : m.Consistent
  logged : ∃ ps, m.LogsErrorsAt ps

theorem sound_empty : ({} : TypeMap).Sound := ⟨consistent_empty, _, logsErrorsAt_empty⟩

/-- Soundness reads only the variables and the conflicts. -/
theorem Sound.congr {m m' : TypeMap} (h : m.Sound) (hv : m'.vars = m.vars)
    (he : m'.errors = m.errors) : m'.Sound := by
  obtain ⟨ps, hps⟩ := h.logged
  refine ⟨fun e he' => h.consistent e (hv ▸ he'), ps, hps.congr hv he⟩

/-- In a sound map without conflicts, no variable has the type `error`. -/
theorem Sound.typeOf?_ne_error {m : TypeMap} (h : m.Sound) (he : m.errors = []) {v : Datum}
    {ty : Ty} (hv : m.typeOf? v = some ty) : ty ≠ .error := by
  obtain ⟨ps, hps⟩ := h.logged
  have hnil : ps = [] := by
    have hlen := hps.names.length_eq
    rw [he, List.length_nil] at hlen
    exact List.eq_nil_of_length_eq_zero hlen.symm
  obtain ⟨x, hinfo, rfl⟩ := Option.map_eq_some_iff.1 hv
  obtain ⟨e, hfind, rfl⟩ := Option.map_eq_some_iff.1 hinfo
  obtain ⟨i, hi⟩ := List.mem_iff_getElem?.1 (List.mem_of_find?_eq_some hfind)
  intro herr
  have hmem : i ∈ ps := (hps.mem_iff i).2 (by simp [tyAt?, hi, herr])
  simp [hnil] at hmem

/-- Asking for a variable's entry keeps the map sound. -/
theorem getInfo_sound {m m₁ : TypeMap} (h : m.Sound) {v : Datum} {i : Nat} {info : VarInfo}
    (hg : m.getInfo v = .ok (m₁, i, info)) : m₁.Sound := by
  obtain ⟨ps, hps⟩ := h.logged
  obtain ⟨-, -, -, -, -, hm₁⟩ := getInfo_ok hg
  refine ⟨?_, ps, getInfo_logs hps hg⟩
  rcases hm₁ with rfl | rfl
  · exact h.consistent
  · -- a new entry has no use and the type `unknown`, the join of no use
    intro e he
    rcases List.mem_append.1 he with he | he
    · exact h.consistent e he
    · rw [List.mem_singleton.1 he]
      rfl

/-- Recording a use of the type it asks for in the entry `getInfo` gave keeps every variable's type
the join of its uses. -/
theorem consistent_record {m m₁ : TypeMap} (h : m.Sound) {v : Datum} {i : Nat} {info : VarInfo}
    (hg : m.getInfo v = .ok (m₁, i, info)) {t : Ty} {u : Usage} (ht : u.ty = t) :
    (m₁.setInfoAt i (info.record t u)).Consistent := by
  obtain ⟨k, hk, -, -, -, -⟩ := getInfo_ok hg
  have hc₁ := (getInfo_sound h hg).consistent
  intro e he
  obtain ⟨j, hj, rfl⟩ := List.mem_mapIdx.1 he
  by_cases hji : j = i
  · subst hji
    simp only [if_true]
    exact record_consistent (hc₁ _ (List.mem_of_getElem? hk)) ht
  · simp only [hji, if_false]
    exact hc₁ _ (List.getElem_mem hj)

/-- A use of the type it asks for keeps the map sound whenever it succeeds. A use that can report
its conflict logs it; a detached constraint that would move its variable into `error` fails
instead. -/
theorem addUsage_sound {m m' : TypeMap} (h : m.Sound) {v : Datum} {t : Ty} {u : Usage} {r : Ty}
    (ht : u.ty = t) (hrun : ((addUsage v t u).run).run m = (.ok r, m')) : m'.Sound := by
  cases hf : m.frozen with
  | true =>
    rw [addUsage_frozen hf] at hrun
    cases hrun
  | false =>
    cases hg : m.getInfo v with
    | error e =>
      rw [addUsage_getInfo_error hf hg] at hrun
      cases hrun
    | ok res =>
      obtain ⟨m₁, i, info⟩ := res
      obtain ⟨ps, hps⟩ := h.logged
      have hc := consistent_record h hg ht
      by_cases hu : u.Attached
      · rw [addUsage_getInfo_ok hf hg hu] at hrun
        cases hrun
        obtain ⟨ps', hstep⟩ := logStep_record hps hg t u
        exact ⟨hc, ps', hstep.logs⟩
      · simp only [Usage.Attached, not_not] at hu
        obtain ⟨k, hk, -, -, -, -⟩ := getInfo_ok hg
        simp [addUsage, hf, ExceptT.run_bind, hg, addUsage.liftExcept] at hrun
        split at hrun
        · simp [Usage.mismatch, hu, throw, throwThe, MonadExceptOf.throw, ExceptT.run_bind] at hrun
          cases hrun
        · -- no conflict: the variable stays on its side of `error`
          next hno =>
          cases hrun
          have hside : (info.record t u).ty = .error ↔ info.ty = .error := by
            constructor
            · intro hm
              by_contra hne
              exact hno ⟨hm, hne⟩
            · intro he
              simp [VarInfo.record, he]
          exact ⟨hc, ps, (getInfo_logs hps hg).setInfoAt hk _ hside⟩

/-- Declaring a function keeps the map sound. -/
theorem addFunction_sound {m m' : TypeMap} (h : m.Sound) {name : Datum}
    (hadd : m.addFunction name = .ok m') : m'.Sound :=
  h.congr (addFunction_ok hadd).1 (addFunction_ok hadd).2

/-- Entering signatures touches nothing but the functions. -/
theorem declareSignatures_functions {m m₁ : TypeMap} {sigs : List (Datum × List Ty)}
    (h : ((declareSignatures sigs).run).run m = (.ok (), m₁)) :
    m₁.vars = m.vars ∧ m₁.errors = m.errors := by
  induction sigs generalizing m with
  | nil =>
    cases h
    exact ⟨rfl, rfl⟩
  | cons p rest ih =>
    obtain ⟨name, types⟩ := p
    simp only [declareSignatures, bne_iff_ne, ne_eq, Code.pure_ok, ExceptT.bind_throw, ite_not,
      pure_bind, ExceptT.run_bind, step_run_get, bind_map_left, StateT.run_bind, StateT.run_get] at h
    split at h
    · split at h
      · exact ih h
      · split at h
        · rename_i m' hd
          simp only [ExceptT.run_bind, step_run_set, bind_map_left, StateT.run_bind, StateT.run_set,
            pure_bind] at h
          obtain ⟨hv, he⟩ := declareTyped_ok hd
          obtain ⟨hv', he'⟩ := ih h
          exact ⟨hv'.trans hv, he'.trans he⟩
        · simp only [ExceptT.run_throw, StateT.run_pure] at h
          cases h
    · simp only [ExceptT.run_throw, StateT.run_pure] at h
      cases h

/-- Inference that succeeds keeps the map sound: its declarations of signatures touch only the
functions, and each step of its walk keeps the map sound. -/
theorem infer_sound {m m' : TypeMap} (h : m.Sound) {sigs : List (Datum × List Ty)} {t : Node}
    (hinf : m.infer sigs t = (m', none)) : m'.Sound := by
  unfold infer at hinf
  split at hinf
  · cases hinf
  · next m₁ hdecl =>
    have h₁ : m₁.Sound := h.congr (declareSignatures_functions hdecl).1
      (declareSignatures_functions hdecl).2
    rcases hrun : ((Infer.visit none t).run).run { map := m₁ } with ⟨r, st⟩
    rw [hrun] at hinf
    cases r with
    | error f => cases hinf
    | ok a =>
      cases hinf
      exact Infer.visit_keepsMap (fun _ _ _ _ _ _ ht h hrun => addUsage_sound h ht hrun)
        (fun _ _ _ h hadd => addFunction_sound h hadd) t none _ a st h₁ hrun

/-- A fold in `Except` keeps what each of its successful steps keeps. -/
theorem foldlM_keeps {α β : Type} {I : α → Prop} {f : α → β → Except Failure α}
    (hf : ∀ a b a', I a → f a b = .ok a' → I a') :
    ∀ (l : List β) (a r : α), I a → l.foldlM f a = .ok r → I r := by
  intro l
  induction l with
  | nil =>
    intro a r ha h
    cases h
    exact ha
  | cons b rest ih =>
    intro a r ha h
    obtain ⟨a', ha', h⟩ := Code.bind_eq_ok h
    exact ih a' r (hf a b a' ha ha') h

/-- Every map a caller fills is sound. -/
theorem prefilled_sound {p : Prefill} {m : TypeMap} (hp : prefilled p = .ok m) : m.Sound := by
  unfold prefilled at hp
  obtain ⟨m₁, h₁, hp⟩ := Code.bind_eq_ok hp
  obtain ⟨m₂, h₂, hp⟩ := Code.bind_eq_ok hp
  cases hp
  have hs₁ : m₁.Sound := by
    refine foldlM_keeps (fun m e m' hm hd => ?_) p.custom {} m₁ sound_empty h₁
    obtain ⟨v, name⟩ := e
    dsimp only at hd
    cases hdecl : m.declareType v name with
    | error f =>
      rw [hdecl] at hd
      cases hd
    | ok res =>
      rw [hdecl] at hd
      obtain rfl : res.1 = m' := by simpa using hd
      unfold declareType at hdecl
      obtain ⟨t, -, hdecl⟩ := Code.bind_eq_ok hdecl
      split at hdecl
      · next r' m'' hrun =>
        cases hdecl
        exact addUsage_sound hm (by rfl) hrun
      · cases hdecl
  have hs₂ : m₂.Sound :=
    foldlM_keeps (fun m _ m' hm hadd => addFunction_sound hm hadd) p.functions m₁ m₂ hs₁ h₂
  split
  · exact hs₂.congr rfl rfl
  · exact hs₂

/-- After inference into a sound map that is not frozen, each use of a well-formed translation is
in the result: its variable has an entry, whose type is the join of its uses, this one among
them. -/
theorem infer_use {m m' : TypeMap} (hm : m.Sound) (hf : m.frozen = false)
    {sigs : List (Datum × List Ty)} {t : Node} (ht : t.IsTranslation)
    (hinf : m.infer sigs t = (m', none)) {s : String} {ty : Ty}
    (hs : (.str s, ty) ∈ t.uses m'.signature none) :
    m'.typeOf? (.str s) = some (Ty.join (m'.usageTypes (.str s))) ∧
      ty ∈ m'.usageTypes (.str s) := by
  obtain ⟨m₁, hdecl⟩ := infer_declares hinf
  obtain ⟨m₂, hinf₂, hrec⟩ := infer_records hdecl ((declareSignatures_keeps hdecl).2.trans hf) ht
  rw [hinf] at hinf₂
  cases hinf₂
  rw [hrec.signature] at hs
  have hsame : Datum.sameValue (.str s) (.str s) = true := (Datum.sameValue_str_left _ _).2 rfl
  have hpresent : (m'.info? (.str s)).isSome := by
    rw [hrec.present]
    simp only [Bool.or_eq_true, List.any_eq_true]
    exact .inr ⟨_, hs, hsame⟩
  refine ⟨?_, ?_⟩
  · rw [(infer_sound hm hinf).consistent.typeOf?]
    obtain ⟨i, hi⟩ := Option.isSome_iff_exists.1 hpresent
    simp [hi]
  · rw [hrec.usageTypes]
    exact List.mem_append_right _ (List.mem_map.2 ⟨_, List.mem_filter.2 ⟨hs, hsame⟩, rfl⟩)

/-- The uses `us` ask nothing of `m` that its types refuse: a variable used as a number is a
number, and a variable used as a number or a string has a type that an expression sees as a
number, a string or either. -/
structure FitsUses (m : TypeMap) (us : List (Datum × Ty)) : Prop where
  number : ∀ s, (.str s, .number) ∈ us → m.typeOf? (.str s) = some .number
  numberOrString : ∀ s, (.str s, .numberOrString) ∈ us →
    ∃ ty, m.typeOf? (.str s) = some ty ∧ ty.narrow.isPlusOperand = true

/-- Inference that leaves a sound map without conflicts gives each variable of a well-formed
translation a type that every use of it accepts. -/
theorem Sound.fitsUses {m m' : TypeMap} (hm : m.Sound) (hf : m.frozen = false)
    {sigs : List (Datum × List Ty)} {t : Node} (ht : t.IsTranslation)
    (hinf : m.infer sigs t = (m', none)) (hclean : m'.errors = []) :
    m'.FitsUses (t.uses m'.signature none) := by
  have hsound := infer_sound hm hinf
  refine ⟨fun s hs => ?_, fun s hs => ?_⟩
  · -- only `number` and `error` lie above `number`, and no variable is in `error`
    obtain ⟨hty, hmem⟩ := infer_use hm hf ht hinf hs
    rcases Ty.join_cases_of_number_mem hmem with hn | he
    · rw [hty, hn]
    · exact absurd he (hsound.typeOf?_ne_error hclean hty)
  · obtain ⟨hty, hmem⟩ := infer_use hm hf ht hinf hs
    exact ⟨_, hty, Ty.narrow_isPlusOperand (Ty.join_ne_unknown hmem (by decide))
      (hsound.typeOf?_ne_error hclean hty)⟩

/-- Inference that leaves a caller's map without conflicts gives each variable of a well-formed
translation a type that every use of it accepts. -/
theorem conflictFree_fitsUses {p : Prefill} {m m' : TypeMap} (hp : prefilled p = .ok m)
    (hf : m.frozen = false) {sigs : List (Datum × List Ty)} {t : Node} (ht : t.IsTranslation)
    (hinf : m.infer sigs t = (m', none)) (hclean : m'.errors = []) :
    m'.FitsUses (t.uses m'.signature none) :=
  (prefilled_sound hp).fitsUses hf ht hinf hclean

end TypeMap

end Lingo
