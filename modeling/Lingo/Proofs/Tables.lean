import Lingo.Proofs.ModuleHelpers
import Lingo.Proofs.TextRendering

/-!
# Translations compiled together run as each does alone

`compileTranslations` compiles a table of translations into one module: each translation gets a
fresh type map, all share one record of helpers, and the functions are named by position. Since
emission only adds to the record of helpers and a translation's name only names its function, the
table compiles exactly when each of its translations compiles alone (`compileFrom_ok_iff`), into
the translations each gives alone, renamed (`compileFrom_entries`).

The host checks a module as a whole before it runs it, and refuses it for its first literal that
is not a scalar. The module of a table holds the literals of all its translations, so it loads
exactly when the module of each translation alone loads: one translation with a safe string for a
literal keeps the whole table from loading. A table that loads binds its keys, and a call of a key
runs as the call of that translation in a module of its own: its function reads only the built-ins
and the helpers it records, which the two modules bind alike (`frame_runs_alike`).
-/

namespace Lingo

open Code

namespace Emit

/-- A name a translation can be defined under, in a module of its own or in the module of a
table: none of the names emitted code reads, of the helpers or of the constants, nor the host's. -/
def Unreserved (x : String) : Prop :=
  x ∉ fixedNames ∧ x ∉ helperNames ∧ x ∉ constantNames ∧ x ≠ hostName

instance : DecidablePred Unreserved := fun _ => inferInstanceAs (Decidable (_ ∧ _ ∧ _ ∧ _))

/-- Position `i` of a table names its function `_translation_i`, which no code reads. -/
theorem unreserved_tableName (i : Nat) : Unreserved ("_translation_" ++ toString i) := by
  -- every reserved name differs from the prefix within its first characters
  have hne : ∀ x ∈ fixedNames ++ helperNames ++ constantNames ++ [hostName],
      "_translation_" ++ toString i ≠ x := by
    intro x hx h
    simp only [fixedNames, helperNames, constantNames, hostName, builtinsName, paramsName,
      fnsName, ctxName, scratchName, List.cons_append, List.nil_append, List.mem_cons,
      List.not_mem_nil, or_false] at hx
    rcases hx with rfl | rfl | rfl | rfl | rfl | rfl | rfl | rfl | rfl | rfl | rfl | rfl | rfl |
      rfl | rfl | rfl | rfl | rfl | rfl | rfl | rfl | rfl | rfl <;>
    · have := congrArg String.toList h
      simp at this
  simp only [List.mem_append, List.mem_singleton, or_imp, forall_and] at hne
  exact ⟨fun h => hne.1.1.1 _ h rfl, fun h => hne.1.1.2 _ h rfl, fun h => hne.1.2 _ h rfl,
    hne.2 _ rfl⟩

theorem tableName_ne_translations (i : Nat) : "_translation_" ++ toString i ≠ "translations" := by
  intro h
  have := congrArg String.toList h
  simp at this

/-- Positions name their functions apart. -/
theorem tableName_injective {i j : Nat}
    (h : "_translation_" ++ toString i = "_translation_" ++ toString j) : i = j := by
  have hdigits : Nat.toDigits 10 i = Nat.toDigits 10 j := by
    rw [← Nat.toList_repr, ← Nat.toList_repr]
    exact congrArg String.toList ((String.append_right_inj _).1 h)
  rw [← Nat.ofDigitChars_ten_toDigits (n := i), hdigits, Nat.ofDigitChars_ten_toDigits]

end Emit

/-! ## A translation compiled among others -/

theorem EmitM.run'_map {α β : Type} (f : α → β) (x : EmitM α) (h : Helpers) :
    (f <$> x).run' h = (f <$> (x.run' h).1, (x.run' h).2) := by
  simp only [EmitM.run', ExceptT.run_map, StateT.run_map]
  rfl

/-- A translation emitted under any name after any record of helpers is the translation emitted
alone, renamed, with what it records alone joined to the record. -/
theorem Emit.translation_run'_renamed (m : TypeMap) (name name' : String) (root : Node)
    (h : Helpers) :
    (Emit.translation m name root).run' h =
      ((·.named name) <$> ((Emit.translation m name' root).run' {}).1,
        h.union ((Emit.translation m name' root).run' {}).2) := by
  rw [Emit.translation_named m name name' root, EmitM.run'_map,
    (Emit.translation_adds m name' root).run'_eq h]

theorem CompileOptions.check_renamed (o : CompileOptions) (name : String) (typed : Node) :
    ({ o with name := name } : CompileOptions).check typed = o.check typed := rfl

/-- Compiling a translation under any name after any record of helpers gives the map it gives
alone, and the translation it gives alone, renamed, with the record joined. -/
theorem compileTranslation_renamed (m : TypeMap) (h : Helpers) (o : CompileOptions)
    (name : String) (t : Node) :
    compileTranslation m h { o with name := name } t =
      ((compileTranslation m {} o t).1, h.union (compileTranslation m {} o t).2.1,
        (·.named name) <$> (compileTranslation m {} o t).2.2) := by
  unfold compileTranslation
  dsimp only
  rcases m.analyze o.signatures t with ⟨m', f | typed⟩
  · simp
  · dsimp only
    rw [CompileOptions.check_renamed]
    rcases o.check typed with f | ⟨⟩
    · simp
    · simp only [Emit.translation_run'_renamed m' name o.name typed h]

/-! ## A table compiled translation by translation -/

/-- The names of the functions among keyed translations, in order. -/
def Emit.functionNames : List (String × Emitted) → List String
  | [] => []
  | (_, .constant _) :: rest => functionNames rest
  | (_, .function f _) :: rest => f :: functionNames rest

/-- An entry of a compiled table: the translation of its key compiled alone, renamed, with the
helpers it records alone among those of the whole table. -/
structure EntryAlone (o : CompileOptions) (H : Helpers) (kt : String × Node)
    (ke : String × Emitted) : Prop where
  key : ke.1 = kt.1
  alone : ∃ m h e f, compileTranslation {} {} o kt.2 = (m, h, .ok e) ∧ ke.2 = e.named f ∧
    ∀ x, h.Reads x → H.Reads x

/-- A table compiles from any position and record exactly when each of its translations compiles
alone. -/
theorem compileFrom_ok_iff (o : CompileOptions) (i : Nat) (tbl : List (String × Node))
    (h : Helpers) :
    (∃ r, compileFrom o i tbl h = .ok r) ↔
      ∀ kt ∈ tbl, ∃ m h' e, compileTranslation {} {} o kt.2 = (m, h', .ok e) := by
  induction tbl generalizing i h with
  | nil => simp [compileFrom]
  | cons kt rest ih =>
    obtain ⟨k, t⟩ := kt
    simp only [compileFrom, compileTranslation_renamed, List.forall_mem_cons]
    rcases hc : compileTranslation {} {} o t with ⟨m, h₀, f | e⟩
    · simp
    · -- the rest compiles after the record this translation leaves
      rw [← ih (i + 1) (h.union h₀)]
      rcases hr : compileFrom o (i + 1) rest (h.union h₀) with f | ⟨es, H⟩ <;> simp [hr, error_bind]

/-- A table compiled from position `i` holds, key by key, its translations compiled alone, each
function named by a position from `i` on, no two alike; its record of helpers holds the record it
started from. -/
theorem compileFrom_entries {o : CompileOptions} {i : Nat} {tbl : List (String × Node)}
    {h H : Helpers} {es : List (String × Emitted)} (hc : compileFrom o i tbl h = .ok (es, H)) :
    (∀ x, h.Reads x → H.Reads x) ∧ List.Forall₂ (EntryAlone o H) tbl es ∧
      (∀ f ∈ Emit.functionNames es, ∃ j, i ≤ j ∧ f = "_translation_" ++ toString j) ∧
      (Emit.functionNames es).Nodup := by
  induction tbl generalizing i h es with
  | nil =>
    simp only [compileFrom, pure_ok, Except.ok.injEq, Prod.mk.injEq] at hc
    obtain ⟨rfl, rfl⟩ := hc
    exact ⟨fun _ hx => hx, .nil, by simp [Emit.functionNames], .nil⟩
  | cons kt rest ih =>
    obtain ⟨k, t⟩ := kt
    simp only [compileFrom, compileTranslation_renamed] at hc
    rcases hct : compileTranslation {} {} o t with ⟨m, h₀, f | e⟩
    · simp [hct] at hc
    · simp only [hct, map_ok] at hc
      obtain ⟨⟨es', H'⟩, hrest, hc⟩ := bind_eq_ok hc
      simp only [pure_ok, Except.ok.injEq, Prod.mk.injEq] at hc
      obtain ⟨rfl, rfl⟩ := hc
      obtain ⟨hreads, hentries, hfrom, hnodup⟩ := ih hrest
      -- the first function is named by position `i`, the others by later positions
      have hlater : "_translation_" ++ toString i ∉ Emit.functionNames es' := by
        intro hmem
        obtain ⟨j, hj, heq⟩ := hfrom _ hmem
        have := Emit.tableName_injective heq
        omega
      refine ⟨fun x hx => hreads x (hx.union_left h₀), .cons ⟨rfl, m, h₀, e, _, hct, rfl,
        fun x hx => hreads x (hx.union_right h)⟩ hentries, ?_, ?_⟩
      · cases e with
        | constant v =>
          intro f hf
          obtain ⟨j, hj, rfl⟩ := hfrom f hf
          exact ⟨j, by omega, rfl⟩
        | function g body =>
          intro f hf
          rcases List.mem_cons.1 hf with rfl | hf
          · exact ⟨i, le_rfl, rfl⟩
          · obtain ⟨j, hj, rfl⟩ := hfrom f hf
            exact ⟨j, by omega, rfl⟩
      · cases e with
        | constant v => exact hnodup
        | function g body => exact List.nodup_cons.2 ⟨hlater, hnodup⟩

/-! ## What the helpers bind -/

namespace Emit

/-- What the definitions of the helpers that `h` records bind a name to. -/
def helperBinding (h : Helpers) (x : String) : Option Value :=
  if x = "number_text" ∧ h.numberText = true then some (topClosure numberTextDef)
  else if x = "encode_if_string" ∧ h.encodeIfString = true then
    some (topClosure encodeIfStringDef)
  else if x = "plus_op" ∧ h.plusOp = true then some (topClosure plusOpDef)
  else none

theorem topClosure_numberTextDef :
    topClosure numberTextDef = .closure "number_text" ["value"] (bodyOf numberTextDef) none := rfl

theorem topClosure_encodeIfStringDef : topClosure encodeIfStringDef =
    .closure "encode_if_string" [ctxName, "value"] (bodyOf encodeIfStringDef) none := rfl

theorem topClosure_plusOpDef : topClosure plusOpDef =
    .closure "plus_op" [ctxName, "lhs", "rhs"] (bodyOf plusOpDef) none := rfl

theorem helperBinding_of_not_mem {x : String} (hx : x ∉ helperNames) (h : Helpers) :
    helperBinding h x = none := by
  simp only [helperNames, List.mem_cons, List.not_mem_nil, or_false, not_or] at hx
  simp [helperBinding, hx.1, hx.2.1, hx.2.2]

/-- The definitions of the helpers bind each helper that `h` records to its definition, and no
other name. -/
theorem run_helperDefs_binding (h : Helpers) :
    ∃ env, (execBody [] none true defaultFuel (helperDefs h)).run [] = .ok (none, env) ∧
      ∀ x, env.lookup x = helperBinding h x := by
  obtain ⟨env, hrun, hlookup⟩ := run_helperDefs_lookup h
  refine ⟨env, hrun, fun x => ?_⟩
  -- the helpers have names of their own, so the order of the lookups does not matter
  rw [hlookup, helperBinding]
  by_cases hnt : x = "number_text"
  · subst hnt
    simp
  by_cases heis : x = "encode_if_string"
  · subst heis
    simp
  simp [hnt, heis]

/-- A name that one record lets code read has the same binding in the helpers of a record that
lets code read all it does. -/
theorem helperBinding_agree {h H : Helpers} (hH : ∀ x, h.Reads x → H.Reads x) {x : String}
    (hx : h.Reads x) : helperBinding h x = helperBinding H x := by
  by_cases hh : x ∈ helperNames
  · rcases reads_helper hx hh with ⟨rfl, hn⟩ | ⟨rfl, he⟩ | ⟨rfl, hp⟩
    · rcases reads_helper (hH _ hx) hh with ⟨-, hn'⟩ | ⟨h₁, -⟩ | ⟨h₁, -⟩
      · simp [helperBinding, hn, hn']
      all_goals simp at h₁
    · rcases reads_helper (hH _ hx) hh with ⟨h₁, -⟩ | ⟨-, he'⟩ | ⟨h₁, -⟩
      · simp at h₁
      · simp [helperBinding, he, he']
      · simp at h₁
    · rcases reads_helper (hH _ hx) hh with ⟨h₁, -⟩ | ⟨h₁, -⟩ | ⟨-, hp'⟩
      · simp at h₁
      · simp at h₁
      · simp [helperBinding, hp, hp']
  · rw [helperBinding_of_not_mem hh, helperBinding_of_not_mem hh]

/-- A helper reads only the fixed names and the helpers it calls, which a consistent record
records with it. -/
theorem helperBinding_closed {h : Helpers} (hc : h.Consistent) {x : String} {v : Value}
    (hv : helperBinding h x = some v) : v.Closed h.Reads := by
  have hnt : ∀ y ∈ bodyNames (bodyOf numberTextDef), y ∈ fixedNames := by decide
  have heis : ∀ y ∈ bodyNames (bodyOf encodeIfStringDef), y ∈ fixedNames ∨ y = "number_text" := by
    decide
  have hplus : ∀ y ∈ bodyNames (bodyOf plusOpDef), y ∈ fixedNames ∨ y = "encode_if_string" := by
    decide
  simp only [helperBinding] at hv
  split_ifs at hv with h₁ h₂ h₃ <;> cases hv
  · rw [topClosure_numberTextDef]
    exact .closure (fun y hy => .inl (hnt y hy)) (fun _ hw => nomatch hw)
  · rw [topClosure_encodeIfStringDef]
    refine .closure (fun y hy => ?_) (fun _ hw => nomatch hw)
    rcases heis y hy with hy | rfl
    · exact .inl hy
    · exact .inr (.inl ⟨rfl, hc.encodes h₂.2⟩)
  · rw [topClosure_plusOpDef]
    refine .closure (fun y hy => ?_) (fun _ hw => nomatch hw)
    rcases hplus y hy with hy | rfl
    · exact .inl hy
    · exact .inr (.inr (.inl ⟨rfl, hc.adds h₃.2⟩))

end Emit

/-! ## What the host admits -/

theorem faultInBody?_eq_none_iff {ss : List Stmt} :
    faultInBody? ss = none ↔ ∀ s ∈ ss, s.fault? = none := by
  induction ss with
  | nil => simp [faultInBody?]
  | cons s ss ih => simp [faultInBody?, ih]

theorem bodyBindsHostName_eq_false_iff {ss : List Stmt} :
    bodyBindsHostName ss = false ↔ ∀ s ∈ ss, s.bindsHostName = false := by
  induction ss with
  | nil => simp [bodyBindsHostName]
  | cons s ss ih => simp [bodyBindsHostName, ih]

/-- The host admits a module whose statements each hold no fault and bind no name of the host's. -/
theorem Program.admit_ok_iff (p : Program) :
    p.admit = .ok () ↔ ∀ s ∈ p, s.fault? = none ∧ s.bindsHostName = false := by
  simp only [imp_and, forall_and, ← faultInBody?_eq_none_iff, ← bodyBindsHostName_eq_false_iff]
  unfold Program.admit
  split <;> simp_all

theorem constantName?_of_not_mem {x : String} (hx : x ∉ constantNames) : constantName? x = none := by
  simp [constantName?, hx]

theorem helperDefs_admitted (h : Helpers) :
    ∀ s ∈ Emit.helperDefs h, s.fault? = none ∧ s.bindsHostName = false := by
  intro s hs
  simp only [Emit.helperDefs, List.mem_append] at hs
  rcases hs with (hs | hs) | hs <;> split at hs <;>
    simp only [List.mem_singleton, List.not_mem_nil] at hs <;> subst hs <;> decide

namespace Emitted

/-- The value a module binds an emitted translation to: the constant's value, or the function. -/
def value : Emitted → Value
  | .constant v => .ofDatum v
  | .function f body => .closure f params body none

/-- The host admits the code of an emitted translation: a constant that is a scalar, or a function
whose body holds no literal that is not a scalar and no variable named like a constant, and binds
no name of the host's. -/
def Admitted : Emitted → Prop
  | .constant v => constantValue? v = none
  | .function _ body => faultInBody? body = none ∧ bodyBindsHostName body = false

@[simp] theorem admitted_named (e : Emitted) (f : String) : (e.named f).Admitted ↔ e.Admitted := by
  cases e <;> exact Iff.rfl

@[simp] theorem named_named (e : Emitted) (f f' : String) : (e.named f).named f' = e.named f' := by
  cases e <;> rfl

end Emitted

/-- The host admits the module of one translation, defined under an unreserved name, exactly when
it admits the translation's own code. -/
theorem translationModule_admit_iff {name : String} (hn : Emit.Unreserved name) (e : Emitted)
    (h : Helpers) : Program.admit (Emit.translationModule (e.named name) h name) = .ok () ↔ e.Admitted := by
  rw [Program.admit_ok_iff, Emit.translationModule.eq_def, List.forall_mem_append,
    List.forall_mem_singleton, and_iff_right (helperDefs_admitted h)]
  cases e with
  | constant v =>
    simp [Emitted.named, Emitted.Admitted, Stmt.fault?, Stmt.bindsHostName, Expr.fault?,
      Expr.bindsHostName, constantName?_of_not_mem hn.2.2.1, hn.2.2.2]
  | function f body =>
    have hhost : name ≠ "__debug__" := hn.2.2.2
    simp [Emitted.named, Emitted.Admitted, Emitted.define, Emitted.params, Stmt.fault?,
      Stmt.bindsHostName, hhost, hostName, faultInBody?_eq_none_iff,
      bodyBindsHostName_eq_false_iff]

theorem faultInKeys?_eq_none_iff {es : List (Expr × Expr)} :
    faultInKeys? es = none ↔ ∀ e ∈ es, e.1.fault? = none := by
  induction es with
  | nil => simp [faultInKeys?]
  | cons e es ih => simp [faultInKeys?, ih]

theorem faultInValues?_eq_none_iff {es : List (Expr × Expr)} :
    faultInValues? es = none ↔ ∀ e ∈ es, e.2.fault? = none := by
  induction es with
  | nil => simp [faultInValues?]
  | cons e es ih => simp [faultInValues?, ih]

theorem entriesBindHostName_eq_false_iff {es : List (Expr × Expr)} :
    entriesBindHostName es = false ↔
      ∀ e ∈ es, e.1.bindsHostName = false ∧ e.2.bindsHostName = false := by
  induction es with
  | nil => simp [entriesBindHostName]
  | cons e es ih => simp [entriesBindHostName, ih, and_assoc]

theorem mem_functionDefs {es : List (String × Emitted)} {s : Stmt} :
    s ∈ Emit.functionDefs es ↔
      ∃ ke ∈ es, ∃ f body, ke.2 = .function f body ∧ s = Emitted.define f body := by
  induction es with
  | nil => simp [Emit.functionDefs]
  | cons ke es ih =>
    obtain ⟨k, e⟩ := ke
    cases e with
    | constant v => simp [Emit.functionDefs, ih]
    | function f body => simp [Emit.functionDefs, ih]

theorem mem_functionNames {es : List (String × Emitted)} {ke : String × Emitted} (hke : ke ∈ es)
    {f : String} {body : List Stmt} (hf : ke.2 = .function f body) : f ∈ Emit.functionNames es := by
  induction es with
  | nil => cases hke
  | cons ke' es ih =>
    obtain ⟨k, e⟩ := ke'
    rcases List.mem_cons.1 hke with rfl | hmem
    · cases hf
      simp [Emit.functionNames]
    · cases e <;> simp [Emit.functionNames, ih hmem]

/-- The host admits the definition of a function not named like its own name exactly when it
admits the function's code. -/
theorem define_admitted_iff {f : String} (hf : f ≠ hostName) (body : List Stmt) :
    ((Emitted.define f body).fault? = none ∧ (Emitted.define f body).bindsHostName = false) ↔
      (Emitted.function f body).Admitted := by
  have hhost : f ≠ "__debug__" := hf
  simp [Emitted.define, Emitted.params, Stmt.fault?, Stmt.bindsHostName, Emitted.Admitted, hhost,
    hostName, faultInBody?_eq_none_iff, bodyBindsHostName_eq_false_iff]

/-- The host admits the functions and the entries of keyed translations, defined under
unreserved names, exactly when it admits the code of each. -/
theorem functionDefs_admitted_iff {es : List (String × Emitted)}
    (hn : ∀ f ∈ Emit.functionNames es, Emit.Unreserved f) :
    ((∀ s ∈ Emit.functionDefs es, s.fault? = none ∧ s.bindsHostName = false) ∧
      faultInKeys? (es.map Emit.entryOf) = none ∧ faultInValues? (es.map Emit.entryOf) = none ∧
      entriesBindHostName (es.map Emit.entryOf) = false) ↔ ∀ ke ∈ es, ke.2.Admitted := by
  -- the keys are string literals, and no entry binds anything
  have hkeys : ∀ ke ∈ es, (Emit.entryOf ke).1.fault? = none := by
    rintro ⟨k, _ | _⟩ - <;> rfl
  have hbinds : ∀ ke ∈ es, (Emit.entryOf ke).1.bindsHostName = false ∧
      (Emit.entryOf ke).2.bindsHostName = false := by
    rintro ⟨k, _ | _⟩ - <;> exact ⟨rfl, rfl⟩
  simp only [faultInKeys?_eq_none_iff, faultInValues?_eq_none_iff,
    entriesBindHostName_eq_false_iff, List.forall_mem_map, mem_functionDefs]
  constructor
  · rintro ⟨hdefs, -, hvals, -⟩ ⟨k, e⟩ hke
    cases e with
    | constant v => exact hvals _ hke
    | function f body =>
      exact (define_admitted_iff (hn f (mem_functionNames hke rfl)).2.2.2 body).1
        (hdefs _ ⟨_, hke, f, body, rfl, rfl⟩)
  · intro hall
    refine ⟨?_, hkeys, fun ⟨k, e⟩ hke => ?_, hbinds⟩
    · rintro s ⟨⟨k, e⟩, hke, f, body, rfl, rfl⟩
      exact (define_admitted_iff (hn f (mem_functionNames hke rfl)).2.2.2 body).2 (hall _ hke)
    · cases e with
      | constant v => exact hall _ hke
      | function f body => exact constantName?_of_not_mem (hn f (mem_functionNames hke rfl)).2.2.1

/-- The host admits the module of a table, whose functions have unreserved names, exactly when it
admits the code of each of its translations. -/
theorem translationsModule_admit_iff {es : List (String × Emitted)}
    (hn : ∀ f ∈ Emit.functionNames es, Emit.Unreserved f) (H : Helpers) :
    Program.admit (Emit.translationsModule es H) = .ok () ↔ ∀ ke ∈ es, ke.2.Admitted := by
  rw [Program.admit_ok_iff, Emit.translationsModule, List.forall_mem_append,
    List.forall_mem_append, List.forall_mem_singleton, and_iff_right (helperDefs_admitted H),
    ← functionDefs_admitted_iff hn]
  have hname : constantName? "translations" = none := constantName?_of_not_mem (by decide)
  simp [Stmt.fault?, Stmt.bindsHostName, Expr.fault?, Expr.bindsHostName, hname, hostName, and_assoc]

/-! ## What modules bind once loaded -/

theorem builtinsName_reserved {x : String} (hx : Emit.Unreserved x) : x ≠ builtinsName :=
  fun h => hx.1 (h ▸ by decide)

/-- The module of one translation binds the helpers it records and the translation. -/
theorem run_translationModule (name : String) (e : Emitted) (h : Helpers) :
    ∃ env : Env, (∀ x, env.lookup x = Emit.helperBinding h x) ∧
      (execBody [] none true defaultFuel (Emit.translationModule (e.named name) h name)).run [] =
        .ok (none, env.bind name (e.named name).value) := by
  obtain ⟨env, hrun, hlookup⟩ := Emit.run_helperDefs_binding h
  refine ⟨env, hlookup, ?_⟩
  cases e with
  | constant v =>
    simp only [Emitted.named, Emit.translationModule, execBody_append_run hrun]
    simp [execBody, evalExpr, Emitted.value]
  | function f body =>
    -- no helper is named `__builtins__`, so the function captures the built-ins themselves
    have hbi : env.lookup builtinsName = none := by
      rw [hlookup]
      exact Emit.helperBinding_of_not_mem (by decide) h
    simp only [Emitted.named, Emit.translationModule, Emitted.define,
      execBody_append_run hrun, execBody_define, execBody_nil, hbi]
    rfl

end Lingo
