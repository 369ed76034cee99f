import Lingo.Proofs.AdmittedCode

/-!
# A table of translations runs as each translation alone

`compileTranslations` compiles the translations of a table into one module, which `loadTable`
runs; `compileTranslation`, from a fresh map and a fresh record of helpers, compiles one
translation, which `Emit.translationModule` puts in a module of its own and `loadSingle` runs. The
two agree (`table_runs_as_alone`): the table compiles exactly when each of its translations
compiles alone; a table of well-formed translations that compiles also loads, its dictionary
`translations` has the keys of the table, in order; and a call of a key gives what the call of
that translation gives in its own module, the same text or the same exception.

The module of a table defines the helpers, then the functions named by position, then the
dictionary, which binds each key to its constant or to its function (`loadTable_translationsModule`).
The function of a key reads only the fixed names and the helpers its translation records when
compiled alone, and the two modules bind those names alike (`frame_table_alone`), so the frame rule
of the interpreter makes the call run alike (`entry_runs_as_alone`). The name a function is defined
under shows only in the message of a call with the wrong number of arguments, which a translation
never receives.
-/

namespace Lingo

open Code

/-! ## Running the module of a table -/

/-- The definitions of the functions of keyed translations, run at the top of a module that does
not bind the name of the built-ins, bind each function to itself with the built-ins themselves,
and leave every other name as it was. -/
theorem run_functionDefs {es : List (String × Emitted)}
    (hn : ∀ f ∈ Emit.functionNames es, f ≠ builtinsName) {env : Env}
    (hbi : env.lookup builtinsName = none) (fuel : Nat) :
    ∃ env', (execBody [] none true fuel (Emit.functionDefs es)).run env = .ok (none, env') ∧
      (∀ x, x ∉ Emit.functionNames es → env'.lookup x = env.lookup x) ∧
      ((Emit.functionNames es).Nodup → ∀ ke ∈ es, ∀ f body, ke.2 = .function f body →
        env'.lookup f = some (.closure f Emitted.params body none)) := by
  induction es generalizing env with
  | nil =>
    refine ⟨env, execBody_nil env, fun _ _ => rfl, fun _ ke hke => absurd hke List.not_mem_nil⟩
  | cons ke rest ih =>
    obtain ⟨k, e⟩ := ke
    cases e with
    | constant v =>
      obtain ⟨env', hrun, hother, hfun⟩ := ih hn hbi
      refine ⟨env', hrun, hother, fun hnd ke hke f body hf => ?_⟩
      rcases List.mem_cons.1 hke with rfl | hke
      · cases hf
      · exact hfun hnd ke hke f body hf
    | function g body =>
      have hg : g ≠ builtinsName := hn g List.mem_cons_self
      -- the function sees the built-ins themselves, and so do the functions after it
      have hbi' : (env.bind g (.closure g Emitted.params body none)).lookup builtinsName = none := by
        rw [Env.lookup_bind_ne _ hg.symm, hbi]
      obtain ⟨env', hrun, hother, hfun⟩ := ih (fun f hf => hn f (List.mem_cons_of_mem _ hf)) hbi'
      refine ⟨env', ?_, fun x hx => ?_, fun hnd ke hke f body' hf => ?_⟩
      · simp only [Emit.functionDefs, Emitted.define]
        rw [execBody_define, if_pos rfl, hbi]
        exact hrun
      · simp only [Emit.functionNames, List.mem_cons, not_or] at hx
        rw [hother x hx.2, Env.lookup_bind_ne _ hx.1]
      · rw [Emit.functionNames, List.nodup_cons] at hnd
        rcases List.mem_cons.1 hke with rfl | hke
        · cases hf
          rw [hother g hnd.1, Env.lookup_bind_self]
        · exact hfun hnd.2 ke hke f body' hf

/-- The entries of the dictionary of a table, in a namespace that binds each function to itself,
evaluate to each key with the value of its translation. -/
theorem evalEntries_entryOf {es : List (String × Emitted)} {env : Env} (fuel : Nat)
    (hf : ∀ ke ∈ es, ∀ f body, ke.2 = .function f body →
      env.lookup f = some (.closure f Emitted.params body none)) :
    (evalEntries [] none fuel (es.map Emit.entryOf)).run env =
      .ok (es.map fun ke => (ke.1, ke.2.value), env) := by
  induction es with
  | nil =>
    simp only [List.map_nil, evalEntries]
    rfl
  | cons ke rest ih =>
    obtain ⟨k, e⟩ := ke
    have hrest := ih fun ke hke => hf ke (List.mem_cons_of_mem _ hke)
    cases e with
    | constant v =>
      simp [Emit.entryOf, evalEntries, evalExpr, Expr.str, Datum.str, Value.ofDatum, hrest,
        Emitted.value]
    | function g body =>
      have hg := hf _ List.mem_cons_self g body rfl
      simp [Emit.entryOf, evalEntries, evalExpr, Expr.str, Datum.str, Value.ofDatum, hrest, hg,
        Emitted.value]

/-- An assignment of a dictionary binds the dictionary of its evaluated entries. -/
theorem run_assign_dict {env : Env} {entries : List (Expr × Expr)} {r : List (String × Value)}
    {fuel : Nat} (h : (evalEntries [] none fuel entries).run env = .ok (r, env)) (x : String) :
    (execBody [] none true fuel [.assign x (.dict entries)]).run env =
      .ok (none, env.bind x (.dict (keyed r))) := by
  simp only [execBody, evalExpr, bind_assoc, StateT.run_bind, h]
  rfl

/-- A module the host admits loads as the namespace its run leaves. -/
theorem load_eq {p : Program} (hadm : p.admit = .ok ()) {r : Option Value} {ns : Env}
    (hrun : (execBody [] none true defaultFuel p).run [] = .ok (r, ns)) : load p = .ok ns := by
  simp only [load, hadm, ok_bind, hrun]
  rfl

/-- The module of a table whose functions have unreserved names, each once, whose keys are given
once and whose code the host admits, loads: its dictionary binds each key to the value of its
translation, and it binds every other name that no function takes to what the helpers bind. -/
theorem loadTable_translationsModule {es : List (String × Emitted)} {H : Helpers}
    (hn : ∀ f ∈ Emit.functionNames es, Emit.Unreserved f) (hnodup : (Emit.functionNames es).Nodup)
    (hkeys : (es.map (·.1)).Nodup) (hadm : ∀ ke ∈ es, ke.2.Admitted) :
    ∃ g : Env, loadTable (Emit.translationsModule es H) =
        .ok ⟨g, es.map fun ke => (ke.1, ke.2.value)⟩ ∧
      ∀ x, x ∉ Emit.functionNames es → x ≠ "translations" → g.lookup x = Emit.helperBinding H x := by
  obtain ⟨env₀, hrun₀, hlookup₀⟩ := Emit.run_helperDefs_binding H
  have hbi : env₀.lookup builtinsName = none := by
    rw [hlookup₀]
    exact Emit.helperBinding_of_not_mem (by decide) H
  obtain ⟨env₁, hrun₁, hother, hfun⟩ :=
    run_functionDefs (fun f hf => builtinsName_reserved (hn f hf)) hbi defaultFuel
  -- the keys are given once, so the dictionary keeps every entry in place
  have hkeyed : keyed (es.map fun ke => (ke.1, ke.2.value)) = es.map fun ke => (ke.1, ke.2.value) :=
    keyed_of_nodup (by simpa [List.map_map, Function.comp_def] using hkeys)
  have hrun : (execBody [] none true defaultFuel (Emit.translationsModule es H)).run [] =
      .ok (none, env₁.bind "translations" (.dict (es.map fun ke => (ke.1, ke.2.value)))) := by
    rw [Emit.translationsModule, List.append_assoc, execBody_append_run hrun₀,
      execBody_append_run hrun₁, run_assign_dict (evalEntries_entryOf defaultFuel (hfun hnodup)),
      hkeyed]
  have hload := load_eq ((translationsModule_admit_iff hn H).2 hadm) hrun
  refine ⟨env₁.bind "translations" (.dict (es.map fun ke => (ke.1, ke.2.value))), ?_,
    fun x hx hne => ?_⟩
  · simp only [loadTable, hload, ok_bind, Env.lookup_bind_self]
    rfl
  · rw [Env.lookup_bind_ne _ hne, hother x hx, hlookup₀]

/-- The module of one translation, defined under an unreserved name, whose code the host admits,
loads: it offers the translation under its name, and binds every other name to what the helpers
bind. -/
theorem loadSingle_translationModule {name : String} (hn : Emit.Unreserved name) {e : Emitted}
    (hadm : e.Admitted) (h : Helpers) :
    ∃ g : Env, loadSingle (Emit.translationModule (e.named name) h name) name =
        .ok ⟨g, [(name, (e.named name).value)]⟩ ∧
      ∀ x, x ≠ name → g.lookup x = Emit.helperBinding h x := by
  obtain ⟨env, hlookup, hrun⟩ := run_translationModule name e h
  have hload := load_eq ((translationModule_admit_iff hn e h).2 hadm) hrun
  refine ⟨env.bind name (e.named name).value, ?_, fun x hx => ?_⟩
  · simp only [loadSingle, hload, ok_bind, Env.lookup_bind_self]
    rfl
  · rw [Env.lookup_bind_ne _ hx, hlookup]

/-! ## Calls in two modules -/

/-- A name code may read is a fixed name or a helper. -/
theorem Helpers.Reads.mem {h : Helpers} {x : String} (hx : h.Reads x) :
    x ∈ Emit.fixedNames ∨ x ∈ helperNames := by
  rcases hx with hx | ⟨rfl, -⟩ | ⟨rfl, -⟩ | ⟨rfl, -⟩
  · exact .inl hx
  all_goals exact .inr (by decide)

/-- A name code may read is no unreserved name. -/
theorem Helpers.Reads.ne_of_unreserved {h : Helpers} {x f : String} (hx : h.Reads x)
    (hf : Emit.Unreserved f) : x ≠ f := by
  rintro rfl
  rcases hx.mem with hx | hx
  · exact hf.1 hx
  · exact hf.2.1 hx

/-- The namespaces of a table and of one of its translations alone frame each other for the names
the translation's code may read: both bind each to what the helpers of their own records bind,
and the table's record holds all the translation's does. -/
theorem frame_table_alone {h H : Helpers} (hc : h.Consistent) (hH : ∀ x, h.Reads x → H.Reads x)
    {g₁ g₂ : Env} (hg₁ : ∀ x, h.Reads x → g₁.lookup x = Emit.helperBinding H x)
    (hg₂ : ∀ x, h.Reads x → g₂.lookup x = Emit.helperBinding h x) : Frame h.Reads g₁ g₂ where
  agree x hx := by rw [hg₁ x hx, hg₂ x hx, Emit.helperBinding_agree hH hx]
  closed x v hx hv := by
    rw [hg₁ x hx, ← Emit.helperBinding_agree hH hx] at hv
    exact Emit.helperBinding_closed hc hv
  builtins := .inl (by decide)

/-- A call of a key under which the table holds text encodes the text. -/
theorem translate_str {g : Env} {t : List (String × Value)} {k s : String}
    (ht : (t.find? (·.1 == k)).map (·.2) = some (.str s)) (params fns : Value) (q : Bool) :
    translate g t k params fns q = pure (.str (htmlEscape q s)) := by
  simp only [Code.translate, ht, Value.str]

/-- A call of a key under which the table holds anything but text calls it with the parameters,
the host functions and the output context. -/
theorem translate_call {g : Env} {t : List (String × Value)} {k : String} {v : Value}
    (ht : (t.find? (·.1 == k)).map (·.2) = some v) (hv : ∀ s, v ≠ .str s) (params fns : Value)
    (q : Bool) : translate g t k params fns q = apply g defaultFuel v [params, fns, .context q] := by
  simp only [Code.translate, ht]
  split
  · next _ h => cases h
  · next _ s h => exact absurd (Option.some.inj h) (hv s)
  · next _ tr _ h => rw [Option.some.inj h]

/-- A function given as many arguments as it has parameters runs alike under any name: its name
shows only in the message of a call with the wrong number of arguments. -/
theorem apply_closure_renamed (g : Env) (fuel : Nat) (f f' : String) {ps : List String}
    (body : List Stmt) (cap : Option Value) {args : List Value} (hlen : args.length = ps.length) :
    apply g fuel (.closure f ps body cap) args = apply g fuel (.closure f' ps body cap) args := by
  cases fuel with
  | zero => simp only [apply]
  | succ fuel => simp only [apply, bindParams, hlen, lt_irrefl, if_false]

/-- A call of a key gives the same outcome in two namespaces that frame each other, when the two
tables hold one emitted translation under the key, each defined under a name of its own, whose
value is closed, and the parameters and host functions are closed. -/
theorem translate_alike {S : String → Prop} {g₁ g₂ : Env} (hF : Frame S g₁ g₂)
    {t₁ t₂ : List (String × Value)} {k₁ k₂ : String} {e : Emitted} {f₁ f₂ : String}
    (h₁ : (t₁.find? (·.1 == k₁)).map (·.2) = some (e.named f₁).value)
    (h₂ : (t₂.find? (·.1 == k₂)).map (·.2) = some (e.named f₂).value)
    (he : (e.named f₂).value.Closed S) {params fns : Value} (hp : params.Closed S)
    (hf : fns.Closed S) (q : Bool) :
    translate g₁ t₁ k₁ params fns q = translate g₂ t₂ k₂ params fns q := by
  have hargs : ∀ a ∈ [params, fns, .context q], a.Closed S := by
    simp [hp, hf]
  cases e with
  | constant d =>
    simp only [Emitted.named, Emitted.value] at h₁ h₂ he
    by_cases hstr : ∃ s, Value.ofDatum d = .str s
    · obtain ⟨s, hs⟩ := hstr
      rw [hs] at h₁ h₂
      rw [translate_str h₁, translate_str h₂]
    · simp only [not_exists] at hstr
      rw [translate_call h₁ hstr, translate_call h₂ hstr]
      exact ((frame_runs_alike hF).2.1 defaultFuel _ _ he hargs).1
  | function name body =>
    simp only [Emitted.named, Emitted.value] at h₁ h₂ he
    have hfun : ∀ f s, Value.closure f Emitted.params body none ≠ Value.str s := by
      intro f s h
      cases h
    rw [translate_call h₁ (hfun f₁), translate_call h₂ (hfun f₂),
      apply_closure_renamed g₁ defaultFuel f₁ f₂ body none rfl]
    exact ((frame_runs_alike hF).2.1 defaultFuel _ _ he hargs).1

/-! ## The table and its translations alone -/

/-- A call whose parameters and host functions are values a host passes in: data and functions of
the host, no function of a module among them. -/
def Code.Call.Hosted (c : Call) : Prop := ∀ e ∈ c.params ++ c.functions, e.2.Closed fun _ => False

theorem Code.Call.Hosted.closed {c : Call} (hc : c.Hosted) (S : String → Prop) :
    (Value.dict c.params).Closed S ∧ (Value.dict c.functions).Closed S := by
  have hS : ∀ e ∈ c.params ++ c.functions, e.2.Closed S := fun e he =>
    (hc e he).mono fun _ h => h.elim
  rw [List.forall_mem_append] at hS
  exact ⟨.dict hS.1, .dict hS.2⟩

/-- A translation compiles alone under any name exactly as it does under the options' own,
renamed. -/
theorem compileTranslation_alone_renamed (o : CompileOptions) (name : String) (t : Node) :
    compileTranslation {} {} { o with name := name } t =
      ((compileTranslation {} {} o t).1, (compileTranslation {} {} o t).2.1,
        (·.named name) <$> (compileTranslation {} {} o t).2.2) := by
  rw [compileTranslation_renamed, Helpers.empty_union]

/-- A table compiles exactly when each of its translations compiles alone under the default
name. -/
theorem compileTranslations_ok_iff (o : CompileOptions) (tbl : List (String × Node)) :
    (∃ p, compileTranslations o tbl = .ok p) ↔
      ∀ kt ∈ keyed tbl, ∃ m h e,
        compileTranslation {} {} { o with name := "translation" } kt.2 = (m, h, .ok e) := by
  have halone : ∀ t : Node, (∃ m h e, compileTranslation {} {} o t = (m, h, .ok e)) ↔
      ∃ m h e, compileTranslation {} {} { o with name := "translation" } t = (m, h, .ok e) := by
    intro t
    rw [compileTranslation_alone_renamed o "translation" t]
    rcases compileTranslation {} {} o t with ⟨m, h, _ | e⟩ <;> simp
  simp only [← halone, ← compileFrom_ok_iff o 0 (keyed tbl) {}]
  constructor
  · rintro ⟨p, hp⟩
    obtain ⟨r, hr, -⟩ := bind_eq_ok hp
    exact ⟨r, hr⟩
  · rintro ⟨⟨es, H⟩, hr⟩
    exact ⟨Emit.translationsModule es H, by simp only [compileTranslations, hr, ok_bind]; rfl⟩

/-- The entries of a compiled table have the keys of the table, in order. -/
theorem EntryAlone.keys {o : CompileOptions} {H : Helpers} {tbl : List (String × Node)}
    {es : List (String × Emitted)} (h : List.Forall₂ (EntryAlone o H) tbl es) :
    es.map (·.1) = tbl.map (·.1) := by
  induction h with
  | nil => rfl
  | cons hke _ ih => simp [hke.key, ih]

/-- The value of a translation compiled alone reads only the names its record of helpers lets it
read. -/
theorem compileTranslation_value_closed {o : CompileOptions} {t : Node} {m : TypeMap} {h : Helpers}
    {e : Emitted} (hc : compileTranslation {} {} o t = (m, h, .ok e)) (name : String) :
    (e.named name).value.Closed h.Reads := by
  obtain ⟨typed, -, -, hemit⟩ := compileTranslation_emits hc
  cases e with
  | constant d => exact Value.closed_ofDatum d
  | function f body =>
    exact .closure (Emit.translation_reads hemit) fun _ hw => absurd hw.symm (Option.some_ne_none _)

/-- A translation compiled alone leaves a record in which each helper comes with those it calls. -/
theorem compileTranslation_consistent {o : CompileOptions} {t : Node} {m : TypeMap} {h : Helpers}
    {e : Emitted} (hc : compileTranslation {} {} o t = (m, h, .ok e)) : h.Consistent := by
  obtain ⟨typed, -, -, hemit⟩ := compileTranslation_emits hc
  have hcons := (Emit.translation_adds m o.name typed).consistent
  rwa [hemit] at hcons

/-- The functions of a compiled table are named by position, so no name of them is reserved. -/
theorem compileFrom_unreserved {es : List (String × Emitted)} {i : Nat}
    (hnames : ∀ f ∈ Emit.functionNames es, ∃ j, i ≤ j ∧ f = "_translation_" ++ toString j) :
    ∀ f ∈ Emit.functionNames es, Emit.Unreserved f := by
  intro f hf
  obtain ⟨j, -, rfl⟩ := hnames f hf
  exact Emit.unreserved_tableName j

/-- An entry of a table of well-formed translations, compiled with declared signatures that no
safe text names, is code the host admits. -/
theorem EntryAlone.admitted {o : CompileOptions} {H : Helpers} {kt : String × Node}
    {ke : String × Emitted} (hentry : EntryAlone o H kt ke) (ht : kt.2.IsTranslation)
    (hsigs : ∀ q ∈ o.signatures, ∀ x, q.1 ≠ .safe x) : ke.2.Admitted := by
  obtain ⟨m, h, e, f, hc, he, -⟩ := hentry.alone
  rw [he, Emitted.admitted_named]
  exact compileTranslation_admitted ht TypeMap.scalarNames_empty hsigs hc

/-- The module of a table of well-formed translations with keys given once loads: its dictionary
holds each entry's value under its key, and every name that neither a function nor the dictionary
takes is bound as the helpers of the table bind it. -/
theorem compileFrom_loads {o : CompileOptions} {tbl : List (String × Node)}
    {es : List (String × Emitted)} {H : Helpers} (hwf : ∀ kt ∈ tbl, kt.2.IsTranslation)
    (hsigs : ∀ q ∈ o.signatures, ∀ x, q.1 ≠ .safe x) (hkeys : (tbl.map (·.1)).Nodup)
    (hfrom : compileFrom o 0 tbl {} = .ok (es, H)) :
    ∃ g, loadTable (Emit.translationsModule es H) = .ok ⟨g, es.map fun ke => (ke.1, ke.2.value)⟩ ∧
      ∀ x, x ∉ Emit.functionNames es → x ≠ "translations" → g.lookup x = Emit.helperBinding H x := by
  obtain ⟨-, hentries, hnames, hnodup⟩ := compileFrom_entries hfrom
  have hadm : ∀ ke ∈ es, ke.2.Admitted := by
    intro ke hke
    obtain ⟨kt, hkt, hentry⟩ := Node.exists_of_forall₂_left hentries.flip hke
    exact EntryAlone.admitted hentry (hwf kt hkt) hsigs
  exact loadTable_translationsModule (compileFrom_unreserved hnames) hnodup
    (EntryAlone.keys hentries ▸ hkeys) hadm

/-- The dictionary of entries with keys given once holds each entry's value under its key. -/
theorem find?_entries_value {es : List (String × Emitted)} (hkeys : (es.map (·.1)).Nodup)
    {ke : String × Emitted} (hke : ke ∈ es) :
    ((es.map fun ke => (ke.1, ke.2.value)).find? (·.1 == ke.1)).map (·.2) = some ke.2.value := by
  have hmem : (ke.1, ke.2.value) ∈ es.map fun ke => (ke.1, ke.2.value) := List.mem_map_of_mem hke
  have hnd : ((es.map fun ke => (ke.1, ke.2.value)).map (·.1)).Nodup := by
    simpa [Function.comp_def] using hkeys
  rw [find?_of_nodup hnd hmem, Option.map_some]

/-- A call of a key of a compiled table gives what the call of the key's translation gives in a
module of its own, when the table's namespace binds the helpers of the table to every name that
no function of it takes, and the call passes only values of the host. -/
theorem entry_runs_as_alone {o : CompileOptions} {H : Helpers} {kt : String × Node}
    {es : List (String × Emitted)} {ke : String × Emitted} (hentry : EntryAlone o H kt ke)
    (hke : ke ∈ es) (hkeys : (es.map (·.1)).Nodup)
    (hunreserved : ∀ f ∈ Emit.functionNames es, Emit.Unreserved f) {g₁ : Env}
    (hg₁ : ∀ x, x ∉ Emit.functionNames es → x ≠ "translations" →
      g₁.lookup x = Emit.helperBinding H x)
    (ht : kt.2.IsTranslation) (hsigs : ∀ q ∈ o.signatures, ∀ x, q.1 ≠ .safe x)
    {m : TypeMap} {h : Helpers} {e : Emitted}
    (hc : compileTranslation {} {} { o with name := "translation" } kt.2 = (m, h, .ok e)) :
    ∃ l₁, loadSingle (Emit.translationModule e h "translation") "translation" = .ok l₁ ∧
      ∀ c : Call, c.key = kt.1 → c.Hosted →
        c.run ⟨g₁, es.map fun ke => (ke.1, ke.2.value)⟩ = { c with key := "translation" }.run l₁ := by
  obtain ⟨m₀, h₀, e₀, f, hc₀, he₀, hreads⟩ := hentry.alone
  -- compiled alone under the default name, the translation is the entry's, renamed
  rw [compileTranslation_alone_renamed o "translation" kt.2, hc₀] at hc
  simp only [map_ok, Prod.mk.injEq, Except.ok.injEq] at hc
  obtain ⟨rfl, rfl, rfl⟩ := hc
  have hadm₀ : e₀.Admitted := compileTranslation_admitted ht TypeMap.scalarNames_empty hsigs hc₀
  obtain ⟨g₂, hload₁, hg₂⟩ :=
    loadSingle_translationModule (show Emit.Unreserved "translation" by decide) hadm₀ h₀
  refine ⟨_, hload₁, fun c hkey hhost => ?_⟩
  -- the two namespaces bind alike the names the translation's code reads
  have hF : Frame h₀.Reads g₁ g₂ := by
    refine frame_table_alone (compileTranslation_consistent hc₀) hreads (fun x hx => ?_)
      (fun x hx => hg₂ x (hx.ne_of_unreserved (by decide)))
    refine hg₁ x (fun hmem => hx.ne_of_unreserved (hunreserved x hmem) rfl) ?_
    rintro rfl
    rcases hx.mem with hx | hx <;> revert hx <;> decide
  have hfind : ((es.map fun ke => (ke.1, ke.2.value)).find? (·.1 == c.key)).map (·.2) =
      some (e₀.named f).value := by
    rw [hkey, ← hentry.key, find?_entries_value hkeys hke, he₀]
  obtain ⟨hparams, hfns⟩ := hhost.closed h₀.Reads
  exact translate_alike hF hfind (by simp) (compileTranslation_value_closed hc₀ "translation")
    hparams hfns c.quote

/-- Translations compiled together run as each does alone. For a table of well-formed
translations, compiled with any checks and any declared signatures that no safe text names, the
table compiles exactly when each of its translations compiles alone from a fresh map and a fresh
record of helpers. When it compiles, its module loads, its dictionary has the keys of the table in
order, and for every key the module of that translation alone loads too; every call of the key
with parameters and host functions that a host passes in gives, against the table, the same text
or the same exception as the call of the translation in its own module. -/
theorem table_runs_as_alone (o : CompileOptions) (tbl : List (String × Node))
    (hwf : ∀ kt ∈ keyed tbl, kt.2.IsTranslation) (hsigs : ∀ q ∈ o.signatures, ∀ x, q.1 ≠ .safe x) :
    ((∃ p, compileTranslations o tbl = .ok p) ↔
      ∀ kt ∈ keyed tbl, ∃ m h e,
        compileTranslation {} {} { o with name := "translation" } kt.2 = (m, h, .ok e)) ∧
    ∀ p, compileTranslations o tbl = .ok p →
      ∃ l, loadTable p = .ok l ∧ l.table.map (·.1) = (keyed tbl).map (·.1) ∧
        ∀ kt ∈ keyed tbl, ∀ m h e,
          compileTranslation {} {} { o with name := "translation" } kt.2 = (m, h, .ok e) →
          ∃ l₁, loadSingle (Emit.translationModule e h "translation") "translation" = .ok l₁ ∧
            ∀ c : Call, c.key = kt.1 → c.Hosted →
              c.run l = { c with key := "translation" }.run l₁ := by
  refine ⟨compileTranslations_ok_iff o tbl, fun p hp => ?_⟩
  obtain ⟨⟨es, H⟩, hfrom, hp⟩ := bind_eq_ok hp
  simp only [pure_ok, Except.ok.injEq] at hp
  subst hp
  obtain ⟨-, hentries, hnames, -⟩ := compileFrom_entries hfrom
  have hkeys := EntryAlone.keys hentries
  obtain ⟨g₁, hload, hg₁⟩ := compileFrom_loads hwf hsigs (keyed_nodup tbl) hfrom
  refine ⟨_, hload, by simpa [Function.comp_def] using hkeys, fun kt hkt m h e hc => ?_⟩
  -- each key is an entry of the table, compiled alone
  obtain ⟨ke, hke, hentry⟩ := Node.exists_of_forall₂_left hentries hkt
  exact entry_runs_as_alone hentry hke (hkeys ▸ keyed_nodup tbl) (compileFrom_unreserved hnames)
    hg₁ (hwf kt hkt) hsigs hc

/-- A table of three translations: a greeting with a variable, a sum of two variables and a
title of literal text. -/
def greetingTable : List (String × Node) :=
  [("greeting", .mk .textRoot {}
      [.mk .literal { value := .str "Hello " } [], .mk .textVar { name := .str "name" } []]),
    ("sum", .mk .textRoot {} [.mk .textExpr {}
      [.mk .add {} [.mk .var { name := .str "a" } [], .mk .var { name := .str "b" } []]]]),
    ("title", .mk .textRoot {} [.mk .literal { value := .str "Tom & Jerry" } []])]

/-- The greeting table, compiled with the default options, runs as each translation alone. -/
theorem table_runs_as_alone_greeting :
    (∀ kt ∈ keyed greetingTable, kt.2.IsTranslation) ∧
    (∀ q ∈ ({} : CompileOptions).signatures, ∀ x, q.1 ≠ .safe x) ∧
    (((∃ p, compileTranslations {} greetingTable = .ok p) ↔
      ∀ kt ∈ keyed greetingTable, ∃ m h e,
        compileTranslation {} {} { name := "translation" } kt.2 = (m, h, .ok e)) ∧
    ∀ p, compileTranslations {} greetingTable = .ok p →
      ∃ l, loadTable p = .ok l ∧ l.table.map (·.1) = (keyed greetingTable).map (·.1) ∧
        ∀ kt ∈ keyed greetingTable, ∀ m h e,
          compileTranslation {} {} { name := "translation" } kt.2 = (m, h, .ok e) →
          ∃ l₁, loadSingle (Emit.translationModule e h "translation") "translation" = .ok l₁ ∧
            ∀ c : Call, c.key = kt.1 → c.Hosted →
              c.run l = { c with key := "translation" }.run l₁) := by
  have hwf : ∀ kt ∈ greetingTable, kt.2.IsTranslation := by
    simp only [greetingTable, List.mem_cons, List.not_mem_nil, or_false, forall_eq_or_imp,
      forall_eq]
    refine ⟨.text fun t ht => ?_, .text fun t ht => ?_, .text fun t ht => ?_⟩
    · simp only [List.mem_cons, List.not_mem_nil, or_false] at ht
      rcases ht with rfl | rfl
      · exact .literal rfl
      · exact .textVar rfl
    · rw [List.mem_singleton.1 ht]
      exact .textExpr (.binary rfl (.var rfl) (.var rfl))
    · rw [List.mem_singleton.1 ht]
      exact .literal rfl
  have hwf' : ∀ kt ∈ keyed greetingTable, kt.2.IsTranslation :=
    keyed_forall (P := Node.IsTranslation) hwf
  have hsigs : ∀ q ∈ ({} : CompileOptions).signatures, ∀ x, q.1 ≠ .safe x :=
    List.forall_mem_nil _
  exact ⟨hwf', hsigs, table_runs_as_alone {} greetingTable hwf' hsigs⟩

end Lingo
