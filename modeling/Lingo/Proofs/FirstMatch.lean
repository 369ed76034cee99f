import Lingo.Proofs.Calling
import Lingo.Proofs.RuleChain
import Lingo.Proofs.SharedInference

/-!
# Compiled rule sets choose the first matching rule

A rule set compiled into a function and called with parameters that pass its guards returns the
text of the first rule whose constraints all hold, and raises the `ValueError` of no match when no
rule's constraints hold; the raise is emitted only when no rule catches every parameter set.
`compiled_rules_choose_first_match` puts this together from the passes keeping each rule's tests
(`TypeMap.analyze_ruleSet`), the statements emission makes of the rules, and how they run.

The tests read the parameters directly, so they need the map to give every tested variable a
type, and a number to every variable a rule orders. Inference into a map that is not frozen sees to
that (`TypeMap.analyze_typesTests`); a map frozen beforehand must already do so. The function's
name must not be `ValueError`, which the closing raise calls, nor one of the built-ins the guards
call.
-/

namespace Lingo

open Code

namespace TypeMap

/-- The map gives a type to every variable that a rule of `rs` tests, and a number, or the error
type that no parameter passes, to every variable a rule orders. -/
def TypesTests (m : TypeMap) (rs : List Node) : Prop :=
  ∀ r ∈ rs, ∀ c ∈ r.constraints, c.kind ≠ .ignore →
    ∃ t, m.typeOf? c.testedVar = some t ∧ (c.kind = .inequality → t = .number ∨ t = .error)

end TypeMap

namespace Node

/-- Inference records one use for a constraint: of its variable, a number for an ordering. -/
theorem IsConstraint.uses_eq {c : Node} (hc : c.IsConstraint) (sig : Datum → Option (List Ty))
    (expected : Option Ty) :
    ∃ t, c.uses sig expected = [(c.testedVar, t)] ∧ (c.kind = .inequality → t = .number) := by
  cases hc with
  | ignore hx =>
    obtain ⟨xf, s, rfl, -⟩ := hx
    exact ⟨_, rfl, fun h => nomatch h⟩
  | equality => exact ⟨_, rfl, fun h => nomatch h⟩
  | inequality _ _ _ hv =>
    subst hv
    exact ⟨_, rfl, fun _ => rfl⟩

theorem IsConstraint.testedVar_str {c : Node} (hc : c.IsConstraint) : ∃ s, c.testedVar = .str s := by
  cases hc with
  | ignore hx | equality _ _ hx | inequality _ _ hx =>
    obtain ⟨xf, s, rfl, hs⟩ := hx
    exact ⟨s, hs⟩

theorem IsRule.isConstraint {r c : Node} (hr : r.IsRule) (hc : c ∈ r.constraints) : c.IsConstraint := by
  obtain @⟨f, cf, tf, cs, ts, hcs, -⟩ := hr
  exact hcs c hc

theorem IsRule.emitsAsRule {r : Node} (hr : r.IsRule) : r.EmitsAsRule := by
  obtain @⟨f, cf, tf, cs, ts, hcs, -⟩ := hr
  exact ⟨f, cf, cs, _, rfl, hcs⟩

/-- Every constraint of every rule of a well-formed rule set records a use of its variable, a
number for an ordering. -/
theorem mem_uses_of_constraint {f : Fields} {rs : List Node} (hrs : ∀ r ∈ rs, r.IsRule)
    (sig : Datum → Option (List Ty)) {r c : Node} (hr : r ∈ rs) (hc : c ∈ r.constraints) :
    ∃ t, (c.testedVar, t) ∈ (Node.mk .ruleSet f rs).uses sig none ∧
      (c.kind = .inequality → t = .number) := by
  obtain @⟨fr, cf, tf, cs, ts, hcs, -⟩ := hrs r hr
  have hc' : c ∈ cs := hc
  obtain ⟨t, huse, ht⟩ := (hcs c hc').uses_eq sig none
  refine ⟨t, ?_, ht⟩
  simp only [Node.uses, usesAll_eq_flatMap, List.mem_flatMap]
  refine ⟨_, hr, ?_⟩
  simp only [Node.uses, Node.usesAll, usesAll_eq_flatMap, List.append_nil, List.mem_append,
    List.mem_flatMap]
  exact .inl ⟨c, hc', by rw [huse]; exact List.mem_singleton_self _⟩

end Node

namespace TypeMap

/-- After a walk over a well-formed rule set from a consistent map, the map gives every tested
variable a type, and every ordered one a number or the error type. -/
theorem typesTests_of_records {m₁ m₂ : TypeMap} {f : Fields} {rs : List Node}
    (hc : m₁.Consistent) (hrs : ∀ r ∈ rs, r.IsRule)
    (hrec : m₁.Records ((Node.mk .ruleSet f rs).uses m₁.signature none) m₂) : m₂.TypesTests rs := by
  intro r hr c hcr _
  obtain ⟨t, hmem, ht⟩ := Node.mem_uses_of_constraint hrs m₁.signature hr hcr
  -- the variable is named by a string, which has the same value as itself
  have hself : Datum.sameValue c.testedVar c.testedVar = true := by
    obtain ⟨s, hs⟩ := ((hrs r hr).isConstraint hcr).testedVar_str
    rw [hs]
    exact (Datum.sameValue_str_right _ _).2 rfl
  have huse : t ∈ usesOf c.testedVar ((Node.mk .ruleSet f rs).uses m₁.signature none) :=
    List.mem_map.2 ⟨_, List.mem_filter.2 ⟨hmem, hself⟩, rfl⟩
  have hused : ((Node.mk .ruleSet f rs).uses m₁.signature none).any
      (fun p => Datum.sameValue c.testedVar p.1) = true :=
    List.any_eq_true.2 ⟨_, hmem, hself⟩
  rw [hrec.typeOf? hc, typeAfter, hused, Bool.or_true, if_pos rfl]
  refine ⟨_, rfl, fun hk => Ty.join_cases_of_number_mem ?_⟩
  rw [← ht hk]
  exact List.mem_append_right _ huse

/-- Analysis leaves a map that types the tests of a well-formed rule set: by inference into a
consistent map that is not frozen, or because a frozen map already did. -/
theorem analyze_typesTests {m m' : TypeMap} {sigs : List (Datum × List Datum)} {f : Fields}
    {rs : List Node} {typed : Node} (ht : (Node.mk .ruleSet f rs).IsTranslation)
    (htyped : (m.frozen = false ∧ m.Consistent) ∨ (m.frozen = true ∧ m.TypesTests rs))
    (h : m.analyze sigs (.mk .ruleSet f rs) = (m', .ok typed)) : m'.TypesTests rs := by
  have hrs : ∀ r ∈ rs, r.IsRule := by
    cases ht
    assumption
  rcases analyze_map ht h with ⟨hf, rfl⟩ | ⟨m₁, m₂, hf, hv₁, hrec, rfl⟩
  · rcases htyped with ⟨hf', -⟩ | ⟨-, htt⟩
    · rw [hf] at hf'
      cases hf'
    · exact htt
  · rcases htyped with ⟨-, hc⟩ | ⟨hf', -⟩
    · -- the signatures leave the variables as they were, and freezing keeps the types
      have htt := typesTests_of_records (fun e he => hc e (hv₁ ▸ he)) hrs hrec
      exact htt
    · rw [hf] at hf'
      cases hf'

/-- The guards pass only parameters in the domain of each variable's type. -/
theorem guardFailure_admits {m : TypeMap} {ps fs : List (String × Value)} {s : String} {t : Ty}
    (hg : m.guardFailure ps fs = none) (ht : m.typeOf? (.str s) = some t) :
    t.admits (paramOf ps (.str s)) = true := by
  unfold guardFailure at hg
  split at hg
  · cases hg
  · next hfind =>
    have hall := List.find?_eq_none.1 hfind
    simp only [typeOf?, info?, Option.map_map, Option.map_eq_some_iff] at ht
    obtain ⟨e, he, rfl⟩ := ht
    have hsame := List.find?_some he
    have hname := (Datum.sameValue_str_right _ _).1 hsame
    have hadmits := hall e (List.mem_of_find?_eq_some he)
    rw [hname] at hadmits
    simpa using hadmits

/-- Parameters that pass the guards of a map typing the tests of well-formed rules give what the
rules test, and numbers where they order. -/
theorem TypesTests.testableBy {m : TypeMap} {rs : List Node} (htt : m.TypesTests rs)
    (hrs : ∀ r ∈ rs, r.IsRule) {ps fs : List (String × Value)} (hg : m.guardFailure ps fs = none) :
    ∀ r ∈ rs, r.TestableBy ps := by
  intro r hr c hc hk
  obtain ⟨t, ht, hnum⟩ := htt r hr c hc hk
  obtain ⟨s, hs⟩ := ((hrs r hr).isConstraint hc).testedVar_str
  rw [hs] at ht ⊢
  have hadmits := guardFailure_admits hg ht
  -- every type asks for a given parameter, and the error type for none at all
  cases hp : paramOf ps (.str s) with
  | none => cases t <;> simp [Ty.admits, hp] at hadmits
  | some w =>
    refine ⟨w, rfl, fun hi => ?_⟩
    rcases hnum hi with rfl | rfl
    · simpa [Ty.admits, hp] using hadmits
    · simp [Ty.admits] at hadmits

end TypeMap

namespace Node

theorem holdsFor_of_ignore {c : Node} (hc : c.kind = .ignore) (ps : List (String × Value)) :
    c.holdsFor ps = true := by
  obtain ⟨k, f, cs⟩ := c
  simp only [Node.kind] at hc
  subst hc
  rfl

/-- A rule that catches every parameter set is chosen for every one. -/
theorem ruleHolds_of_catchesAll {r : Node} (hr : r.catchesAll = true) (ps : List (String × Value)) :
    r.ruleHolds ps = true := by
  obtain ⟨k, f, cs⟩ := r
  cases cs with
  | nil => simp [catchesAll, Node.children] at hr
  | cons c rest =>
    simp only [catchesAll, ruleHolds, Node.children, isCatchAll, List.all_eq_true,
      decide_eq_true_eq] at hr ⊢
    exact fun d hd => holdsFor_of_ignore (hr d hd) ps

/-- Rules are tried first to last, so no rule after one that catches every parameter set is ever
chosen. -/
theorem findIdx?_le_of_catchesAll {rs : List Node} {j : Nat} (hj : j < rs.length)
    (hc : rs[j].catchesAll = true) (ps : List (String × Value)) :
    ∃ k ≤ j, rs.findIdx? (ruleHolds ps) = some k := by
  have hholds : rs[j].ruleHolds ps = true := ruleHolds_of_catchesAll hc ps
  refine ⟨rs.findIdx (ruleHolds ps), ?_,
    List.findIdx?_eq_some_of_exists ⟨_, List.getElem_mem hj, hholds⟩⟩
  refine Nat.le_of_not_lt fun hlt => ?_
  have hskipped := List.not_of_lt_findIdx hlt
  rw [hholds] at hskipped
  cases hskipped

/-- A rule that tests what `r` tests asks for the parameters `r` asks for. -/
theorem RuleTestsAs.testableBy {r' r : Node} (h : RuleTestsAs r' r) {ps : List (String × Value)}
    (hr : r.TestableBy ps) : r'.TestableBy ps := by
  obtain ⟨f', c', t', rfl, f, c, t, rfl, -, hcs⟩ := h
  intro d hd hk
  obtain ⟨e, he, hde⟩ := exists_of_forall₂_left hcs hd
  obtain ⟨w, hw, hnum⟩ := hr e he fun hek => hk (hde.kind.trans hek)
  exact ⟨w, hde.var ▸ hw, fun hi => hnum (hde.kind.symm.trans hi)⟩

/-- Rules that test what other rules test, in the same order, choose the same rule. -/
theorem findIdx?_ruleHolds_of_forall₂ {rs' rs : List Node} (h : List.Forall₂ RuleTestsAs rs' rs)
    (ps : List (String × Value)) : rs'.findIdx? (ruleHolds ps) = rs.findIdx? (ruleHolds ps) := by
  induction h with
  | nil => rfl
  | cons hab _ ih => simp only [List.findIdx?_cons, hab.ruleHolds ps, ih]

theorem any_catchesAll_of_forall₂ {rs' rs : List Node} (h : List.Forall₂ RuleTestsAs rs' rs) :
    rs'.any catchesAll = rs.any catchesAll := by
  induction h with
  | nil => rfl
  | cons hab _ ih => simp only [List.any_cons, hab.catchesAll, ih]

/-- Some rule is chosen for every parameter set when a rule catches every one. -/
theorem findIdx?_isSome_of_any_catchesAll {rs : List Node} (h : rs.any catchesAll = true)
    (ps : List (String × Value)) : (rs.findIdx? (ruleHolds ps)).isSome := by
  obtain ⟨r, hr, hc⟩ := List.any_eq_true.1 h
  rw [List.findIdx?_isSome]
  exact List.any_eq_true.2 ⟨r, hr, ruleHolds_of_catchesAll hc ps⟩

end Node

open Node

/-- A well-formed rule set compiled into a function, under a name that is neither `ValueError` nor
a built-in the guards call, against a keyed map that inference fills or that already types the
tests. Unreachable rules are those after a rule that catches every parameter set, and the check
for them names the rule right after the first such rule; no rule after it is ever chosen. The
function runs its guards, then one statement per rule, in order, each returning the emitted text
of its rule, then the `ValueError` of no match exactly when no rule catches every parameter set.
A call that passes the guards returns the text of the first rule whose constraints all hold, and
raises that `ValueError` when none does. -/
theorem compiled_rules_choose_first_match {m m' : TypeMap} {h h' : Helpers} {o : CompileOptions}
    {f : Fields} {rs : List Node} {fname : String} {body : List Stmt} {l : Loaded}
    (hk : m.Keyed) (ht : (Node.mk .ruleSet f rs).IsTranslation)
    (htyped : (m.frozen = false ∧ m.Consistent) ∨ (m.frozen = true ∧ m.TypesTests rs))
    (hname : o.name ∉ guardBuiltins) (hvalue : o.name ≠ "ValueError")
    (hc : compileTranslation m h o (.mk .ruleSet f rs) = (m', h', .ok (.function fname body)))
    (hl : loadSingle (Emit.translationModule (.function fname body) h' o.name) o.name = .ok l) :
    (Node.mk .ruleSet f rs).liveRules =
        (match rs.dropLast.findIdx? catchesAll with
        | some j => .error (.deadCode (j + 1) rs.length)
        | none => .ok rs.length) ∧
      (∀ j (hj : j < rs.length), rs[j].catchesAll = true →
        ∀ ps, ∃ k ≤ j, rs.findIdx? (ruleHolds ps) = some k) ∧
      ∃ rs' gs es, List.Forall₂ RuleTestsAs rs' rs ∧
        List.Forall₂ (fun r e => ∃ h₁ h₂,
          (Emit.text (r.children.getD 1 default)).run' h₁ = (.ok e, h₂)) rs' es ∧
        body = gs ++ List.zipWith (fun r e => Emit.whenAll r.tests e) rs' es ++
          (if rs.any catchesAll then [] else [Emit.noMatch]) ∧
        ∀ c : Call, c.key = o.name → m'.guardFailure c.params c.functions = none →
          ∃ env, (∀ x, x ≠ Emit.scratchName → env.lookup x = c.locals.lookup x) ∧
            c.run l = match rs.findIdx? (ruleHolds c.params) with
              | some k => (execBody l.globals none false (defaultFuel - 1)
                  [.ret (es.getD k default)]).run env >>= fun p => pure (p.1.getD .none)
              | none => .error ⟨"ValueError", "No translation matched the parameters"⟩ := by
  have hrules : ∀ r ∈ rs, r.IsRule := by
    cases ht
    assumption
  obtain ⟨typed, hanalyze, -, hemit⟩ := compileTranslation_function hc
  have htt : m'.TypesTests rs := TypeMap.analyze_typesTests ht htyped hanalyze
  obtain ⟨rs', rfl, hrs'⟩ := TypeMap.analyze_ruleSet ht hanalyze
  obtain ⟨rfl, gs, h₀, h₁, ss, returned, h₂, hgs, hss, rfl⟩ := Emit.constrained_inv hemit
  have hemits : ∀ r ∈ rs', r.EmitsAsRule := fun r hr => by
    obtain ⟨_, -, hrr⟩ := exists_of_forall₂_left hrs' hr
    exact hrr.emitsAsRule
  obtain ⟨hreturned, es, rfl, hes⟩ := Emit.ruleStmts_inv hemits hss
  rw [hreturned, any_catchesAll_of_forall₂ hrs'] at hl ⊢
  refine ⟨liveRules_ruleSet fun r hr => ruleCatchesAll_of_isRule (hrules r hr),
    fun j hj hc ps => findIdx?_le_of_catchesAll hj hc ps, rs', gs, es, hrs', hes, rfl,
    fun c hkey hg => ?_⟩
  rw [List.append_assoc] at hl
  have hcall := call_after_guards (TypeMap.analyze_keyed hk ht hanalyze) hname hgs hl c hkey
  rw [hg] at hcall
  obtain ⟨env, hframe, hrun⟩ := hcall
  refine ⟨env, hframe, ?_⟩
  rw [hrun]
  -- the parameters and `ValueError` read as at the start of the call
  have hp : env.lookup Emit.paramsName = some (.dict c.params) := by
    rw [hframe _ (by decide)]
    rfl
  have hlocal : env.lookup "ValueError" = none := by
    rw [hframe _ (by decide)]
    rfl
  have hglobal : l.globals.lookup "ValueError" = none :=
    loadSingle_lookup_none hl (fun he => hvalue he.symm) (by decide)
  have hready : ∀ r ∈ rs', r.EmitsAsRule ∧ r.TestableBy c.params := fun r hr => by
    obtain ⟨r₀, hr₀, hrr⟩ := exists_of_forall₂_left hrs' hr
    exact ⟨hemits r hr, hrr.testableBy (htt.testableBy hrules hg r₀ hr₀)⟩
  rw [execBody_firstMatch hes.length_eq hready hp, findIdx?_ruleHolds_of_forall₂ hrs' c.params]
  cases hfind : rs.findIdx? (ruleHolds c.params) with
  | some k => rfl
  | none =>
    -- no rule holds, so none catches every parameter set and the closing raise is there
    have hnone : rs.any catchesAll = false := by
      cases hany : rs.any catchesAll with
      | false => rfl
      | true =>
        have hsome := findIdx?_isSome_of_any_catchesAll hany c.params
        rw [hfind] at hsome
        cases hsome
    rw [hnone, if_neg Bool.false_ne_true, show defaultFuel - 1 = (defaultFuel - 2) + 1 from rfl,
      execBody_noMatch hlocal hglobal]
    rfl

/-- The rule set `n = 1 → one`, compiled against a fresh map under the default name. -/
theorem compiled_rules_choose_first_match_one :
    ∃ rs : List Node, rs = [.mk .rule {} [.mk .constraintRoot {} [.mk .equality { op := some "=" }
        [.mk .ident { name := .str "n" } [], .mk .numberValue { value := .scalar (.int 1) } []]],
        .mk .textRoot {} [.mk .literal { value := .str "one" } []]]] ∧
    ∃ (m' : TypeMap) (h' : Helpers) (body : List Stmt),
      compileTranslation {} {} {} (.mk .ruleSet {} rs) = (m', h', .ok (.function "translation" body)) ∧
    ∃ l : Loaded, loadSingle (Emit.translationModule (.function "translation" body) h' "translation")
        "translation" = .ok l ∧
      ({} : TypeMap).Keyed ∧ (Node.mk .ruleSet {} rs).IsTranslation ∧
      ((({} : TypeMap).frozen = false ∧ ({} : TypeMap).Consistent) ∨
        (({} : TypeMap).frozen = true ∧ ({} : TypeMap).TypesTests rs)) ∧
      ({} : CompileOptions).name ∉ guardBuiltins ∧ ({} : CompileOptions).name ≠ "ValueError" ∧
      (Node.mk .ruleSet {} rs).liveRules =
          (match rs.dropLast.findIdx? catchesAll with
          | some j => .error (.deadCode (j + 1) rs.length)
          | none => .ok rs.length) ∧
        (∀ j (hj : j < rs.length), rs[j].catchesAll = true →
          ∀ ps, ∃ k ≤ j, rs.findIdx? (ruleHolds ps) = some k) ∧
        ∃ rs' gs es, List.Forall₂ RuleTestsAs rs' rs ∧
          List.Forall₂ (fun r e => ∃ h₁ h₂,
            (Emit.text (r.children.getD 1 default)).run' h₁ = (.ok e, h₂)) rs' es ∧
          body = gs ++ List.zipWith (fun r e => Emit.whenAll r.tests e) rs' es ++
            (if rs.any catchesAll then [] else [Emit.noMatch]) ∧
          ∀ c : Call, c.key = "translation" → m'.guardFailure c.params c.functions = none →
            ∃ env, (∀ x, x ≠ Emit.scratchName → env.lookup x = c.locals.lookup x) ∧
              c.run l = match rs.findIdx? (ruleHolds c.params) with
                | some k => (execBody l.globals none false (defaultFuel - 1)
                    [.ret (es.getD k default)]).run env >>= fun p => pure (p.1.getD .none)
                | none => .error ⟨"ValueError", "No translation matched the parameters"⟩ := by
  set rs : List Node := [.mk .rule {} [.mk .constraintRoot {} [.mk .equality { op := some "=" }
        [.mk .ident { name := .str "n" } [], .mk .numberValue { value := .scalar (.int 1) } []]],
        .mk .textRoot {} [.mk .literal { value := .str "one" } []]]] with hrs
  have ht : (Node.mk .ruleSet {} rs).IsTranslation := by
    refine .rules (List.cons_ne_nil _ _) fun r hr => ?_
    rw [List.mem_singleton.1 hr]
    refine .mk (fun c hc => ?_) fun u hu => ?_
    · rw [List.mem_singleton.1 hc]
      exact .equality rfl (by decide) ⟨_, "n", rfl, rfl⟩ (.number rfl rfl)
    · rw [List.mem_singleton.1 hu]
      exact .literal rfl
  have hc := (rfl : compileTranslation {} {} {} (.mk .ruleSet {} rs) = _)
  conv at hc => rhs; cbv
  have hl := (rfl : loadSingle (Emit.translationModule
      ((compileTranslation {} {} {} (.mk .ruleSet {} rs)).2.2.toOption.getD default)
      (compileTranslation {} {} {} (.mk .ruleSet {} rs)).2.1 "translation") "translation" = _)
  conv at hl => rhs; cbv
  conv at hl => lhs; arg 1; arg 1; cbv
  conv at hl => lhs; arg 1; arg 2; cbv
  exact ⟨rs, rfl, _, _, _, hc, _, hl, TypeMap.keyed_empty, ht, .inl ⟨rfl, TypeMap.consistent_empty⟩,
    by decide, by decide, compiled_rules_choose_first_match TypeMap.keyed_empty ht
      (.inl ⟨rfl, TypeMap.consistent_empty⟩) (by decide) (by decide) hc hl⟩

/-- Three compiled rule sets whose calls pass their guards and still do not answer as the first
matching rule says. Named `ValueError`, the function is what the closing raise calls; named
`isinstance`, it is what its own guard calls; against a map frozen empty beforehand there is no
guard, and the test reads a parameter that is not given. -/
theorem compiled_rules_miss_first_match :
    ∃ rs : List Node, rs = [.mk .rule {} [.mk .constraintRoot {} [.mk .equality { op := some "=" }
        [.mk .ident { name := .str "n" } [], .mk .numberValue { value := .scalar (.int 1) } []]],
        .mk .textRoot {} [.mk .literal { value := .str "one" } []]]] ∧
    (∃ (m' : TypeMap) (h' : Helpers) (body : List Stmt),
      compileTranslation {} {} { name := "ValueError" } (.mk .ruleSet {} rs) =
        (m', h', .ok (.function "ValueError" body)) ∧
      m'.guardFailure [("n", .scalar (.int 2))] [] = none ∧
      rs.findIdx? (ruleHolds [("n", .scalar (.int 2))]) = none ∧
      ∃ l, loadSingle (Emit.translationModule (.function "ValueError" body) h' "ValueError")
          "ValueError" = .ok l ∧
        Call.run { key := "ValueError", params := [("n", .scalar (.int 2))] } l =
          .error ⟨"TypeError",
            "ValueError() missing 2 required positional arguments: \x27fns\x27 and \x27ctx\x27"⟩) ∧
    (∃ (m' : TypeMap) (h' : Helpers) (body : List Stmt),
      compileTranslation {} {} { name := "isinstance" } (.mk .ruleSet {} rs) =
        (m', h', .ok (.function "isinstance" body)) ∧
      m'.guardFailure [("n", .scalar (.int 1))] [] = none ∧
      rs.findIdx? (ruleHolds [("n", .scalar (.int 1))]) = some 0 ∧
      ∃ l, loadSingle (Emit.translationModule (.function "isinstance" body) h' "isinstance")
          "isinstance" = .ok l ∧
        Call.run { key := "isinstance", params := [("n", .scalar (.int 1))] } l =
          .error ⟨"TypeError", "isinstance() missing 1 required positional argument: \x27ctx\x27"⟩) ∧
    (∃ (m' : TypeMap) (h' : Helpers) (body : List Stmt),
      compileTranslation ({} : TypeMap).freeze {} {} (.mk .ruleSet {} rs) =
        (m', h', .ok (.function "translation" body)) ∧
      m'.guardFailure [] [] = none ∧
      rs.findIdx? (ruleHolds []) = none ∧
      ∃ l, loadSingle (Emit.translationModule (.function "translation" body) h' "translation")
          "translation" = .ok l ∧
        Call.run { key := "translation" } l = .error ⟨"KeyError", "\x27n\x27"⟩) := by
  refine ⟨_, rfl, ?_, ?_, ?_⟩ <;>
  · conv in compileTranslation _ _ _ _ => cbv
    refine ⟨_, _, _, rfl, by cbv, by cbv, ?_⟩
    conv in loadSingle _ _ => cbv
    exact ⟨_, rfl, by cbv⟩

end Lingo
