import Lingo.Proofs.Passes

/-!
# The chain of rule statements

A rule set is emitted as one statement per rule, in the rules' order (`Emit.ruleStmts`): the
statement returns the rule's text when the tests of its constraints all hold, and a rule with no
test (only `!x` constraints) returns it unconditionally. The function then raises the `ValueError`
of no match unless some rule returns unconditionally.

Here the statements are read off the emitter for rules whose constraints are well formed
(`Emit.ruleStmts_inv`), and run: when every tested parameter is given, and is a number wherever a
rule orders it, a test gives whether its constraint holds (`Code.Evals.test`), and the chain
returns the text of the first rule whose constraints all hold (`Code.execBody_firstMatch`).
-/

namespace Lingo

open Code

namespace Node

/-- The test a constraint is emitted as: none for `!x`, and for a comparison the parameter compared
with the value. -/
def testOf (c : Node) : Option Expr :=
  match c.kind, c.children, Emit.cmpOf c.fields.op with
  | .equality, [_, v], some op | .inequality, [_, v], some op =>
      some (.compare (Emit.paramLookup c.testedVar) op (.const v.fields.value))
  | _, _, _ => none

/-- The constraints of a rule. -/
def constraints (rule : Node) : List Node :=
  match rule.children with
  | c :: _ => c.children
  | [] => []

/-- The tests a rule's statement runs. -/
def tests (rule : Node) : List Expr := rule.constraints.filterMap testOf

/-- A rule as emission reads it: a constraint list of well-formed constraints, then its text. -/
def EmitsAsRule (r : Node) : Prop :=
  ∃ f cf cs t, r = .mk .rule f [.mk .constraintRoot cf cs, t] ∧ ∀ c ∈ cs, c.IsConstraint

theorem RuleTestsAs.emitsAsRule {r' r : Node} (h : RuleTestsAs r' r) : r'.EmitsAsRule := by
  obtain ⟨f', ⟨k, cf, cs'⟩, t', rfl, f, c, t, -, hk, hcs⟩ := h
  cases hk
  exact ⟨f', cf, cs', t', rfl, fun c' hc' =>
    (exists_of_forall₂_left hcs hc' |>.elim fun _ h => h.2.isConstraint)⟩

theorem IsConstraint.testOf_eq_none_iff {c : Node} (hc : c.IsConstraint) :
    c.testOf = none ↔ c.kind = .ignore := by
  cases hc with
  | ignore => simp [testOf, Node.kind]
  | equality hop hops =>
    obtain ⟨o, ho⟩ := cmpOf_some (.inl hops)
    simp [testOf, Node.kind, Node.children, Node.fields, hop, ho]
  | inequality hop hops =>
    obtain ⟨o, ho⟩ := cmpOf_some (.inr hops)
    simp [testOf, Node.kind, Node.children, Node.fields, hop, ho]

/-- A rule has no test exactly when it catches every parameter set. -/
theorem EmitsAsRule.tests_eq_nil_iff {r : Node} (hr : r.EmitsAsRule) :
    r.tests = [] ↔ r.catchesAll = true := by
  obtain ⟨f, cf, cs, t, rfl, hcs⟩ := hr
  simp only [tests, constraints, catchesAll, isCatchAll, Node.children, List.filterMap_eq_nil_iff,
    List.all_eq_true, decide_eq_true_eq]
  exact forall₂_congr fun c hc => (hcs c hc).testOf_eq_none_iff

end Node

namespace Emit

/-- The statement that returns `e` when the tests `ts` all hold, as a rule is emitted. -/
def whenAll (ts : List Expr) (e : Expr) : Stmt :=
  match ts with
  | [] => .ret e
  | [t] => .ifThen t [.ret e]
  | ts => .ifThen (.logic .conj ts) [.ret e]

theorem whenAll_returns (ts : List Expr) (e : Expr) : (whenAll ts e).returns = ts.isEmpty := by
  match ts with
  | [] => rfl
  | [_] => rfl
  | _ :: _ :: _ => rfl

theorem constraintTest_eq {c : Node} (hc : c.IsConstraint) (h : Helpers) :
    (constraintTest c).run' h = (.ok c.testOf, h) := by
  cases hc with
  | ignore => rfl
  | equality hop hops hx =>
    obtain ⟨o, ho⟩ := Node.cmpOf_some (.inl hops)
    obtain ⟨xf, s, rfl, hs⟩ := hx
    simp only [constraintTest, constrained?, Node.kind, Node.children, Node.fields, Node.nameOf,
      Node.testOf, Node.testedVar, hop, ho]
    rfl
  | inequality hop hops hx =>
    obtain ⟨o, ho⟩ := Node.cmpOf_some (.inr hops)
    obtain ⟨xf, s, rfl, hs⟩ := hx
    simp only [constraintTest, constrained?, Node.kind, Node.children, Node.fields, Node.nameOf,
      Node.testOf, Node.testedVar, hop, ho]
    rfl

theorem filterMapM_constraintTest {cs : List Node} (hcs : ∀ c ∈ cs, c.IsConstraint) (h : Helpers) :
    (cs.filterMapM constraintTest).run' h = (.ok (cs.filterMap Node.testOf), h) := by
  induction cs with
  | nil => rfl
  | cons c cs ih =>
    have hrest := ih fun d hd => hcs d (List.mem_cons_of_mem _ hd)
    rw [List.filterMapM_cons, EmitM.run'_bind_ok (constraintTest_eq (hcs c List.mem_cons_self) h)]
    cases hct : c.testOf with
    | none => simpa [List.filterMap_cons, hct] using hrest
    | some t =>
      simp only [List.filterMap_cons, hct]
      rw [EmitM.run'_bind_ok hrest]
      rfl

/-- The statement of a rule with a well-formed constraint list. -/
theorem ruleStmt_eq {cf : Fields} {cs : List Node} (hcs : ∀ c ∈ cs, c.IsConstraint) (e : Expr)
    (h : Helpers) :
    (ruleStmt (.mk .constraintRoot cf cs) e).run' h = (.ok (whenAll (cs.filterMap Node.testOf) e), h) := by
  have hnodes : (nodesOf (.mk .constraintRoot cf cs)).run' h = (.ok cs, h) := rfl
  unfold ruleStmt
  rw [EmitM.run'_bind_ok hnodes, EmitM.run'_bind_ok (filterMapM_constraintTest hcs h)]
  unfold whenAll
  generalize cs.filterMap Node.testOf = ts
  match ts with
  | [] => rfl
  | [_] => rfl
  | _ :: _ :: _ => rfl

/-- The statements of rules that emission reads as rules: one per rule, returning the rule's
emitted text when its tests hold; one of them returns unconditionally exactly when a rule catches
every parameter set. -/
theorem ruleStmts_inv {rs : List Node} (hrs : ∀ r ∈ rs, r.EmitsAsRule) {h h' : Helpers}
    {ss : List Stmt} {returned : Bool} (he : (ruleStmts rs).run' h = (.ok (ss, returned), h')) :
    returned = rs.any Node.catchesAll ∧
      ∃ es, ss = List.zipWith (fun r e => whenAll r.tests e) rs es ∧
        List.Forall₂ (fun r e => ∃ h₁ h₂, (text (r.children.getD 1 default)).run' h₁ = (.ok e, h₂))
          rs es := by
  induction rs generalizing h ss returned with
  | nil =>
    rw [ruleStmts, EmitM.run'_pure] at he
    cases he
    exact ⟨rfl, [], rfl, .nil⟩
  | cons r rest ih =>
    obtain ⟨f, cf, cs, t, rfl, hcs⟩ := hrs r List.mem_cons_self
    rw [ruleStmts] at he
    obtain ⟨t', h₁, ht', he₁⟩ := EmitM.run'_bind_inv he
    obtain ⟨e, h₂, htext, he₂⟩ := EmitM.run'_bind_inv he₁
    obtain ⟨c', h₃, hc', he₃⟩ := EmitM.run'_bind_inv he₂
    obtain ⟨s, h₄, hs, he₄⟩ := EmitM.run'_bind_inv he₃
    obtain ⟨⟨ss', returned'⟩, h₅, hrest, he₅⟩ := EmitM.run'_bind_inv he₄
    -- the parts of a rule are its constraint list and its text
    have hpart₁ : (rulePart (.mk .rule f [.mk .constraintRoot cf cs, t]) 1 "translation").run' h =
        (.ok t, h) := rfl
    have hpart₀ : (rulePart (.mk .rule f [.mk .constraintRoot cf cs, t]) 0 "constraints").run' h₂ =
        (.ok (.mk .constraintRoot cf cs), h₂) := rfl
    rw [hpart₁] at ht'
    rw [hpart₀] at hc'
    cases ht'
    cases hc'
    rw [ruleStmt_eq hcs e _] at hs
    cases hs
    rw [EmitM.run'_pure] at he₅
    cases he₅
    obtain ⟨hreturned, es, rfl, hes⟩ := ih (fun q hq => hrs q (List.mem_cons_of_mem _ hq)) hrest
    refine ⟨?_, e :: es, rfl, .cons ⟨_, _, htext⟩ hes⟩
    have hnil := Node.EmitsAsRule.tests_eq_nil_iff ⟨f, cf, cs, t, rfl, hcs⟩
    rw [whenAll_returns, hreturned, List.any_cons]
    congr 1
    rw [Bool.eq_iff_iff, List.isEmpty_iff]
    exact hnil

/-- A rule set emitted as a function: the guards of the map, then the statements of its rules,
then the `ValueError` of no match unless one of them returns unconditionally. -/
theorem constrained_inv {m : TypeMap} {name fname : String} {f : Fields} {rs : List Node}
    {h h' : Helpers} {body : List Stmt}
    (he : (translation m name (.mk .ruleSet f rs)).run' h = (.ok (.function fname body), h')) :
    fname = name ∧ ∃ gs h₀ h₁ ss returned h₂, (typeGuards m).run' h₀ = (.ok gs, h₁) ∧
      (ruleStmts rs).run' h₁ = (.ok (ss, returned), h₂) ∧
      body = gs ++ ss ++ (if returned then [] else [noMatch]) := by
  unfold translation at he
  dsimp only [Node.kind] at he
  unfold constrained at he
  dsimp only at he
  split at he
  · -- a rule set without rules is refused
    obtain ⟨_, _, hthrow, -⟩ := EmitM.run'_bind_inv he
    rw [EmitM.run'_throw] at hthrow
    cases hthrow
  · obtain ⟨gs, h₁, hgs, he₁⟩ := EmitM.run'_bind_inv he
    obtain ⟨⟨ss, returned⟩, h₂, hss, he₂⟩ := EmitM.run'_bind_inv he₁
    rw [EmitM.run'_pure] at he₂
    cases he₂
    exact ⟨rfl, gs, h, h₁, ss, returned, _, hgs, hss, rfl⟩

end Emit

namespace Node

/-- A constraint without a test, `!x`, always holds. -/
theorem IsConstraint.holdsFor_of_testOf {c : Node} (hc : c.IsConstraint) (ht : c.testOf = none)
    (ps : List (String × Value)) : c.holdsFor ps = true := by
  have hk := hc.testOf_eq_none_iff.1 ht
  obtain ⟨k, f, cs⟩ := c
  cases hk
  rfl

/-- The parameters `ps` give every variable that rule `r` tests, and a number for every variable it
orders. -/
def TestableBy (ps : List (String × Value)) (r : Node) : Prop :=
  ∀ c ∈ r.constraints, c.kind ≠ .ignore →
    ∃ w, paramOf ps c.testedVar = some w ∧ (c.kind = .inequality → w.isNumber = true)

end Node

namespace Code

variable {g : Env} {bi : Option Value} {top : Bool} {fuel : Nat} {env : Env}

theorem Evals.index {env env₁ env₂ : Env} {o k : Expr} {ov kv r : Value}
    (ho : Evals g bi fuel env o ov env₁) (hk : Evals g bi fuel env₁ k kv env₂)
    (hs : subscript ov kv = .ok r) : Evals g bi fuel env (.index o k) r env₂ := by
  simp only [Evals, evalExpr, StateT.run_bind, attempt] at ho hk ⊢
  rw [ho]
  simp only [ok_bind, hk, StateT.run_lift, hs]
  rfl

/-- Reading a parameter that is given. -/
theorem Evals.paramLookup {ps : List (String × Value)} {s : String} {w : Value}
    (hp : env.lookup Emit.paramsName = some (.dict ps)) (hw : paramOf ps (.str s) = some w) :
    Evals g bi fuel env (Emit.paramLookup (.str s)) w env := by
  refine Evals.index (Evals.local hp) (Evals.const env _) ?_
  simp only [paramOf, Datum.str, Value.ofDatum] at hw
  simp only [Datum.str, Value.ofDatum, subscript, hashable, hw]
  rfl

/-- Comparing for equality raises nothing, and neither does ordering a number against a number:
both give whether the comparison holds. -/
theorem compareValues_holds {op : CmpOp} {w v : Value}
    (h : op = .eq ∨ op = .ne ∨ (op ≠ .isIn ∧ op ≠ .notIn ∧ (w.num?.isSome ∧ v.num?.isSome))) :
    compareValues op w v = .ok (.ofBool (holdsBetween op w v)) := by
  rcases h with rfl | rfl | ⟨hin, hnotin, hw, hv⟩
  · rfl
  · rfl
  · obtain ⟨x, rfl, p, hp⟩ : ∃ x, w = .scalar x ∧ ∃ p, x.num? = some p := by
      cases w <;> simp_all [Value.num?, Option.isSome_iff_exists]
    obtain ⟨y, rfl, q, hq⟩ : ∃ y, v = .scalar y ∧ ∃ q, y.num? = some q := by
      cases v <;> simp_all [Value.num?, Option.isSome_iff_exists]
    cases op <;> first
      | contradiction
      | simp [compareValues, holdsBetween, order, hp, hq]

/-- The test of a constraint gives whether the constraint holds, when its parameter is given and
is a number where the constraint orders it. -/
theorem Evals.test {ps : List (String × Value)} {c : Node} {t : Expr} (hc : c.IsConstraint)
    (ht : c.testOf = some t) (hp : env.lookup Emit.paramsName = some (.dict ps))
    (hw : ∃ w, paramOf ps c.testedVar = some w ∧ (c.kind = .inequality → w.isNumber = true)) :
    Evals g bi fuel env t (.ofBool (c.holdsFor ps)) env := by
  obtain ⟨w, hw, hnum⟩ := hw
  cases hc with
  | ignore => simp [Node.testOf, Node.kind] at ht
  | @equality f x v op hop hops hx hv =>
    obtain ⟨xf, s, rfl, hs⟩ := hx
    have hvar : Node.testedVar (.mk .equality f [.mk .ident xf [], v]) = .str s := hs
    simp only [List.mem_cons, List.not_mem_nil, or_false] at hops
    -- `=` and `!=` compare anything with anything
    obtain ⟨o, ho, hop'⟩ : ∃ o, Emit.cmpOf f.op = some o ∧ (o = .eq ∨ o = .ne) := by
      rcases hops with rfl | rfl <;> simp [hop, Emit.cmpOf]
    simp only [Node.testOf, Node.kind, Node.children, Node.fields, ho, hvar, Option.some.injEq] at ht
    subst ht
    rw [Node.holdsFor_compare (.inl rfl) ho]
    simp only [Node.fields, hs] at hvar ⊢
    rw [hvar] at hw
    rw [hw]
    exact Evals.compare (Evals.paramLookup hp hw) (Evals.const env _)
      (compareValues_holds (by rcases hop' with rfl | rfl <;> simp))
  | @inequality f x v op vf sv hop hops hx hv hvv hsv =>
    obtain ⟨xf, s, rfl, hs⟩ := hx
    subst hv
    have hvar : Node.testedVar (.mk .inequality f [.mk .ident xf [], .mk .numberValue vf []]) =
        .str s := hs
    -- an ordering operator orders two numbers
    obtain ⟨o, ho, hin, hnotin⟩ : ∃ o, Emit.cmpOf f.op = some o ∧ o ≠ .isIn ∧ o ≠ .notIn := by
      simp only [List.mem_cons, List.not_mem_nil, or_false] at hops
      rcases hops with rfl | rfl | rfl | rfl <;> simp [hop, Emit.cmpOf]
    simp only [Node.testOf, Node.kind, Node.children, Node.fields, ho, hvar, Option.some.injEq] at ht
    subst ht
    rw [hvar] at hw
    rw [Node.holdsFor_compare (.inr rfl) ho]
    simp only [Node.fields, hs, hw]
    have hwnum : w.num?.isSome := by
      have := hnum rfl
      cases w with
      | scalar x => cases x <;> simp_all [Value.isNumber, Value.num?, Scalar.num?]
      | _ => simp [Value.isNumber] at this
    have hvnum : (Value.ofDatum vf.value).num?.isSome := by
      simpa [hvv, Value.ofDatum, Value.num?, Scalar.isNumber] using hsv
    exact Evals.compare (Evals.paramLookup hp hw) (Evals.const env _)
      (compareValues_holds (.inr (.inr ⟨hin, hnotin, hwnum, hvnum⟩)))

/-- A conjunction of tests that each give a truth value and bind nothing gives whether all of them
hold. -/
theorem Evals.conj_all {ts : List Expr} {β : Expr → Bool} (hne : ts ≠ [])
    (hts : ∀ t ∈ ts, Evals g bi fuel env t (.ofBool (β t)) env) :
    Evals g bi fuel env (.logic .conj ts) (.ofBool (ts.all β)) env := by
  induction ts with
  | nil => exact absurd rfl hne
  | cons t rest ih =>
    have ht := hts t List.mem_cons_self
    cases rest with
    | nil => simpa using Evals.logic_single ht
    | cons t' rest' =>
      cases hb : β t with
      | false =>
        rw [hb] at ht
        have hdecide : Evals g bi fuel env (.logic .conj (t :: t' :: rest')) (.ofBool false) env :=
          Evals.logic_decide ht rfl
        simpa [hb] using hdecide
      | true =>
        rw [hb] at ht
        have hrest := ih (List.cons_ne_nil _ _) fun u hu => hts u (List.mem_cons_of_mem _ hu)
        simpa [hb] using Evals.logic_continue ht rfl hrest

theorem execBody_ret_cons (e : Expr) (rest : List Stmt) :
    (execBody g bi top fuel (.ret e :: rest)).run env = (execBody g bi top fuel [.ret e]).run env := by
  simp only [execBody]

/-- A rule's statement returns its text when all its tests hold and otherwise hands over to the
statements after it. -/
theorem execBody_whenAll {ts : List Expr} {β : Expr → Bool} {e : Expr}
    (hts : ∀ t ∈ ts, Evals g bi fuel env t (.ofBool (β t)) env) (rest : List Stmt) :
    (execBody g bi top fuel (Emit.whenAll ts e :: rest)).run env =
      if ts.all β then (execBody g bi top fuel [.ret e]).run env
      else (execBody g bi top fuel rest).run env := by
  -- the test is the single test itself, or the conjunction of all of them
  have htest : ∀ t, Evals g bi fuel env t (.ofBool (ts.all β)) env → ts ≠ [] →
      (execBody g bi top fuel (.ifThen t [.ret e] :: rest)).run env =
        if ts.all β then (execBody g bi top fuel [.ret e]).run env
        else (execBody g bi top fuel rest).run env := by
    intro t ht _
    cases hall : ts.all β with
    | false => exact execBody_ifThen_false (hall ▸ ht) rfl [.ret e] rest
    | true =>
      rw [execBody_ifThen_true (hall ▸ ht) rfl [.ret e] rest, List.singleton_append]
      exact execBody_ret_cons e rest
  match ts, hts with
  | [], _ => exact execBody_ret_cons e rest
  | [t], hts => exact htest t (by simpa using hts t List.mem_cons_self) (List.cons_ne_nil _ _)
  | t :: t' :: ts', hts => exact htest _ (Evals.conj_all (List.cons_ne_nil _ _) hts) (List.cons_ne_nil _ _)

/-- The statement of a rule whose tested parameters are given, numbers where it orders them,
returns the rule's text exactly when all the rule's constraints hold. -/
theorem execBody_rule {ps : List (String × Value)} {r : Node} {e : Expr} (hr : r.EmitsAsRule)
    (hp : env.lookup Emit.paramsName = some (.dict ps)) (hready : r.TestableBy ps)
    (rest : List Stmt) :
    (execBody g bi top fuel (Emit.whenAll r.tests e :: rest)).run env =
      if r.ruleHolds ps then (execBody g bi top fuel [.ret e]).run env
      else (execBody g bi top fuel rest).run env := by
  obtain ⟨f, cf, cs, t, rfl, hcs⟩ := hr
  -- a test counts as what it evaluates to
  let β : Expr → Bool := fun u =>
    match (evalExpr g bi fuel u).run env with
    | .ok (v, _) => v.truthy
    | .error _ => false
  have htests : ∀ c ∈ cs, ∀ u, c.testOf = some u →
      Evals g bi fuel env u (.ofBool (c.holdsFor ps)) env ∧ β u = c.holdsFor ps := by
    intro c hc u hu
    have hnotIgnore : c.kind ≠ .ignore := fun hk => by
      rw [(hcs c hc).testOf_eq_none_iff.2 hk] at hu
      cases hu
    have hev : Evals g bi fuel env u (.ofBool (c.holdsFor ps)) env :=
      Evals.test (hcs c hc) hu hp (hready c hc hnotIgnore)
    refine ⟨hev, ?_⟩
    simp only [β, show (evalExpr g bi fuel u).run env = _ from hev, truthy_ofBool]
  have hall : ∀ ds ⊆ cs, (ds.filterMap Node.testOf).all β = ds.all (Node.holdsFor ps) := by
    intro ds hds
    induction ds with
    | nil => rfl
    | cons c ds ih =>
      have hc : c ∈ cs := hds List.mem_cons_self
      have hrest := ih fun d hd => hds (List.mem_cons_of_mem _ hd)
      cases hu : c.testOf with
      | none =>
        simp only [List.filterMap_cons, hu, List.all_cons, (hcs c hc).holdsFor_of_testOf hu ps,
          Bool.true_and, hrest]
      | some u =>
        simp only [List.filterMap_cons, hu, List.all_cons, (htests c hc u hu).2, hrest]
  have hevals : ∀ u ∈ (cs.filterMap Node.testOf), Evals g bi fuel env u (.ofBool (β u)) env := by
    intro u hu
    obtain ⟨c, hc, hcu⟩ := List.mem_filterMap.1 hu
    obtain ⟨hev, hβ⟩ := htests c hc u hcu
    rw [hβ]
    exact hev
  rw [show (Node.mk .rule f [.mk .constraintRoot cf cs, t]).tests = cs.filterMap Node.testOf from rfl,
    execBody_whenAll hevals rest, hall cs (List.Subset.refl cs)]
  rfl

/-- Rule statements tried in order return the text of the first rule whose constraints all hold;
when none holds, the statements after them run. -/
theorem execBody_firstMatch {ps : List (String × Value)} {rs : List Node} {es : List Expr}
    (hlen : rs.length = es.length) (hrs : ∀ r ∈ rs, r.EmitsAsRule ∧ r.TestableBy ps)
    (hp : env.lookup Emit.paramsName = some (.dict ps)) (tail : List Stmt) :
    (execBody g bi top fuel (List.zipWith (fun r e => Emit.whenAll r.tests e) rs es ++ tail)).run env =
      match rs.findIdx? (Node.ruleHolds ps) with
      | some k => (execBody g bi top fuel [.ret (es.getD k default)]).run env
      | none => (execBody g bi top fuel tail).run env := by
  induction rs generalizing es with
  | nil =>
    cases es with
    | nil => rfl
    | cons => cases hlen
  | cons r rest ih =>
    cases es with
    | nil => cases hlen
    | cons e es =>
      obtain ⟨hr, hready⟩ := hrs r List.mem_cons_self
      rw [List.zipWith_cons_cons, List.cons_append, execBody_rule hr hp hready, List.findIdx?_cons,
        ih (Nat.succ.inj hlen) fun q hq => hrs q (List.mem_cons_of_mem _ hq)]
      cases r.ruleHolds ps with
      | true => rfl
      | false => cases rest.findIdx? (Node.ruleHolds ps) <;> rfl

/-- The closing statement raises the `ValueError` of no match, where the name `ValueError` is
bound neither among the variables nor in the module. -/
theorem execBody_noMatch (hl : env.lookup "ValueError" = none) (hg : g.lookup "ValueError" = none)
    (rest : List Stmt) :
    (execBody g none top (fuel + 1) (Emit.noMatch :: rest)).run env =
      .error ⟨"ValueError", "No translation matched the parameters"⟩ := by
  have hcall : Evals g none (fuel + 1) env
      (Expr.callName "ValueError" [.str "No translation matched the parameters"])
      (.exception "ValueError" "No translation matched the parameters") env :=
    Evals.call (Evals.builtin hl hg (Builtin.ofName?_name .valueError))
      (EvalsAll.cons (Evals.const env _) (EvalsAll.nil env)) (by
        rw [apply_builtin]
        simp [callBuiltin, Datum.str, Value.ofDatum, Value.text, Scalar.text])
  exact execBody_raise hcall rest

end Code

end Lingo
