import Lingo.Proofs.KeyedLists
import Lingo.Proofs.Running

/-!
# Code runs alike in namespaces that agree on what it reads

The variables a piece of code reads are `Expr.names` and `bodyNames`, the bodies of the functions
it defines included. A value is closed for a set of names `S` when every function inside it reads
only names of `S`, down to the built-ins it captured. Two module namespaces frame each other for
`S` (`Frame`) when they bind each name of `S` alike and to closed values, and the name of the
built-ins is one of `S`.

`frame_runs_alike` is the frame rule of the interpreter: an expression, a call or a body that reads
only names of `S` has the same outcome in two such namespaces, and what it gives and leaves is
closed again. It is one induction over the interpreter's own mutual recursion, with one lemma per
construct. This is what lets a function compiled into a module with others run as it does in a
module of its own.
-/

namespace Lingo

namespace Code

mutual

/-- The variables an expression reads, left to right; a bound name is not read. -/
def Expr.names : Expr → List String
  | .const _ => []
  | .name x => [x]
  | .attr o _ => o.names
  | .call f args => f.names ++ namesOf args
  | .index o k => o.names ++ k.names
  | .arith _ l r => l.names ++ r.names
  | .minus e => e.names
  | .not e => e.names
  | .logic _ parts => namesOf parts
  | .compare l _ r => l.names ++ r.names
  | .bind _ v => v.names
  | .tuple items => namesOf items
  | .dict entries => entryNames entries

/-- The variables a list of expressions reads, in order. -/
def namesOf : List Expr → List String
  | [] => []
  | e :: es => e.names ++ namesOf es

/-- The variables dictionary entries read, each key before its value. -/
def entryNames : List (Expr × Expr) → List String
  | [] => []
  | (k, v) :: es => k.names ++ v.names ++ entryNames es

end

mutual

/-- The variables a statement reads, the bodies of the functions it defines included. -/
def Stmt.names : Stmt → List String
  | .ifThen t body => t.names ++ bodyNames body
  | .ret e => e.names
  | .raise e => e.names
  | .assign _ v => v.names
  | .define _ _ body => bodyNames body

/-- The variables a list of statements reads, in order. -/
def bodyNames : List Stmt → List String
  | [] => []
  | s :: ss => s.names ++ bodyNames ss

end

@[simp] theorem namesOf_append (es es' : List Expr) : namesOf (es ++ es') = namesOf es ++ namesOf es' := by
  induction es with
  | nil => simp [namesOf]
  | cons e es ih => simp [namesOf, ih]

@[simp] theorem bodyNames_append (ss ss' : List Stmt) :
    bodyNames (ss ++ ss') = bodyNames ss ++ bodyNames ss' := by
  induction ss with
  | nil => simp [bodyNames]
  | cons s ss ih => simp [bodyNames, ih]

/-- A sum reads what its operands read, in order. -/
theorem names_foldl_add (es : List Expr) (e : Expr) :
    (es.foldl (.arith .add) e).names = e.names ++ namesOf es := by
  induction es generalizing e with
  | nil => simp [namesOf]
  | cons e' es ih => simp [ih, Expr.names, namesOf]

/-- A value whose functions read only names with `S`, down to the built-ins they captured. -/
inductive Value.Closed (S : String → Prop) : Value → Prop
  | scalar (s : Scalar) : Closed S (.scalar s)
  | safe (s : String) : Closed S (.safe s)
  | bytes (data : List Nat) : Closed S (.bytes data)
  | tuple {items : List Value} (h : ∀ v ∈ items, Closed S v) : Closed S (.tuple items)
  | list {items : List Value} (h : ∀ v ∈ items, Closed S v) : Closed S (.list items)
  | dict {entries : List (String × Value)} (h : ∀ e ∈ entries, Closed S e.2) :
      Closed S (.dict entries)
  | builtin (b : Builtin) : Closed S (.builtin b)
  | method {recv : Value} (m : String) (h : Closed S recv) : Closed S (.method recv m)
  | closure {name : String} {ps : List String} {body : List Stmt} {cap : Option Value}
      (hbody : ∀ x ∈ bodyNames body, S x) (hcap : ∀ v, cap = some v → Closed S v) :
      Closed S (.closure name ps body cap)
  | host (f : HostFn) : Closed S (.host f)
  | context (q : Bool) : Closed S (.context q)
  | exception (k m : String) : Closed S (.exception k m)

/-- Variables whose values are closed. -/
def Env.Closed (S : String → Prop) (env : Env) : Prop := ∀ e ∈ env, e.2.Closed S

variable {S : String → Prop}

namespace Value

@[simp] theorem closed_scalar (s : Scalar) : (Value.scalar s).Closed S := .scalar s

@[simp] theorem closed_safe (s : String) : (Value.safe s).Closed S := .safe s

@[simp] theorem closed_bytes (data : List Nat) : (Value.bytes data).Closed S := .bytes data

@[simp] theorem closed_builtin (b : Builtin) : (Value.builtin b).Closed S := .builtin b

@[simp] theorem closed_host (f : HostFn) : (Value.host f).Closed S := .host f

@[simp] theorem closed_context (q : Bool) : (Value.context q).Closed S := .context q

@[simp] theorem closed_exception (k m : String) : (Value.exception k m).Closed S := .exception k m

@[simp] theorem closed_ofBool (b : Bool) : (Value.ofBool b).Closed S := .scalar _

@[simp] theorem closed_str (s : String) : (Value.str s).Closed S := .scalar _

@[simp] theorem closed_none : Value.none.Closed S := .scalar _

@[simp] theorem closed_method {recv : Value} {m : String} :
    (Value.method recv m).Closed S ↔ recv.Closed S :=
  ⟨fun h => by cases h; assumption, .method m⟩

@[simp] theorem closed_tuple {items : List Value} :
    (Value.tuple items).Closed S ↔ ∀ v ∈ items, v.Closed S :=
  ⟨fun h => by cases h; assumption, .tuple⟩

/-- A value closed for some names is closed for more. -/
theorem Closed.mono {S' : String → Prop} (hS : ∀ x, S x → S' x) {v : Value} (h : v.Closed S) :
    v.Closed S' := by
  induction h with
  | scalar s => exact .scalar s
  | safe s => exact .safe s
  | bytes data => exact .bytes data
  | tuple _ ih => exact .tuple ih
  | list _ ih => exact .list ih
  | dict _ ih => exact .dict ih
  | builtin b => exact .builtin b
  | method m _ ih => exact .method m ih
  | closure hbody _ ih => exact .closure (fun x hx => hS x (hbody x hx)) ih
  | host f => exact .host f
  | context q => exact .context q
  | exception k m => exact .exception k m

mutual

theorem closed_ofDatum : (d : Datum) → (Value.ofDatum d).Closed S
  | .scalar s => .scalar s
  | .safe s => .safe s
  | .list items => .list (closed_ofData items)
  | .dict entries => .dict (closed_ofEntries entries)

theorem closed_ofData : (ds : List Datum) → ∀ v ∈ Value.ofData ds, v.Closed S
  | [], _, h => nomatch h
  | d :: ds, v, h => by
    rcases List.mem_cons.1 h with rfl | h
    · exact closed_ofDatum d
    · exact closed_ofData ds v h

theorem closed_ofEntries : (es : List (String × Datum)) → ∀ e ∈ Value.ofEntries es, e.2.Closed S
  | [], _, h => nomatch h
  | (_, d) :: es, e, h => by
    rcases List.mem_cons.1 h with rfl | h
    · exact closed_ofDatum d
    · exact closed_ofEntries es e h

end

end Value

namespace Env

theorem Closed.nil : Env.Closed S [] := fun _ h => nomatch h

theorem Closed.bind {env : Env} (h : env.Closed S) (x : String) {v : Value} (hv : v.Closed S) :
    (env.bind x v).Closed S := by
  intro e he
  rcases List.mem_cons.1 he with rfl | he
  · exact hv
  · exact h e (List.mem_filter.1 he).1

theorem Closed.lookup {env : Env} (h : env.Closed S) {x : String} {v : Value}
    (hx : env.lookup x = some v) : v.Closed S := by
  simp only [Env.lookup, Option.map_eq_some_iff] at hx
  obtain ⟨e, he, rfl⟩ := hx
  exact h e (List.mem_of_find?_eq_some he)

end Env


namespace Value

theorem closed_of_lookupKey {entries : List (String × Value)} (h : ∀ e ∈ entries, e.2.Closed S)
    {k v : Value} (hk : lookupKey entries k = some v) : v.Closed S := by
  unfold lookupKey at hk
  split at hk
  · simp only [Option.map_eq_some_iff] at hk
    obtain ⟨e, he, rfl⟩ := hk
    exact h e (List.mem_of_find?_eq_some he)
  · cases hk

theorem closed_getD {items : List Value} (h : ∀ v ∈ items, v.Closed S) (j : Nat) :
    (items.getD j .none).Closed S := by
  rw [List.getD_eq_getElem?_getD]
  cases hj : items[j]? with
  | none => exact .scalar _
  | some v => exact h v (List.mem_of_getElem? hj)

/-- A character of a string is a string. -/
theorem subscript_scalar {s : Scalar} {k v : Value} (h : subscript (.scalar s) k = .ok v) :
    ∃ t, v = .scalar t := by
  cases s
  case str =>
    simp only [subscript] at h
    repeat' split at h
    all_goals
      cases h
      try exact ⟨_, rfl⟩
  all_goals
    simp only [subscript] at h
    cases h

theorem closed_subscript {o k v : Value} (ho : o.Closed S) (h : subscript o k = .ok v) :
    v.Closed S := by
  cases ho
  case dict entries hd =>
    simp only [subscript] at h
    obtain ⟨_, -, h⟩ := bind_eq_ok h
    split at h
    · cases h
      exact closed_of_lookupKey hd ‹_›
    · cases h
  case tuple items hi | list items hi =>
    simp only [subscript] at h
    split at h
    · split at h
      · cases h
        exact closed_getD hi _
      · cases h
    · cases h
  case scalar s =>
    obtain ⟨t, rfl⟩ := subscript_scalar h
    exact .scalar t
  -- anything else gives a byte or nothing
  all_goals
    simp only [subscript] at h
    repeat' split at h
    all_goals
      cases h
      try exact .scalar _

theorem closed_ofArith {r : Except ArithError Datum} {v : Value} (h : ofArith r = .ok v) :
    v.Closed S := by
  unfold ofArith at h
  split at h
  · cases h
    exact closed_ofDatum _
  · cases h

theorem closed_repeatBytes {data : List Nat} {n : Int} {v : Value} (h : repeatBytes data n = .ok v) :
    v.Closed S := by
  unfold repeatBytes at h
  repeat' split at h
  all_goals
    cases h
    try simp

theorem closed_getAttr {v r : Value} {f : String} (hv : v.Closed S) (h : getAttr v f = .ok r) :
    r.Closed S := by
  unfold getAttr at h
  split at h <;> cases h <;> simp [hv]

theorem closed_arithValue {op : ArithOp} {a b v : Value} (h : arithValue op a b = .ok v) :
    v.Closed S := by
  unfold arithValue at h
  split at h
  · exact closed_ofArith h
  · -- byte strings: joined, repeated, or refused
    split at h
    · cases h
      simp
    · cases h
    · split at h
      · exact closed_repeatBytes h
      · cases h
    · split at h
      · exact closed_repeatBytes h
      · cases h
    · cases h

theorem closed_negValue {a v : Value} (h : negValue a = .ok v) : v.Closed S := by
  unfold negValue at h
  split at h
  · exact closed_ofArith h
  · cases h

/-- A result made of what a step gives is closed when all such results are. -/
theorem closed_of_map {α : Type} {x : Except Raised α} {f : α → Value} (hf : ∀ a, (f a).Closed S)
    {v : Value} (h : f <$> x = .ok v) : v.Closed S := by
  cases x with
  | error e => cases h
  | ok a =>
    cases h
    exact hf a

theorem closed_compareValues {op : CmpOp} {a b v : Value} (h : compareValues op a b = .ok v) :
    v.Closed S := by
  unfold compareValues at h
  split at h
  · cases h
    simp
  · cases h
    simp
  all_goals exact closed_of_map (fun _ => closed_ofBool _) h

theorem closed_toInt {v r : Value} (h : toInt v = .ok r) : r.Closed S := by
  unfold toInt at h
  repeat' split at h
  all_goals cases h <;> simp

theorem closed_toFloat {v r : Value} (h : toFloat v = .ok r) : r.Closed S := by
  unfold toFloat at h
  split at h
  · exact closed_of_map (fun _ => closed_scalar _) h
  · split at h
    · exact closed_ofArith h
    · cases h
  · cases h

theorem closed_callBuiltin {b : Builtin} {args : List Value} {v : Value}
    (h : callBuiltin b args = .ok v) : v.Closed S := by
  unfold callBuiltin at h
  split at h
  case h_1 => exact closed_of_map (fun _ => closed_ofBool _) h
  case h_6 => exact closed_of_map (fun _ => closed_str _) h
  case h_8 => exact closed_toInt h
  case h_10 => exact closed_toFloat h
  -- the rest are truth values, texts, numbers and exceptions, or refusals
  all_goals cases h <;> simp

theorem closed_callContext {q : Bool} {m : String} {args : List Value} {v : Value}
    (h : callContext q m args = .ok v) : v.Closed S := by
  unfold callContext at h
  obtain ⟨_, -, h⟩ := bind_eq_ok h
  dsimp only at h
  repeat' split at h
  all_goals cases h <;> simp

theorem closed_encodeStr {s : String} {args : List Value} {v : Value}
    (h : encodeStr s args = .ok v) : v.Closed S := by
  unfold encodeStr at h
  dsimp only at h
  simp only [bind, Except.bind, pure, Except.pure, discard, Functor.mapConst] at h
  repeat' split at h
  all_goals cases h <;> simp

theorem closed_callMethod {recv : Value} {m : String} {args : List Value} {v : Value}
    (hrecv : recv.Closed S) (hargs : ∀ a ∈ args, a.Closed S) (h : callMethod recv m args = .ok v) :
    v.Closed S := by
  unfold callMethod at h
  split at h
  · -- a dictionary's get: an entry, or nothing
    cases h
    cases hrecv with
    | dict hd =>
      cases hk : lookupKey _ _ with
      | none => simp
      | some w => simpa using closed_of_lookupKey hd hk
  · -- or the default given
    cases h
    cases hrecv with
    | dict hd =>
      cases hk : lookupKey _ _ with
      | none => simpa using hargs _ (by simp)
      | some w => simpa using closed_of_lookupKey hd hk
  · split at h <;> cases h
  · exact closed_encodeStr h
  · cases h
    simp
  · cases h
  · exact closed_callContext h
  · cases h

theorem closed_callHost {f : HostFn} {args : List Value} {v : Value} (h : callHost f args = .ok v) :
    v.Closed S := by
  unfold callHost at h
  split at h
  · cases h
  · split at h
    · split at h
      · obtain ⟨_, -, h⟩ := bind_eq_ok h
        cases h
        simp
      · cases h
    · obtain ⟨_, -, h⟩ := bind_eq_ok h
      cases h
      simp
    · cases h
      exact closed_ofDatum _
    · cases h

theorem closed_lookupBuiltin {bi : Option Value} (hbi : ∀ w, bi = some w → w.Closed S) {x : String}
    {v : Value} (h : lookupBuiltin bi x = .ok v) : v.Closed S := by
  unfold lookupBuiltin at h
  dsimp only at h
  split at h
  · split at h
    · cases h
      simp
    · cases h
  · next w =>
    split at h
    · cases h
      exact closed_subscript (hbi w rfl) ‹_›
    · split at h <;> cases h

end Value

namespace Env

theorem closed_bindParams {f : String} {ps : List String} {args : List Value} {env : Env}
    (hargs : ∀ a ∈ args, a.Closed S) (h : bindParams f ps args = .ok env) : env.Closed S := by
  unfold bindParams at h
  split at h
  · cases h
  · split at h
    · cases h
    · cases h
      intro e he
      exact hargs e.2 (List.of_mem_zip (List.mem_reverse.1 he)).2

end Env

/-! ## Two runs that agree -/

/-- Two steps that, run from the same closed variables, have the same outcome, and on success give
a result with `C` and leave closed variables. -/
def RunsAlike (S : String → Prop) {α : Type} (C : α → Prop) (x y : EvalM α) (env : Env) : Prop :=
  x.run env = y.run env ∧ ∀ a env', x.run env = .ok (a, env') → C a ∧ env'.Closed S

namespace RunsAlike

variable {α β : Type} {C : α → Prop} {D : β → Prop} {env : Env}

theorem pure' {a : α} (ha : C a) (henv : env.Closed S) :
    RunsAlike S C (pure a) (pure a) env :=
  ⟨rfl, fun _ _ h => by cases h; exact ⟨ha, henv⟩⟩

theorem attempt' {r : Except Raised α} (hr : ∀ a, r = .ok a → C a) (henv : env.Closed S) :
    RunsAlike S C (attempt r) (attempt r) env := by
  refine ⟨rfl, fun a env' h => ?_⟩
  cases r with
  | error e => cases h
  | ok b =>
    cases h
    exact ⟨hr a rfl, henv⟩

theorem bind {x y : EvalM α} {f f' : α → EvalM β} (hxy : RunsAlike S C x y env)
    (hf : ∀ a env', C a → env'.Closed S → RunsAlike S D (f a) (f' a) env') :
    RunsAlike S D (x >>= f) (y >>= f') env := by
  obtain ⟨heq, hok⟩ := hxy
  simp only [RunsAlike, StateT.run_bind, ← heq]
  cases hx : x.run env with
  | error e => exact ⟨rfl, fun _ _ h => by cases h⟩
  | ok p =>
    obtain ⟨ha, henv'⟩ := hok p.1 p.2 hx
    exact hf p.1 p.2 ha henv'

theorem attempt_eq {r r' : Except Raised α} (h : r = r') (hr : ∀ a, r = .ok a → C a)
    (henv : env.Closed S) : RunsAlike S C (attempt r) (attempt r') env :=
  h ▸ attempt' hr henv

theorem throw' (e : Raised) : RunsAlike S C (throw e : EvalM α) (throw e) env :=
  ⟨rfl, fun _ _ h => by cases h⟩

theorem throw_bind (e : Raised) {f f' : α → EvalM β} :
    RunsAlike S D ((throw e : EvalM α) >>= f) (throw e >>= f') env :=
  ⟨rfl, fun _ _ h => by cases h⟩

theorem get' (henv : env.Closed S) : RunsAlike S (Env.Closed S) get get env :=
  ⟨rfl, fun _ _ h => by cases h; exact ⟨henv, henv⟩⟩

theorem modify_bind (henv : env.Closed S) (x : String) {v : Value} (hv : v.Closed S) :
    RunsAlike S (fun _ => True) (modify (·.bind x v)) (modify (·.bind x v)) env :=
  ⟨rfl, fun _ _ h => by cases h; exact ⟨trivial, henv.bind x hv⟩⟩

end RunsAlike

/-- What two module namespaces share: the same binding of each name with `S`, a closed one, and
`S` holds of the name of the built-ins. -/
structure Frame (S : String → Prop) (g₁ g₂ : Env) : Prop where
  agree : ∀ x, S x → g₁.lookup x = g₂.lookup x
  closed : ∀ x v, S x → g₁.lookup x = some v → v.Closed S
  builtins : S builtinsName

/-- Captured built-ins that are closed, when there are any. -/
def OptClosed (S : String → Prop) (bi : Option Value) : Prop := ∀ w, bi = some w → w.Closed S

section Alike

variable (S : String → Prop) (g₁ g₂ : Env)

/-- An expression reading names with `S` runs alike in the two namespaces. -/
def ExprAlike (bi : Option Value) (fuel : Nat) (e : Expr) : Prop :=
  (∀ x ∈ e.names, S x) → OptClosed S bi → ∀ env, env.Closed S →
    RunsAlike S (Value.Closed S) (evalExpr g₁ bi fuel e) (evalExpr g₂ bi fuel e) env

/-- Dictionary entries reading names with `S` run alike in the two namespaces. -/
def EntriesAlike (bi : Option Value) (fuel : Nat) (es : List (Expr × Expr)) : Prop :=
  (∀ x ∈ entryNames es, S x) → OptClosed S bi → ∀ env, env.Closed S →
    RunsAlike S (fun r => ∀ e ∈ r, e.2.Closed S) (evalEntries g₁ bi fuel es) (evalEntries g₂ bi fuel es) env

/-- Operands joined by a connective, reading names with `S`, run alike in the two namespaces. -/
def LogicAlike (bi : Option Value) (fuel : Nat) (op : Conn) (es : List Expr) : Prop :=
  (∀ x ∈ namesOf es, S x) → OptClosed S bi → ∀ env, env.Closed S →
    RunsAlike S (Value.Closed S) (evalLogic g₁ bi fuel op es) (evalLogic g₂ bi fuel op es) env

/-- A call of a closed value with closed arguments has the same outcome in the two namespaces. -/
def ApplyAlike (fuel : Nat) (f : Value) (args : List Value) : Prop :=
  f.Closed S → (∀ a ∈ args, a.Closed S) →
    apply g₁ fuel f args = apply g₂ fuel f args ∧ ∀ v, apply g₁ fuel f args = .ok v → v.Closed S

/-- Statements reading names with `S` run alike in the two namespaces. -/
def BodyAlike (bi : Option Value) (top : Bool) (fuel : Nat) (body : List Stmt) : Prop :=
  (∀ x ∈ bodyNames body, S x) → OptClosed S bi → ∀ env, env.Closed S →
    RunsAlike S (OptClosed S) (execBody g₁ bi top fuel body) (execBody g₂ bi top fuel body) env

/-- Expressions reading names with `S` run alike in the two namespaces. -/
def ExprsAlike (bi : Option Value) (fuel : Nat) (es : List Expr) : Prop :=
  (∀ x ∈ namesOf es, S x) → OptClosed S bi → ∀ env, env.Closed S →
    RunsAlike S (fun vs => ∀ v ∈ vs, v.Closed S) (evalExprs g₁ bi fuel es) (evalExprs g₂ bi fuel es) env

end Alike


namespace ExprAlike

variable {S : String → Prop} {g₁ g₂ : Env} {bi : Option Value} {fuel : Nat}

theorem const (v : Datum) : ExprAlike S g₁ g₂ bi fuel (.const v) := by
  intro _ _ env henv
  simp only [evalExpr]
  exact RunsAlike.pure' (Value.closed_ofDatum v) henv

/-- A name with `S` has the same binding in both namespaces. -/
theorem name (hF : Frame S g₁ g₂) (x : String) : ExprAlike S g₁ g₂ bi fuel (.name x) := by
  intro hn hbi env henv
  have hx : S x := hn x (by simp [Expr.names])
  simp only [evalExpr]
  refine (RunsAlike.get' henv).bind fun cur st hcur hst => ?_
  rw [hF.agree x hx]
  split
  · next v hv => exact RunsAlike.pure' (hcur.lookup hv) hst
  · next v _ hv => exact RunsAlike.pure' (hF.closed x v hx ((hF.agree x hx).trans hv)) hst
  · exact RunsAlike.attempt' (fun _ hv => Value.closed_lookupBuiltin hbi hv) hst

theorem attr {o : Expr} (f : String) (ih : ExprAlike S g₁ g₂ bi fuel o) :
    ExprAlike S g₁ g₂ bi fuel (o.attr f) := by
  intro hn hbi env henv
  simp only [evalExpr]
  exact (ih hn hbi env henv).bind fun v _ hv hst =>
    RunsAlike.attempt' (fun _ h => Value.closed_getAttr hv h) hst

/-- A call runs its callee and arguments alike, and then the same call. -/
theorem call {f : Expr} {args : List Expr} (ihf : ExprAlike S g₁ g₂ bi fuel f)
    (ihargs : ExprsAlike S g₁ g₂ bi fuel args) (ihapply : ∀ fv avs, ApplyAlike S g₁ g₂ fuel fv avs) :
    ExprAlike S g₁ g₂ bi fuel (f.call args) := by
  intro hn hbi env henv
  simp only [Expr.names, List.forall_mem_append] at hn
  simp only [evalExpr]
  refine (ihf hn.1 hbi env henv).bind fun fv st₁ hfv hst₁ => ?_
  refine (ihargs hn.2 hbi st₁ hst₁).bind fun avs st₂ havs hst₂ => ?_
  obtain ⟨heq, hok⟩ := ihapply fv avs hfv havs
  exact RunsAlike.attempt_eq heq hok hst₂

theorem index {o k : Expr} (iho : ExprAlike S g₁ g₂ bi fuel o) (ihk : ExprAlike S g₁ g₂ bi fuel k) :
    ExprAlike S g₁ g₂ bi fuel (o.index k) := by
  intro hn hbi env henv
  simp only [Expr.names, List.forall_mem_append] at hn
  simp only [evalExpr]
  refine (iho hn.1 hbi env henv).bind fun ov st₁ hov hst₁ => ?_
  refine (ihk hn.2 hbi st₁ hst₁).bind fun _ st₂ _ hst₂ => ?_
  exact RunsAlike.attempt' (fun _ h => Value.closed_subscript hov h) hst₂

theorem arith (op : ArithOp) {l r : Expr} (ihl : ExprAlike S g₁ g₂ bi fuel l)
    (ihr : ExprAlike S g₁ g₂ bi fuel r) : ExprAlike S g₁ g₂ bi fuel (.arith op l r) := by
  intro hn hbi env henv
  simp only [Expr.names, List.forall_mem_append] at hn
  simp only [evalExpr]
  refine (ihl hn.1 hbi env henv).bind fun _ st₁ _ hst₁ => ?_
  refine (ihr hn.2 hbi st₁ hst₁).bind fun _ st₂ _ hst₂ => ?_
  exact RunsAlike.attempt' (fun _ h => Value.closed_arithValue h) hst₂

theorem minus {e : Expr} (ih : ExprAlike S g₁ g₂ bi fuel e) : ExprAlike S g₁ g₂ bi fuel e.minus := by
  intro hn hbi env henv
  simp only [evalExpr]
  exact (ih hn hbi env henv).bind fun _ st _ hst =>
    RunsAlike.attempt' (fun _ h => Value.closed_negValue h) hst

theorem not {e : Expr} (ih : ExprAlike S g₁ g₂ bi fuel e) : ExprAlike S g₁ g₂ bi fuel e.not := by
  intro hn hbi env henv
  simp only [evalExpr]
  exact (ih hn hbi env henv).bind fun _ st _ hst => RunsAlike.pure' (Value.closed_ofBool _) hst

theorem logic (op : Conn) {parts : List Expr} (ih : LogicAlike S g₁ g₂ bi fuel op parts) :
    ExprAlike S g₁ g₂ bi fuel (.logic op parts) := by
  intro hn hbi env henv
  simp only [evalExpr]
  exact ih hn hbi env henv

theorem compare {l r : Expr} (op : CmpOp) (ihl : ExprAlike S g₁ g₂ bi fuel l)
    (ihr : ExprAlike S g₁ g₂ bi fuel r) : ExprAlike S g₁ g₂ bi fuel (l.compare op r) := by
  intro hn hbi env henv
  simp only [Expr.names, List.forall_mem_append] at hn
  simp only [evalExpr]
  refine (ihl hn.1 hbi env henv).bind fun _ st₁ _ hst₁ => ?_
  refine (ihr hn.2 hbi st₁ hst₁).bind fun _ st₂ _ hst₂ => ?_
  exact RunsAlike.attempt' (fun _ h => Value.closed_compareValues h) hst₂

/-- A bound expression binds a local variable in both runs alike. -/
theorem bind (x : String) {v : Expr} (ih : ExprAlike S g₁ g₂ bi fuel v) :
    ExprAlike S g₁ g₂ bi fuel (.bind x v) := by
  intro hn hbi env henv
  simp only [evalExpr]
  refine (ih hn hbi env henv).bind fun val st hval hst => ?_
  exact (RunsAlike.modify_bind hst x hval).bind fun _ st' _ hst' => RunsAlike.pure' hval hst'

theorem tuple {items : List Expr} (ih : ExprsAlike S g₁ g₂ bi fuel items) :
    ExprAlike S g₁ g₂ bi fuel (.tuple items) := by
  intro hn hbi env henv
  simp only [evalExpr]
  exact (ih hn hbi env henv).bind fun _ st hvs hst => RunsAlike.pure' (.tuple hvs) hst

theorem dict {entries : List (Expr × Expr)} (ih : EntriesAlike S g₁ g₂ bi fuel entries) :
    ExprAlike S g₁ g₂ bi fuel (.dict entries) := by
  intro hn hbi env henv
  simp only [evalExpr]
  exact (ih hn hbi env henv).bind fun _ st hes hst =>
    RunsAlike.pure' (.dict (keyed_forall hes)) hst

end ExprAlike

namespace EntriesAlike

variable {S : String → Prop} {g₁ g₂ : Env} {bi : Option Value} {fuel : Nat}

theorem nil : EntriesAlike S g₁ g₂ bi fuel [] := by
  intro _ _ env henv
  simp only [evalEntries]
  exact RunsAlike.pure' (List.forall_mem_nil _) henv

/-- An entry's key and value run alike, and the key is read the same way. -/
theorem cons {k v : Expr} {es : List (Expr × Expr)} (ihk : ExprAlike S g₁ g₂ bi fuel k)
    (ihv : ExprAlike S g₁ g₂ bi fuel v) (ihes : EntriesAlike S g₁ g₂ bi fuel es) :
    EntriesAlike S g₁ g₂ bi fuel ((k, v) :: es) := by
  intro hn hbi env henv
  simp only [entryNames, List.forall_mem_append] at hn
  simp only [evalEntries]
  refine (ihk hn.1.1 hbi env henv).bind fun kv st₁ _ hst₁ => ?_
  refine (ihv hn.1.2 hbi st₁ hst₁).bind fun vv st₂ hvv hst₂ => ?_
  -- a key must be a string
  split
  · refine (RunsAlike.pure' (C := fun _ => True) trivial hst₂).bind fun _ st₃ _ hst₃ => ?_
    refine (ihes hn.2 hbi st₃ hst₃).bind fun rest st₄ hrest hst₄ => ?_
    refine RunsAlike.pure' (fun e he => ?_) hst₄
    rcases List.mem_cons.1 he with rfl | he
    · exact hvv
    · exact hrest e he
  · exact RunsAlike.throw_bind _

end EntriesAlike

namespace LogicAlike

variable {S : String → Prop} {g₁ g₂ : Env} {bi : Option Value} {fuel : Nat}

theorem nil (op : Conn) : LogicAlike S g₁ g₂ bi fuel op [] := by
  intro _ _ env henv
  simp only [evalLogic]
  exact RunsAlike.pure' (Value.closed_none) henv

theorem single (op : Conn) {e : Expr} (ih : ExprAlike S g₁ g₂ bi fuel e) :
    LogicAlike S g₁ g₂ bi fuel op [e] := by
  intro hn hbi env henv
  simp only [namesOf, List.append_nil] at hn
  simp only [evalLogic]
  exact ih hn hbi env henv

/-- A connective stops at the operand that decides it in both runs alike. -/
theorem cons (op : Conn) {e : Expr} {es : List Expr} (hes : es = [] → False)
    (ih : ExprAlike S g₁ g₂ bi fuel e) (ihes : LogicAlike S g₁ g₂ bi fuel op es) :
    LogicAlike S g₁ g₂ bi fuel op (e :: es) := by
  intro hn hbi env henv
  simp only [namesOf, List.forall_mem_append] at hn
  obtain ⟨e', es', rfl⟩ := List.exists_cons_of_ne_nil hes
  simp only [evalLogic]
  refine (ih hn.1 hbi env henv).bind fun v st hv hst => ?_
  split
  · exact RunsAlike.pure' hv hst
  · exact ihes hn.2 hbi st hst

end LogicAlike

namespace ExprsAlike

variable {S : String → Prop} {g₁ g₂ : Env} {bi : Option Value} {fuel : Nat}

theorem nil : ExprsAlike S g₁ g₂ bi fuel [] := by
  intro _ _ env henv
  simp only [evalExprs]
  exact RunsAlike.pure' (List.forall_mem_nil _) henv

theorem cons {e : Expr} {es : List Expr} (ih : ExprAlike S g₁ g₂ bi fuel e)
    (ihes : ExprsAlike S g₁ g₂ bi fuel es) : ExprsAlike S g₁ g₂ bi fuel (e :: es) := by
  intro hn hbi env henv
  simp only [namesOf, List.forall_mem_append] at hn
  simp only [evalExprs]
  refine (ih hn.1 hbi env henv).bind fun v st₁ hv hst₁ => ?_
  refine (ihes hn.2 hbi st₁ hst₁).bind fun vs st₂ hvs hst₂ => ?_
  refine RunsAlike.pure' (fun w hw => ?_) hst₂
  rcases List.mem_cons.1 hw with rfl | hw
  · exact hv
  · exact hvs w hw

end ExprsAlike

namespace ApplyAlike

variable {S : String → Prop} {g₁ g₂ : Env}

theorem zero (f : Value) (args : List Value) : ApplyAlike S g₁ g₂ 0 f args := by
  intro _ _
  refine ⟨by simp only [apply], fun _ h => ?_⟩
  simp [apply] at h

/-- A function of the module runs its body alike, from its closed parameters. -/
theorem closure {fuel : Nat} {args : List Value} {name : String} {ps : List String}
    {body : List Stmt} {cap : Option Value} (ih : BodyAlike S g₁ g₂ cap false fuel body) :
    ApplyAlike S g₁ g₂ (fuel + 1) (.closure name ps body cap) args := by
  intro hf hargs
  cases hf with
  | closure hbody hcap =>
    cases hbind : bindParams name ps args with
    | error e =>
      refine ⟨by simp only [apply, hbind, error_bind], fun _ h => ?_⟩
      simp only [apply, hbind, error_bind] at h
      cases h
    | ok env =>
      obtain ⟨heq, hok⟩ := ih hbody hcap env (Env.closed_bindParams hargs hbind)
      refine ⟨by simp only [apply, hbind, ok_bind, heq], fun v h => ?_⟩
      simp only [apply, hbind, ok_bind] at h
      obtain ⟨⟨r, st⟩, hrun, h⟩ := bind_eq_ok h
      cases h
      cases r with
      | none => exact Value.closed_none
      | some w => exact (hok _ _ hrun).1 w rfl

theorem builtin {fuel : Nat} {args : List Value} (b : Builtin) :
    ApplyAlike S g₁ g₂ (fuel + 1) (.builtin b) args :=
  fun _ _ => ⟨by simp only [apply], fun _ h => Value.closed_callBuiltin (by simpa only [apply] using h)⟩

theorem method {fuel : Nat} {args : List Value} (recv : Value) (m : String) :
    ApplyAlike S g₁ g₂ (fuel + 1) (.method recv m) args := by
  intro hf hargs
  rw [Value.closed_method] at hf
  exact ⟨by simp only [apply], fun _ h => Value.closed_callMethod hf hargs (by simpa only [apply] using h)⟩

theorem host {fuel : Nat} {args : List Value} (h : HostFn) :
    ApplyAlike S g₁ g₂ (fuel + 1) (.host h) args :=
  fun _ _ => ⟨by simp only [apply], fun _ hv => Value.closed_callHost (by simpa only [apply] using hv)⟩

/-- Anything else cannot be called. -/
theorem other {fuel : Nat} {args : List Value} (v : Value)
    (h₁ : ∀ name ps body cap, v = .closure name ps body cap → False) (h₂ : ∀ b, v = .builtin b → False)
    (h₃ : ∀ recv m, v = .method recv m → False) (h₄ : ∀ h, v = .host h → False) :
    ApplyAlike S g₁ g₂ (fuel + 1) v args := by
  intro _ _
  cases v
  case closure => exact (h₁ _ _ _ _ rfl).elim
  case builtin => exact (h₂ _ rfl).elim
  case method => exact (h₃ _ _ rfl).elim
  case host => exact (h₄ _ rfl).elim
  all_goals exact ⟨by simp only [apply], fun _ h => by simp [apply] at h⟩

end ApplyAlike

namespace BodyAlike

variable {S : String → Prop} {g₁ g₂ : Env} {bi : Option Value} {top : Bool} {fuel : Nat}

theorem nil : BodyAlike S g₁ g₂ bi top fuel [] := by
  intro _ _ env henv
  simp only [execBody]
  exact RunsAlike.pure' (fun _ h => absurd h.symm (Option.some_ne_none _)) henv

/-- A test runs alike, and so does whichever part runs next. -/
theorem ifThen {t : Expr} {body rest : List Stmt} (iht : ExprAlike S g₁ g₂ bi fuel t)
    (ihbody : BodyAlike S g₁ g₂ bi top fuel body) (ihrest : BodyAlike S g₁ g₂ bi top fuel rest) :
    BodyAlike S g₁ g₂ bi top fuel (.ifThen t body :: rest) := by
  intro hn hbi env henv
  simp only [bodyNames, Stmt.names, List.forall_mem_append] at hn
  simp only [execBody]
  refine (iht hn.1.1 hbi env henv).bind fun v st hv hst => ?_
  split
  · refine (ihbody hn.1.2 hbi st hst).bind fun r st' hr hst' => ?_
    split
    · next w => exact RunsAlike.pure' (fun _ h => Option.some.inj h ▸ hr w rfl) hst'
    · exact ihrest hn.2 hbi st' hst'
  · exact ihrest hn.2 hbi st hst

theorem ret {e : Expr} {rest : List Stmt} (ih : ExprAlike S g₁ g₂ bi fuel e) :
    BodyAlike S g₁ g₂ bi top fuel (.ret e :: rest) := by
  intro hn hbi env henv
  simp only [bodyNames, Stmt.names, List.forall_mem_append] at hn
  simp only [execBody]
  exact (ih hn.1 hbi env henv).bind fun v st hv hst =>
    RunsAlike.pure' (fun _ h => Option.some.inj h ▸ hv) hst

theorem raise {e : Expr} {rest : List Stmt} (ih : ExprAlike S g₁ g₂ bi fuel e) :
    BodyAlike S g₁ g₂ bi top fuel (.raise e :: rest) := by
  intro hn hbi env henv
  simp only [bodyNames, Stmt.names, List.forall_mem_append] at hn
  simp only [execBody]
  exact (ih hn.1 hbi env henv).bind fun _ _ _ _ => RunsAlike.throw' _

theorem assign {x : String} {e : Expr} {rest : List Stmt} (ih : ExprAlike S g₁ g₂ bi fuel e)
    (ihrest : BodyAlike S g₁ g₂ bi top fuel rest) :
    BodyAlike S g₁ g₂ bi top fuel (.assign x e :: rest) := by
  intro hn hbi env henv
  simp only [bodyNames, Stmt.names, List.forall_mem_append] at hn
  simp only [execBody]
  refine (ih hn.1 hbi env henv).bind fun v st hv hst => ?_
  exact (RunsAlike.modify_bind hst x hv).bind fun _ st' _ hst' => ihrest hn.2 hbi st' hst'

/-- A definition captures the same built-ins in both runs: the module binds their name alike. -/
theorem define (hF : Frame S g₁ g₂) {f : String} {ps : List String} {body rest : List Stmt}
    (ihrest : BodyAlike S g₁ g₂ bi top fuel rest) :
    BodyAlike S g₁ g₂ bi top fuel (.define f ps body :: rest) := by
  intro hn hbi env henv
  simp only [bodyNames, Stmt.names, List.forall_mem_append] at hn
  simp only [execBody]
  refine (RunsAlike.get' henv).bind fun cur st hcur hst => ?_
  rw [hF.agree builtinsName hF.builtins]
  have hcap : OptClosed S (if top then cur.lookup builtinsName else g₂.lookup builtinsName) := by
    intro w hw
    split at hw
    · exact hcur.lookup hw
    · exact hF.closed _ w hF.builtins ((hF.agree _ hF.builtins).trans hw)
  exact (RunsAlike.modify_bind hst f (.closure hn.1 hcap)).bind fun _ st' _ hst' =>
    ihrest hn.2 hbi st' hst'

end BodyAlike

section Frame

variable {S : String → Prop} {g₁ g₂ : Env}

/-- Code reading only names with `S` runs alike in two namespaces that bind those names alike:
expressions, calls and bodies, by one induction over the interpreter's own recursion. -/
theorem frame_runs_alike (hF : Frame S g₁ g₂) :
    (∀ bi fuel e, ExprAlike S g₁ g₂ bi fuel e) ∧ (∀ fuel f args, ApplyAlike S g₁ g₂ fuel f args) ∧
      ∀ bi top fuel body, BodyAlike S g₁ g₂ bi top fuel body := by
  obtain ⟨hexpr, -, -, happly, hbody, -⟩ := evalExpr.mutual_induct
    (ExprAlike S g₁ g₂) (EntriesAlike S g₁ g₂) (LogicAlike S g₁ g₂) (ApplyAlike S g₁ g₂)
    (BodyAlike S g₁ g₂) (ExprsAlike S g₁ g₂)
    (fun _ _ v => .const v) (fun _ _ x => .name hF x) (fun _ _ _ f ih => .attr f ih)
    (fun _ _ _ _ ihf ihargs ihapply => .call ihf ihargs ihapply)
    (fun _ _ _ _ iho ihk => .index iho ihk) (fun _ _ op _ _ ihl ihr => .arith op ihl ihr)
    (fun _ _ _ ih => .minus ih) (fun _ _ _ ih => .not ih) (fun _ _ op _ ih => .logic op ih)
    (fun _ _ _ op _ ihl ihr => .compare op ihl ihr) (fun _ _ x _ ih => .bind x ih)
    (fun _ _ _ ih => .tuple ih) (fun _ _ _ ih => .dict ih)
    (fun _ _ => .nil) (fun _ _ _ _ _ ihk ihv ihes => .cons ihk ihv ihes)
    (fun _ _ op => .nil op) (fun _ _ op _ ih => .single op ih)
    (fun _ _ op _ _ hes ih ihes => .cons op hes ih ihes)
    (fun f args => .zero f args) (fun _ _ _ _ _ _ ih => .closure ih)
    (fun _ _ b => .builtin b) (fun _ _ recv m => .method recv m) (fun _ _ h => .host h)
    (fun _ _ v h₁ h₂ h₃ h₄ => .other v h₁ h₂ h₃ h₄)
    (fun _ _ _ => .nil) (fun _ _ _ _ _ _ iht ihbody ihrest => .ifThen iht ihbody ihrest)
    (fun _ _ _ _ _ ih => .ret ih) (fun _ _ _ _ _ ih => .raise ih)
    (fun _ _ _ _ _ _ ih ihrest => .assign ih ihrest)
    (fun _ _ _ _ _ _ _ ihrest => .define hF ihrest)
    (fun _ _ => .nil) (fun _ _ _ _ ih ihes => .cons ih ihes)
  exact ⟨hexpr, happly, hbody⟩

end Frame

end Code

end Lingo
