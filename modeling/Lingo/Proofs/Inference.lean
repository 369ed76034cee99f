import Lingo.Infer
import Lingo.Proofs.Recording
import Lingo.Proofs.Grammar

/-!
# What inference records

`Node.uses` lists the uses that inference records in a tree, each variable with the type its place
asks for, in the order the walk meets them. It depends on the tree alone and on the declared
parameter types of functions: a constraint asks for the type its value implies (`!x` asks for
`unknown`), a bare `$x` for a number or a string, and a variable inside an expression for what
its context expects.

The walk itself threads a type map through the tree and reads that map as it goes. The lemmas
here show that on a well-formed translation it never fails, never reads anything from the map
that the walk could have changed (the signatures stay put), and leaves the map in the relation
`TypeMap.Records` with exactly `Node.uses`.
-/

namespace Lingo

mutual

/-- The uses inference records in `n`, where `sig` gives the declared parameter types of
functions and `expected` is the type the enclosing expression asks for. -/
def Node.uses (sig : Datum → Option (List Ty)) (expected : Option Ty) : Node → List (Datum × Ty)
  | .mk k f cs =>
    match k with
    | .rule | .textRoot | .constraintRoot => Node.usesAll sig expected cs
    | .ignore | .equality | .inequality =>
        [((cs.head?.map (·.fields.name)).getD .none,
          if k = .ignore then .unknown else ((cs[1]?).bind (·.kind.impliedTy?)).getD .unknown)]
    | .textVar => [(f.name, .numberOrString)]
    | .textExpr => Node.usesAll sig none cs
    | .var => [(f.name, expected.getD .unknown)]
    | .neg | .sub | .mul | .div => Node.usesAll sig (some .number) cs
    | .add =>
        Node.usesAll sig (some (if expected = some .number then .number else .numberOrString)) cs
    | .call => Node.usesArgs sig (sig f.name) 0 cs
    | .number | .stringLit | .literal => []
    | _ => Node.usesAll sig expected cs

/-- The uses in a list of trees, in order. -/
def Node.usesAll (sig : Datum → Option (List Ty)) (expected : Option Ty) :
    List Node → List (Datum × Ty)
  | [] => []
  | c :: cs => c.uses sig expected ++ Node.usesAll sig expected cs

/-- The uses in the arguments of a call from position `i` on, each argument asking for its
declared parameter type when there is one. -/
def Node.usesArgs (sig : Datum → Option (List Ty)) (types : Option (List Ty)) (i : Nat) :
    List Node → List (Datum × Ty)
  | [] => []
  | c :: cs => c.uses sig (types.bind (·[i]?)) ++ Node.usesArgs sig types (i + 1) cs

end

namespace Infer

@[simp] theorem run_get :
    ExceptT.run (get : InferM InferState) =
      (Except.ok <$> (get : StateM InferState InferState)) := rfl

@[simp] theorem run_set (s : InferState) :
    ExceptT.run (set s : InferM PUnit) = (Except.ok <$> (set s : StateM InferState PUnit)) := rfl

@[simp] theorem run_modify (f : InferState → InferState) :
    ExceptT.run (modify f : InferM PUnit) =
      (Except.ok <$> (modify f : StateM InferState PUnit)) := rfl

theorem run_bind_ok {α β : Type} {x : InferM α} {g : α → InferM β} {st st' : InferState} {a : α}
    (h : (x.run).run st = (.ok a, st')) : ((x >>= g).run).run st = ((g a).run).run st' := by
  simp [ExceptT.run_bind, h]
  rfl

theorem run_discard_ok {α : Type} {x : InferM α} {st st' : InferState} {a : α}
    (h : (x.run).run st = (.ok a, st')) : ((discard x).run).run st = (.ok (), st') := by
  change ((x >>= fun _ => pure ()).run).run st = _
  rw [run_bind_ok h]
  rfl

theorem onMap_run {α : Type} {s : TypeMap.Step α} {st : InferState} {a : α} {m : TypeMap}
    (h : (s.run).run st.map = (.ok a, m)) :
    ((onMap s).run).run st = (.ok a, { st with map := m }) := by
  simp [onMap, ExceptT.run_bind, h]
  rfl

/-- Running `x` from `st` succeeds, records the uses `us` in the map, and keeps the text and
constraint list being read. -/
def Records (x : InferM Unit) (st : InferState) (us : List (Datum × Ty)) : Prop :=
  ∃ m', (x.run).run st = (.ok (), { st with map := m' }) ∧ st.map.Records us m'

theorem Records.pure (st : InferState) : Records (pure ()) st [] :=
  ⟨st.map, rfl, TypeMap.Records.refl _⟩

/-- Two steps that each record their uses record them one after the other. -/
theorem Records.bind {x y : InferM Unit} {st : InferState} {us us' : List (Datum × Ty)}
    (hx : Records x st us)
    (hy : ∀ m', st.map.Records us m' → Records y { st with map := m' } us') :
    Records (x >>= fun _ => y) st (us ++ us') := by
  obtain ⟨m₁, hrun₁, hrec₁⟩ := hx
  obtain ⟨m₂, hrun₂, hrec₂⟩ := hy m₁ hrec₁
  exact ⟨m₂, (run_bind_ok hrun₁).trans hrun₂, hrec₁.trans hrec₂⟩

theorem Records.get {g : InferState → InferM Unit} {st : InferState} {us : List (Datum × Ty)}
    (h : Records (g st) st us) : Records (get >>= g) st us := h

/-- Recording one use of a variable named by a string. -/
theorem Records.addUsage {st : InferState} {s : String} {t : Ty} {u : Usage}
    (hf : st.map.frozen = false) (hu : u.Attached) (ht : u.ty = t) :
    Records (discard (onMap (TypeMap.addUsage (.str s) t u))) st [(.str s, t)] := by
  obtain ⟨r, m', hrun, hrec⟩ := TypeMap.records_addUsage hf hu ht
  exact ⟨m', run_discard_ok (onMap_run hrun), hrec⟩

/-- Declaring a called function, by name, without types. -/
theorem Records.addFunction {st : InferState} {s : String} (hf : st.map.frozen = false) :
    Records ((MonadState.get : InferM InferState) >>= fun st => match st.map.addFunction (.str s) with
      | .ok m => set { st with map := m }
      | .error e => fail e) st [] := by
  obtain ⟨m', hadd, hrec⟩ := TypeMap.records_addFunction (s := s) hf
  refine ⟨m', ?_, hrec⟩
  simp only [run_bind_ok (show ((MonadState.get : InferM InferState).run).run st = (.ok st, st) from rfl),
    hadd]
  rfl

theorem name_of_has {k : Kind} (hk : k.has .name = true) (f : Fields) (cs : List Node) :
    name (.mk k f cs) = pure f.name := by
  rw [name, Node.nameOf.eq_def]
  simp only [if_pos hk]

theorem name_of_ident {k : Kind} (hk : k = .ignore ∨ k = .equality ∨ k = .inequality)
    {f : Fields} {x : Node} (hx : x.IsIdent) (rest : List Node) :
    name (.mk k f (x :: rest)) = pure x.fields.name := by
  obtain ⟨xf, v, rfl, -⟩ := hx
  rcases hk with rfl | rfl | rfl <;> rfl

/-- What the walk does on a tree: from every state that satisfies `P` and whose map is not
frozen, visiting it under any expected type records its uses. -/
def Walks (P : InferState → Prop) (n : Node) : Prop :=
  ∀ expected st, P st → st.map.frozen = false →
    Records (visit expected n) st (n.uses st.map.signature expected)

/-- A condition on the state that only looks at the text and constraint list being read. -/
def Framed (P : InferState → Prop) : Prop := ∀ st m, P st → P { st with map := m }

theorem visitAll_records {P : InferState → Prop} (hP : Framed P) {cs : List Node}
    (hcs : ∀ c ∈ cs, Walks P c) (expected : Option Ty) :
    ∀ st, P st → st.map.frozen = false →
      Records (visitAll expected cs) st (Node.usesAll st.map.signature expected cs) := by
  induction cs with
  | nil => exact fun st _ _ => Records.pure st
  | cons c rest ih =>
    intro st hst hf
    simp only [visitAll, Node.usesAll]
    refine Records.bind (hcs c (.head _) expected st hst hf) fun m' hrec => ?_
    have hsig : m'.signature = st.map.signature := hrec.signature
    have hrest := ih (fun c hc => hcs c (.tail _ hc)) { st with map := m' } (hP st m' hst)
      (hrec.frozen.trans hf)
    rwa [show ({ st with map := m' } : InferState).map.signature = st.map.signature from hsig]
      at hrest

theorem visitParams_records {cs : List Node} (hcs : ∀ c ∈ cs, Walks (fun _ => True) c)
    (types : Option (List Ty)) :
    ∀ i st, st.map.frozen = false →
      Records (visitParams types i cs) st (Node.usesArgs st.map.signature types i cs) := by
  induction cs with
  | nil => exact fun _ st _ => Records.pure st
  | cons c rest ih =>
    intro i st hf
    simp only [visitParams, Node.usesArgs]
    refine Records.bind (hcs c (.head _) _ st trivial hf) fun m' hrec => ?_
    have hrest := ih (fun c hc => hcs c (.tail _ hc)) (i + 1) { st with map := m' }
      (hrec.frozen.trans hf)
    rwa [show ({ st with map := m' } : InferState).map.signature = st.map.signature from
      hrec.signature] at hrest

/-- Inference walks every well-formed expression without failing and records its uses. -/
theorem walks_expr {e : Node} (he : e.IsExpr) : Walks (fun _ => True) e := by
  induction he with
  | number => exact fun _ st _ _ => Records.pure st
  | stringLit => exact fun _ st _ _ => Records.pure st
  | var hx =>
    intro expected st _ hf
    simp only [visit, Node.uses, name_of_has (k := .var) rfl, hx, pure_bind]
    exact Records.get (Records.addUsage hf (by simp [Usage.Attached]) rfl)
  | neg _ ih =>
    intro expected st _ hf
    simp only [visit, Node.uses]
    exact visitAll_records (fun _ _ _ => trivial) (by simpa using ih) _ st trivial hf
  | @binary k f l r hk _ _ ihl ihr =>
    have hlr : ∀ c ∈ [l, r], Walks (fun _ => True) c := by simp [ihl, ihr]
    intro expected st _ hf
    cases k <;> simp only [Kind.isBinary, Bool.false_eq_true] at hk <;>
      simp only [visit, Node.uses] <;>
      exact visitAll_records (fun _ _ _ => trivial) hlr _ st trivial hf
  | @call f x args hx _ ih =>
    intro expected st _ hf
    simp only [visit, Node.uses, name_of_has (k := .call) rfl, hx, pure_bind]
    refine Records.get ?_
    simp only [TypeMap.paramTypes?_str]
    rw [← List.append_nil (Node.usesArgs _ _ 0 args)]
    exact Records.bind (visitParams_records ih _ 0 st hf) fun m' hrec =>
      @Records.addFunction { st with map := m' } x (hrec.frozen.trans hf)

/-- A fragment of a text is walked from any state. -/
theorem walks_text {t : Node} (ht : t.IsText) : Walks (fun _ => True) t := by
  cases ht with
  | literal => exact fun _ st _ _ => Records.pure st
  | textVar hx =>
    intro expected st _ hf
    simp only [visit, Node.uses, name_of_has (k := .textVar) rfl, hx, pure_bind]
    exact Records.get (Records.addUsage hf (by simp [Usage.Attached]) rfl)
  | textExpr he =>
    intro expected st _ hf
    simp only [visit, Node.uses]
    exact visitAll_records (fun _ _ _ => trivial) (by simpa using walks_expr he) _ st trivial hf

/-- A constraint is walked inside a constraint list: its use then points into that list. -/
theorem walks_constraint {c : Node} (hc : c.IsConstraint) :
    Walks (fun st => st.constraints.isSome) c := by
  intro expected st hsome hf
  -- the use is attached because a constraint list is being read
  have hu : ∀ t n, Usage.Attached
      { kind := .constraint, ty := t, node := n, source := inputOf st.constraints,
        detached := st.constraints.isNone } := by
    intro t n
    cases h : st.constraints with
    | none => simp [h] at hsome
    | some _ => simp [Usage.Attached]
  cases hc with
  | ignore hx =>
    obtain ⟨xf, x, rfl, hx⟩ := hx
    simp only [visit, Node.uses, name_of_ident (.inl rfl) ⟨xf, x, rfl, hx⟩, pure_bind,
      List.head?_cons, Option.map_some, Option.getD_some, Node.fields, hx, ↓reduceIte]
    exact Records.get (Records.addUsage hf (hu _ _) rfl)
  | equality _ _ hx _ =>
    obtain ⟨xf, x, rfl, hx⟩ := hx
    simp only [visit, Node.uses, name_of_ident (.inr (.inl rfl)) ⟨xf, x, rfl, hx⟩, pure_bind,
      List.head?_cons, Option.map_some, Option.getD_some, Node.fields, hx]
    exact Records.get (Records.addUsage hf (hu _ _) rfl)
  | inequality _ _ hx _ _ _ =>
    obtain ⟨xf, x, rfl, hx⟩ := hx
    simp only [visit, Node.uses, name_of_ident (.inr (.inr rfl)) ⟨xf, x, rfl, hx⟩, pure_bind,
      List.head?_cons, Option.map_some, Option.getD_some, Node.fields, hx]
    exact Records.get (Records.addUsage hf (hu _ _) rfl)

/-- A text is read with itself as the current text, which it stays afterwards. -/
theorem visit_textRoot {f : Fields} {ts : List Node} (hts : ∀ t ∈ ts, t.IsText)
    (expected : Option Ty) (st : InferState) (hf : st.map.frozen = false) :
    ∃ m', ((visit expected (.mk .textRoot f ts)).run).run st =
        (.ok (), { st with map := m', text := some (.mk .textRoot f ts) }) ∧
      st.map.Records (Node.usesAll st.map.signature expected ts) m' := by
  obtain ⟨m', hrun, hrec⟩ := visitAll_records (fun _ _ _ => trivial)
    (fun t ht => walks_text (hts t ht)) expected
    { st with text := some (.mk .textRoot f ts) } trivial hf
  refine ⟨m', ?_, hrec⟩
  simp only [visit]
  exact (run_bind_ok rfl).trans hrun

/-- A constraint list is read with itself as the current list, which it stays afterwards. -/
theorem visit_constraintRoot {f : Fields} {cs : List Node} (hcs : ∀ c ∈ cs, c.IsConstraint)
    (expected : Option Ty) (st : InferState) (hf : st.map.frozen = false) :
    ∃ m', ((visit expected (.mk .constraintRoot f cs)).run).run st =
        (.ok (), { st with map := m', constraints := some (.mk .constraintRoot f cs) }) ∧
      st.map.Records (Node.usesAll st.map.signature expected cs) m' := by
  obtain ⟨m', hrun, hrec⟩ := visitAll_records (fun _ _ h => h)
    (fun c hc => walks_constraint (hcs c hc)) expected
    { st with constraints := some (.mk .constraintRoot f cs) } rfl hf
  refine ⟨m', ?_, hrec⟩
  simp only [visit]
  exact (run_bind_ok rfl).trans hrun

/-- A rule is walked from a state that reads no text and no constraint list, and it leaves the
state so: its constraints and then its text are read, and both are dropped at its end. -/
theorem walks_rule {r : Node} (hr : r.IsRule) :
    Walks (fun st => st.text = none ∧ st.constraints = none) r := by
  obtain @⟨f, cf, tf, cs, ts, hcs, hts⟩ := hr
  intro expected st ⟨htext, hcons⟩ hf
  obtain ⟨m₁, hrun₁, hrec₁⟩ := visit_constraintRoot (f := cf) hcs expected st hf
  obtain ⟨m₂, hrun₂, hrec₂⟩ := visit_textRoot (f := tf) hts expected
    { st with map := m₁, constraints := some (.mk .constraintRoot cf cs) }
    (hrec₁.frozen.trans hf)
  have hsig : m₁.signature = st.map.signature := hrec₁.signature
  refine ⟨m₂, ?_, ?_⟩
  · rw [visit]
    simp only [visitAll]
    rw [run_bind_ok (run_bind_ok hrun₁ |>.trans (run_bind_ok hrun₂))]
    obtain ⟨map, text, constraints⟩ := st
    subst htext hcons
    rfl
  · simp only [Node.uses, Node.usesAll, List.append_nil]
    exact hrec₁.trans (hsig ▸ hrec₂)

/-- A rule set is walked from a state that reads no text and no constraint list. -/
theorem walks_ruleSet {f : Fields} {rs : List Node} (hrs : ∀ r ∈ rs, r.IsRule) :
    Walks (fun st => st.text = none ∧ st.constraints = none) (.mk .ruleSet f rs) := by
  intro expected st hst hf
  simp only [visit, Node.uses]
  exact visitAll_records (fun _ _ h => h) (fun r hr => walks_rule (hrs r hr)) expected st hst hf

/-- A translation is walked from the start of an inference and records its uses. -/
theorem visit_translation {t : Node} (ht : t.IsTranslation) (m : TypeMap)
    (hf : m.frozen = false) :
    ∃ st, ((visit none t).run).run { map := m } = (.ok (), st) ∧
      m.Records (t.uses m.signature none) st.map := by
  cases ht with
  | text hts =>
    obtain ⟨m', hrun, hrec⟩ := visit_textRoot hts none { map := m } hf
    exact ⟨_, hrun, hrec⟩
  | rules _ hrs =>
    obtain ⟨m', hrun, hrec⟩ := walks_ruleSet hrs none { map := m } ⟨rfl, rfl⟩ hf
    exact ⟨_, hrun, hrec⟩

end Infer

namespace TypeMap

/-- Inference into a map whose signatures are entered without failure succeeds on a well-formed
translation, and records the translation's uses after the signatures. -/
theorem infer_records {m m₁ : TypeMap} {sigs : List (Datum × List Ty)} {t : Node}
    (hdecl : ((declareSignatures sigs).run).run m = (.ok (), m₁)) (hf : m₁.frozen = false)
    (ht : t.IsTranslation) :
    ∃ m', m.infer sigs t = (m', none) ∧ m₁.Records (t.uses m₁.signature none) m' := by
  obtain ⟨st, hrun, hrec⟩ := Infer.visit_translation ht m₁ hf
  refine ⟨st.map, ?_, hrec⟩
  simp only [infer, hdecl, hrun]

end TypeMap

end Lingo
