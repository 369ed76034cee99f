import Lingo.Proofs.FirstMismatch

/-!
# Analysis keeps literals scalar

The emitter writes into code, as constants, the values that literals carry, the values that
constraints compare against, and the names of the variables and functions of the type map. The host
refuses a module that holds a constant other than a scalar, so the code of a translation loads only
when all of these are scalars.

In a well-formed translation they are (`Node.IsTranslation.scalarData`). Typing only sets types and
constancy marks; folding makes literals of what arithmetic, negation and the joining of text give on
scalars, which are scalars; and a result remembered for a node serves the nodes of its key, whose
literals agree with its own. So the analysed tree keeps its literals scalar
(`TypeMap.analyze_scalarData`). Inference names the variables and functions of the map after the
names of the tree, which are strings, and after the declared signatures
(`TypeMap.analyze_scalarNames`).
-/

namespace Lingo

namespace Datum

/-- A scalar datum: the only kind of datum a module may hold as a literal. -/
def IsScalar (d : Datum) : Prop := ∃ s, d = .scalar s

@[simp] theorem isScalar_scalar (s : Scalar) : (scalar s).IsScalar := ⟨s, rfl⟩

@[simp] theorem isScalar_str (s : String) : (str s).IsScalar := ⟨_, rfl⟩

/-- A datum that agrees with a scalar is a scalar. -/
theorem IsScalar.of_agree {nanEq : Bool} {d d' : Datum} (h : agree nanEq d d' = true)
    (hd' : d'.IsScalar) : d.IsScalar := by
  obtain ⟨s, rfl⟩ := hd'
  cases d with
  | scalar s' => exact ⟨s', rfl⟩
  | safe _ => simp [agree] at h
  | list _ => simp [agree] at h
  | dict _ => simp [agree] at h

theorem isScalar_of_map {r : Except ArithError Scalar} {v : Datum} (h : scalar <$> r = .ok v) :
    v.IsScalar := by
  cases r with
  | error e => cases h
  | ok s =>
    cases h
    exact ⟨s, rfl⟩

theorem isScalar_of_map_str {r : Except ArithError String} {v : Datum} (h : str <$> r = .ok v) :
    v.IsScalar := by
  cases r with
  | error e => cases h
  | ok s =>
    cases h
    exact ⟨_, rfl⟩

/-- Arithmetic on scalars gives a scalar. -/
theorem IsScalar.add {a b v : Datum} (ha : a.IsScalar) (hb : b.IsScalar) (h : a.add b = .ok v) :
    v.IsScalar := by
  obtain ⟨x, rfl⟩ := ha
  obtain ⟨y, rfl⟩ := hb
  exact isScalar_of_map h

theorem IsScalar.mul {a b v : Datum} (ha : a.IsScalar) (hb : b.IsScalar) (h : a.mul b = .ok v) :
    v.IsScalar := by
  obtain ⟨x, rfl⟩ := ha
  obtain ⟨y, rfl⟩ := hb
  exact isScalar_of_map h

/-- A difference, a quotient and a negation are only ever of scalars. -/
theorem isScalar_of_sub {a b v : Datum} (h : a.sub b = .ok v) : v.IsScalar := by
  cases a with
  | scalar x =>
    cases b with
    | scalar y => exact isScalar_of_map h
    | _ => cases h
  | _ => cases h

theorem isScalar_of_div {a b v : Datum} (h : a.div b = .ok v) : v.IsScalar := by
  cases a with
  | scalar x =>
    cases b with
    | scalar y => exact isScalar_of_map h
    | _ => cases h
  | _ => cases h

theorem isScalar_of_neg {a v : Datum} (h : a.neg = .ok v) : v.IsScalar := by
  cases a with
  | scalar x => exact isScalar_of_map h
  | _ => cases h

end Datum

/-! ## Trees whose literals are scalars -/

namespace Node

/-- A tree whose literals the emitter can write into code: each value that a kind of node carries
is a scalar, and each constraint compares against a node of a kind that carries one. -/
inductive ScalarData : Node → Prop
  | mk {k : Kind} {f : Fields} {cs : List Node}
      (hvalue : k.has .value → f.value.IsScalar)
      (hrhs : k = .equality ∨ k = .inequality → ∀ v, cs[1]? = some v → v.kind.has .value)
      (hcs : ∀ c ∈ cs, ScalarData c) : ScalarData (.mk k f cs)

theorem ScalarData.children {k : Kind} {f : Fields} {cs : List Node}
    (h : (Node.mk k f cs).ScalarData) : ∀ c ∈ cs, c.ScalarData := by
  cases h
  assumption

theorem ScalarData.value {n : Node} (h : n.ScalarData) (hk : n.kind.has .value) :
    n.fields.value.IsScalar := by
  cases h with
  | mk hvalue _ _ => exact hvalue hk

/-- A node that carries no value and compares against nothing has scalar literals when its
children do. -/
theorem scalarData_of_children {k : Kind} {f : Fields} {cs : List Node}
    (hk : k.has .value = false) (hc : k ≠ .equality ∧ k ≠ .inequality)
    (hcs : ∀ c ∈ cs, c.ScalarData) : (Node.mk k f cs).ScalarData :=
  .mk (fun h => absurd h (by simp [hk])) (fun h => by rcases h with rfl | rfl <;> simp at hc) hcs

/-- A leaf whose value is a scalar. -/
theorem scalarData_leaf {k : Kind} {f : Fields} (hv : f.value.IsScalar)
    (hc : k ≠ .equality ∧ k ≠ .inequality) : (Node.mk k f []).ScalarData :=
  .mk (fun _ => hv) (fun h => by rcases h with rfl | rfl <;> simp at hc) (List.forall_mem_nil _)

theorem IsExpr.scalarData {e : Node} (h : e.IsExpr) : e.ScalarData := by
  induction h with
  | number hv => exact scalarData_leaf ⟨_, hv⟩ (by decide)
  | stringLit hv => exact scalarData_leaf ⟨_, hv⟩ (by decide)
  | var => exact scalarData_of_children rfl (by decide) (List.forall_mem_nil _)
  | neg _ ih => exact scalarData_of_children rfl (by decide) (by simpa using ih)
  | @binary k f l r hk _ _ ihl ihr =>
    have hvalue : k.has .value = false := by
      rcases Kind.isBinary_cases hk with rfl | rfl | rfl | rfl <;> rfl
    have hc : k ≠ .equality ∧ k ≠ .inequality := by
      rcases Kind.isBinary_cases hk with rfl | rfl | rfl | rfl <;> decide
    exact scalarData_of_children hvalue hc (by simp [ihl, ihr])
  | call _ _ ih => exact scalarData_of_children rfl (by decide) ih

theorem IsText.scalarData {t : Node} (h : t.IsText) : t.ScalarData := by
  cases h with
  | literal hv => exact scalarData_leaf ⟨_, hv⟩ (by decide)
  | textVar => exact scalarData_of_children rfl (by decide) (List.forall_mem_nil _)
  | textExpr he => exact scalarData_of_children rfl (by decide) (by simp [he.scalarData])

theorem IsValue.scalarData {v : Node} (h : v.IsValue) : v.ScalarData ∧ v.kind.has .value := by
  cases h with
  | number hv => exact ⟨scalarData_leaf ⟨_, hv⟩ (by decide), rfl⟩
  | enum hv => exact ⟨scalarData_leaf ⟨_, hv⟩ (by decide), rfl⟩
  | gender hv => exact ⟨scalarData_leaf ⟨_, hv⟩ (by decide), rfl⟩

theorem IsIdent.scalarData {x : Node} (h : x.IsIdent) : x.ScalarData := by
  obtain ⟨f, s, rfl, -⟩ := h
  exact scalarData_of_children rfl (by decide) (List.forall_mem_nil _)

theorem IsConstraint.scalarData {c : Node} (h : c.IsConstraint) : c.ScalarData := by
  cases h with
  | ignore hx => exact scalarData_of_children rfl (by decide) (by simp [hx.scalarData])
  | equality _ _ hx hv =>
    refine .mk (fun h => absurd h (by decide)) (fun _ w hw => ?_) (by simp [hx.scalarData, hv.scalarData.1])
    cases hw
    exact hv.scalarData.2
  | @inequality f x v op vf s _ _ hx hv hvv =>
    subst hv
    have hval : (Node.mk .numberValue vf []).ScalarData := scalarData_leaf ⟨_, hvv⟩ (by decide)
    refine .mk (fun h => absurd h (by decide)) (fun _ w hw => ?_) (by simp [hx.scalarData, hval])
    cases hw
    rfl

theorem IsRule.scalarData {r : Node} (h : r.IsRule) : r.ScalarData := by
  cases h with
  | mk hcs hts =>
    refine scalarData_of_children rfl (by decide) fun c hc => ?_
    rcases List.mem_pair.1 hc with rfl | rfl
    · exact scalarData_of_children rfl (by decide) fun d hd => (hcs d hd).scalarData
    · exact scalarData_of_children rfl (by decide) fun d hd => (hts d hd).scalarData

/-- The literals of a well-formed translation are scalars. -/
theorem IsTranslation.scalarData {t : Node} (h : t.IsTranslation) : t.ScalarData := by
  cases h with
  | text hts => exact scalarData_of_children rfl (by decide) fun c hc => (hts c hc).scalarData
  | rules _ hrs => exact scalarData_of_children rfl (by decide) fun r hr => (hrs r hr).scalarData

/-- A node with the key of one whose literals are scalars has scalar literals: keys compare the
values that kinds carry, and a value agreeing with a scalar is one. -/
theorem ScalarData.of_sameKey {a b : Node} (h : sameKey true a b = true) (hb : b.ScalarData) :
    a.ScalarData := by
  induction hb generalizing a with
  | @mk k f cs hvalue hrhs hcs ih =>
    obtain ⟨f', cs', rfl, hf, hkeys⟩ := sameKey_mk_right h
    refine .mk (fun hk => ?_) (fun hk w hw => ?_) (fun c' hc' => ?_)
    · have hagree := hf .value (List.elem_iff.1 hk)
      exact Datum.IsScalar.of_agree hagree (hvalue hk)
    · obtain ⟨v, hv, hkey⟩ := forall₂_getElem? hkeys hw
      rw [kind_eq_of_sameKey hkey]
      exact hrhs hk v hv
    · obtain ⟨c, hc, hkey⟩ := exists_of_forall₂_left hkeys hc'
      exact ih c hc hkey

/-- A result keeps the literals of a node scalar, and the kind of a node that carries a value. -/
def KeepsScalars (n r : Node) : Prop :=
  n.ScalarData → r.ScalarData ∧ (n.kind.has .value → r.kind = n.kind)

theorem KeepsScalars.refl (n : Node) : KeepsScalars n n := fun h => ⟨h, fun _ => rfl⟩

theorem KeepsScalars.of_sameKey {a n r : Node} (h : KeepsScalars a r)
    (hkey : sameKey true a n = true) : KeepsScalars n r := fun hn => by
  have hkind := kind_eq_of_sameKey hkey
  obtain ⟨hr, hrk⟩ := h (ScalarData.of_sameKey hkey hn)
  exact ⟨hr, fun hk => (hrk (hkind ▸ hk)).trans hkind⟩

theorem KeepsScalars.settle {n r : Node} (h : KeepsScalars n r) : KeepsScalars n (settle n r) := by
  rcases settle_cases n r with h' | h' <;> rw [h']
  · exact KeepsScalars.refl n
  · exact h

/-- A node put back together with its own value from children that keep their literals scalar
keeps its literals scalar, and its kind. -/
theorem KeepsScalars.rebuild {k : Kind} {f f' : Fields} {cs cs' : List Node} {r : Node}
    (hr : (Node.mk k f cs).rebuild cs' f' = .ok r) (hvalue : f'.value = f.value)
    (hcs : List.Forall₂ (fun r c => KeepsScalars c r) cs' cs) : KeepsScalars (.mk k f cs) r := by
  rcases rebuild_eq hr with rfl | rfl
  · exact KeepsScalars.refl _
  intro hn
  cases hn with
  | mk hv hrhs hcsd =>
    have hchildren : List.Forall₂ (fun c' c => c'.ScalarData ∧ (c.kind.has .value → c'.kind = c.kind))
        cs' cs :=
      forall₂_imp_mem hcs fun c' c hc h => h (hcsd c hc)
    refine ⟨.mk (fun hk => hvalue ▸ hv hk) (fun hk w hw => ?_) (fun c' hc' => ?_), fun _ => rfl⟩
    · obtain ⟨v, hv', hw'⟩ := forall₂_getElem? hchildren hw
      have hvk := hrhs hk v hv'
      rw [hw'.2 hvk]
      exact hvk
    · obtain ⟨c, -, hc⟩ := exists_of_forall₂_left hchildren hc'
      exact hc.1

end Node

/-! ## Typing and folding keep literals scalar -/

namespace Typing

/-- Typing keeps the literals of every node scalar, and so does every result it remembers. -/
theorem visit_keepsScalars (m : TypeMap) (n : Node) :
    Keeps (fun st : TypingState => st.memo.All Node.KeepsScalars) (visit m n)
      (Node.KeepsScalars n) :=
  visit_keeps_of (R := Node.KeepsScalars) (fun _ _ _ h hkey => h.of_sameKey hkey)
    Node.KeepsScalars.refl (fun hr hcs hf => Node.KeepsScalars.rebuild hr (by rw [hf.fields]) hcs) n

end Typing

namespace Node

theorem Kind.has_value_of_isLiteral {k : Kind} (h : k.isLiteral = true) : k.has .value := by
  cases k <;> simp_all [Kind.isLiteral, Kind.has, Kind.fields]

/-- A node with scalar literals keeps them with any value its kind does not carry, or any scalar. -/
theorem ScalarData.withValue {k : Kind} {f f' : Fields} {cs : List Node}
    (h : (Node.mk k f cs).ScalarData) (hv : k.has .value → f'.value.IsScalar) :
    (Node.mk k f' cs).ScalarData := by
  cases h with
  | mk _ hrhs hcs => exact .mk hv hrhs hcs

/-- The literal of a scalar. -/
theorem literalOf_scalarData {v : Datum} (hv : v.IsScalar) (pos : Pos) :
    (Folding.literalOf v pos).ScalarData := by
  unfold Folding.literalOf
  split
  · exact scalarData_leaf hv (by decide)
  · exact scalarData_leaf hv (by decide)

/-- A node of a kind that carries no value and compares against nothing keeps its literals scalar
when whatever it becomes has children with scalar literals. -/
theorem KeepsScalars.of_children {k : Kind} {f f' : Fields} {cs cs' : List Node} {r : Node}
    (hr : (Node.mk k f cs).rebuild cs' f' = .ok r) (hk : k.has .value = false)
    (hc : k ≠ .equality ∧ k ≠ .inequality)
    (hcs : (Node.mk k f cs).ScalarData → ∀ c' ∈ cs', c'.ScalarData) : KeepsScalars (.mk k f cs) r := by
  intro hn
  refine ⟨?_, fun h => absurd h (by simp [kind, hk])⟩
  rcases rebuild_eq hr with rfl | rfl
  · exact hn
  · exact scalarData_of_children hk hc (hcs hn)

/-- An operator folded to a literal keeps its literals scalar when the literal's value is one. -/
theorem KeepsScalars.literalOf {k : Kind} {f : Fields} {cs : List Node} (hk : k.has .value = false)
    {v : Datum} (hv : (Node.mk k f cs).ScalarData → v.IsScalar) (pos : Pos) :
    KeepsScalars (.mk k f cs) (Folding.literalOf v pos) :=
  fun hn => ⟨literalOf_scalarData (hv hn) pos, fun h => absurd h (by simp [kind, hk])⟩

end Node

namespace Folding

open Node

variable {P : Memo → Prop}

/-- The text a scalar joins with is a scalar. -/
theorem joinText_scalar {v : Datum} (hv : v.IsScalar) : Keeps P (joinText v) Datum.IsScalar := by
  unfold joinText
  split
  · exact Keeps.pure' hv
  · exact Keeps.imp arith_ok fun _ ht => Datum.isScalar_of_map_str ht

/-- An operator on two scalars gives a scalar. -/
theorem evalBinary_scalar_of {k : Kind} {a b : Datum} (ha : a.IsScalar) (hb : b.IsScalar) :
    Keeps P (evalBinary k a b) Datum.IsScalar := by
  unfold evalBinary
  split
  · split
    · refine Keeps.bind (joinText_scalar ha) fun ta hta => ?_
      refine Keeps.bind (joinText_scalar hb) fun tb htb => ?_
      exact Keeps.imp arith_ok fun v hv => hta.add htb hv
    · exact Keeps.imp arith_ok fun v hv => ha.add hb hv
  · refine Keeps.bind numbersOnly_keeps fun _ _ => ?_
    exact Keeps.imp arith_ok fun v hv => Datum.isScalar_of_sub hv
  · refine Keeps.bind numbersOnly_keeps fun _ _ => ?_
    exact Keeps.imp arith_ok fun v hv => ha.mul hb hv
  · refine Keeps.bind numbersOnly_keeps fun _ _ => ?_
    split
    · exact Keeps.bind (Keeps.throw' (Q := fun _ => False)) fun _ h => h.elim
    · refine Keeps.bind arith_ok fun q hq => ?_
      have hq' := Datum.isScalar_of_div hq
      -- a whole quotient of two integers becomes an integer
      split
      · split
        · exact Keeps.pure' ⟨_, rfl⟩
        · exact Keeps.pure' hq'
      · exact Keeps.pure' hq'

theorem evalBinary_scalar {k : Kind} {a b : Datum} :
    Keeps P (evalBinary k a b) (fun v => a.IsScalar → b.IsScalar → v.IsScalar) := by
  by_cases hab : a.IsScalar ∧ b.IsScalar
  · exact (evalBinary_scalar_of hab.1 hab.2).imp fun _ hv _ _ => hv
  · exact evalBinary_keeps.imp fun _ _ ha hb => absurd ⟨ha, hb⟩ hab

/-- The text an interpolated scalar contributes is a scalar. -/
theorem fragmentText_scalar {e : Node} (he : e.fields.value.IsScalar) :
    Keeps P (fragmentText e) Datum.IsScalar := by
  unfold fragmentText
  split
  · exact Keeps.imp arith_ok fun _ ht => Datum.isScalar_of_map_str ht
  · exact Keeps.pure' he

/-- Merging folded fragments with scalar literals gives fragments with scalar literals: each
piece of literal text joined to a run is a scalar, and so is what joining gives. -/
theorem mergeRuns_scalarData (cs : List Node) (hcs : ∀ c ∈ cs, c.ScalarData) :
    ∀ done current, (∀ c ∈ done, c.ScalarData) →
      Keeps P (mergeRuns cs done current) (fun merged => ∀ c ∈ merged, c.ScalarData) := by
  have push : ∀ {done : List Node} {c : Node}, (∀ d ∈ done, d.ScalarData) → c.ScalarData →
      ∀ d ∈ done ++ [c], d.ScalarData := fun h hc d hd => by
    rcases List.mem_append.1 hd with hd | hd
    · exact h d hd
    · rw [List.mem_singleton.1 hd]
      exact hc
  induction cs with
  | nil =>
    intro done current h
    unfold mergeRuns
    exact Keeps.pure' h
  | cons c rest ih =>
    intro done current h
    have ih' := ih fun d hd => hcs d (List.mem_cons_of_mem _ hd)
    have hc := hcs c List.mem_cons_self
    -- a piece of literal text opens a run or is joined to the run's literal text
    have hpiece : ∀ done current text pos, text.IsScalar → (∀ c ∈ done, c.ScalarData) →
        Keeps P (mergeRuns.mergePiece rest done current text pos)
          (fun merged => ∀ c ∈ merged, c.ScalarData) := by
      intro done current text pos htext h
      unfold mergeRuns.mergePiece
      split
      · exact ih' _ _ (push h (scalarData_leaf htext (by decide)))
      · split
        · next prev hprev =>
          have hp : prev.ScalarData := h prev (List.mem_of_getElem? hprev)
          refine Keeps.bind arith_ok fun v hv => Keeps.bind rebuildM_keeps fun prev' hreb => ?_
          -- the run's text keeps a scalar value wherever its kind carries one
          have hprev' : prev'.ScalarData := by
            rcases rebuild_eq hreb with rfl | rfl
            · exact hp
            · obtain ⟨k, f, cs⟩ := prev
              exact hp.withValue fun hk => (hp.value hk).add htext hv
          refine ih' _ _ fun d hd => ?_
          rcases List.mem_or_eq_of_mem_set hd with hd | rfl
          · exact h d hd
          · exact hprev'
        · exact ih' _ _ h
    have hkeep := mergeRuns_fragment_cases
      (R := (Keeps P · fun merged => ∀ c ∈ merged, c.ScalarData)) c rest done current
      (fun _ _ => ih' _ _ (push h hc))
      (fun _ hlit _ => hpiece _ _ _ _ (hc.value (by rw [hlit]; rfl)) h)
      (fun _ => ih' _ _ (push h hc))
    unfold mergeRuns
    dsimp only
    split
    · next e hkind hchildren =>
      split
      · next he =>
        -- an interpolated literal is a piece of literal text
        have hval : e.fields.value.IsScalar := by
          obtain ⟨k, f, cs⟩ := c
          simp only [kind, children] at hkind hchildren
          subst hkind hchildren
          exact (hc.children e List.mem_cons_self).value (Kind.has_value_of_isLiteral he)
        refine Keeps.bind (fragmentText_scalar hval) fun t ht => ?_
        refine Keeps.bind (Keeps.pure' (Q := (· = some (t, c.pos))) rfl) fun _ hp => ?_
        subst hp
        exact hpiece _ _ _ _ ht h
      · exact Keeps.bind (Keeps.pure' (Q := (· = none)) rfl) fun _ hp => hp ▸ hkeep
    · exact Keeps.bind (Keeps.pure' (Q := (· = none)) rfl) fun _ hp => hp ▸ hkeep

end Folding

namespace Node

open Folding

/-- Remembering the settled result of `n` and returning it. -/
theorem settle_insert_keepsScalars {n r : Node} (hr : KeepsScalars n r) :
    Keeps (Memo.All KeepsScalars) (modify (fun memo : Memo => memo.insert n (Lingo.settle n r)) >>= fun _ =>
      pure (Lingo.settle n r) : TransformM Node) (KeepsScalars n) :=
  Keeps.bind (Keeps.modify' fun _ hs => Memo.All.insert hs hr.settle) fun _ _ => Keeps.pure' hr.settle

/-- Putting `n` back together from children that keep their literals scalar, remembering and
returning it. -/
theorem rebuild_settle_keepsScalars {k : Kind} {f : Fields} {cs cs' : List Node}
    (hcs : List.Forall₂ (fun r c => KeepsScalars c r) cs' cs) :
    Keeps (Memo.All KeepsScalars) (rebuildM (.mk k f cs) cs' f >>= fun r =>
      modify (fun memo : Memo => memo.insert (.mk k f cs) (Lingo.settle (.mk k f cs) r)) >>= fun _ =>
        pure (Lingo.settle (.mk k f cs) r) : TransformM Node) (KeepsScalars (.mk k f cs)) :=
  Keeps.bind rebuildM_keeps fun _ hr => settle_insert_keepsScalars (KeepsScalars.rebuild hr rfl hcs)

/-- A product by a number of a product whose right factor is a number multiplies the two numbers,
which are scalars, so the new factor is a scalar literal. -/
theorem reassociate_keepsScalars {f : Fields} {l r l' r' x c : Node} (hl : KeepsScalars l l')
    (hr : KeepsScalars r r') (hlk : l'.kind = .mul) (hrk : r'.kind = .number)
    (hch : l'.children = [x, c]) :
    Keeps (Memo.All KeepsScalars)
      (if c.kind = .number then do
        let v ← arith (c.fields.value.mul r'.fields.value)
        let r₁ ← rebuildM (mk .mul f [l, r]) [x, Folding.literalOf v (c.pos.combine r'.pos)] f
        modify fun memo => memo.insert (mk .mul f [l, r]) (Lingo.settle (mk .mul f [l, r]) r₁)
        pure (Lingo.settle (mk .mul f [l, r]) r₁)
      else do
        let r₁ ← rebuildM (mk .mul f [l, r]) [l', r'] f
        modify fun memo => memo.insert (mk .mul f [l, r]) (Lingo.settle (mk .mul f [l, r]) r₁)
        pure (Lingo.settle (mk .mul f [l, r]) r₁))
      (KeepsScalars (mk .mul f [l, r])) := by
  split
  · next hc =>
    refine Keeps.bind arith_ok fun v hv => Keeps.bind rebuildM_keeps fun r₁ hr₁ => ?_
    refine settle_insert_keepsScalars (KeepsScalars.of_children hr₁ rfl (by decide) fun hn => ?_)
    obtain ⟨hl'p, -⟩ := hl (hn.children l (by simp))
    obtain ⟨hr'p, -⟩ := hr (hn.children r (by simp))
    obtain ⟨lk, lf, lcs⟩ := l'
    simp only [kind, children] at hlk hch
    subst hlk hch
    -- both factors are number literals, whose values are scalars
    have hcv := (hl'p.children c (by simp)).value (by rw [hc]; rfl)
    have hrv := hr'p.value (by rw [hrk]; rfl)
    have hxs := hl'p.children x (by simp)
    simp [hxs, literalOf_scalarData (hcv.mul hrv hv)]
  · exact rebuild_settle_keepsScalars (.cons hl (.cons hr .nil))

/-- Folding keeps the literals of every node scalar, and so does every result it remembers. -/
theorem foldM_keepsScalars (n : Node) : Keeps (Memo.All KeepsScalars) (foldM n) (KeepsScalars n) := by
  induction n using Node.induction with
  | h k f cs ih =>
    rw [foldM.eq_1]
    refine Keeps.get_bind fun memo hmemo => ?_
    split
    · next r hfind => exact Keeps.pure' (hmemo.find (fun _ _ _ h hkey => h.of_sameKey hkey) hfind)
    · dsimp only
      split
      · -- a negated number becomes a number literal; a negated string is refused
        next o _ =>
        refine Keeps.bind (ih o (by simp)) fun o' ho => ?_
        split
        · exact Keeps.bind (Keeps.throw' (Q := fun _ => False)) fun _ h => h.elim
        · split
          · refine Keeps.bind arith_ok fun v hv => settle_insert_keepsScalars ?_
            exact KeepsScalars.literalOf rfl (fun _ => Datum.isScalar_of_neg hv) _
          · exact rebuild_settle_keepsScalars (.cons ho .nil)
      case h_2 | h_3 | h_4 | h_5 =>
        rename_i l r _
        refine Keeps.bind (ih l (by simp)) fun l' hl => ?_
        refine Keeps.bind (ih r (by simp)) fun r' hr => ?_
        split
        · -- two literal operands: the literal of the value
          next hlit =>
          simp only [Bool.and_eq_true] at hlit
          refine Keeps.bind evalBinary_scalar fun v hv => settle_insert_keepsScalars ?_
          refine KeepsScalars.literalOf rfl (fun hn => hv ?_ ?_) _
          · exact (hl (hn.children l (by simp))).1.value (Kind.has_value_of_isLiteral hlit.1)
          · exact (hr (hn.children r (by simp))).1.value (Kind.has_value_of_isLiteral hlit.2)
        · split
          · -- only a product can be a product by a number of a product
            next x c hkmul hlk hrk hch =>
            cases hkmul <;> exact reassociate_keepsScalars hl hr hlk hrk hch
          · exact rebuild_settle_keepsScalars (.cons hl (.cons hr .nil))
      · -- a text: its fragments are folded, then runs of literal text are merged
        refine Keeps.bind (Keeps.mapM ih) fun cs' hcs' => ?_
        by_cases hn : (mk .textRoot f cs).ScalarData
        · have hscalar : ∀ c' ∈ cs', c'.ScalarData := fun c' hc' => by
            obtain ⟨c, hc, hcr⟩ := exists_of_forall₂_left hcs' hc'
            exact (hcr (hn.children c hc)).1
          refine Keeps.bind (mergeRuns_scalarData cs' hscalar [] none (List.forall_mem_nil _)) fun merged hm => ?_
          refine Keeps.bind (Keeps.pure' (Q := (· = _)) rfl) fun r hr => ?_
          subst hr
          exact settle_insert_keepsScalars fun _ =>
            ⟨scalarData_of_children rfl (by decide) hm, fun h => absurd h (by simp [kind, Kind.has, Kind.fields])⟩
        · refine Keeps.bind (mergeRuns_keeps cs' [] none) fun merged _ => ?_
          refine Keeps.bind (Keeps.pure' (Q := fun _ => True) trivial) fun r _ => ?_
          exact settle_insert_keepsScalars fun hn' => absurd hn' hn
      · -- any other node: its children are folded and it is put back together
        exact Keeps.bind (Keeps.mapM ih) fun cs' hcs' => rebuild_settle_keepsScalars hcs'

/-- A plain tree names things by strings. -/
theorem Plain.nameOf_str {n : Node} (h : n.Plain) {v : Datum} (hv : n.nameOf = .ok v) :
    ∃ s, v = .str s := by
  induction h with
  | @mk k f cs _ hname _ ih =>
    unfold nameOf at hv
    split_ifs at hv with hk
    · cases hv
      exact hname hk
    · cases cs with
      | nil => cases hv
      | cons c rest => exact ih c List.mem_cons_self hv

end Node

namespace TypeMap

/-- The typed and folded tree of a tree with scalar literals has scalar literals. -/
theorem analyze_scalarData {m m' : TypeMap} {sigs : List (Datum × List Datum)} {t typed : Node}
    (ht : t.ScalarData) (h : m.analyze sigs t = (m', .ok typed)) : typed.ScalarData := by
  unfold analyze at h
  split at h
  · cases h
  · obtain ⟨typed₀, htype, hfold⟩ := Code.bind_eq_ok (Prod.mk.inj h).2
    obtain ⟨-, st, hvisit⟩ := typeTree_run htype
    obtain ⟨memo, hrun⟩ := fold_run hfold
    obtain ⟨-, htyped⟩ := Typing.visit_keepsScalars _ t {} typed₀ st (Memo.All.empty _) hvisit
    obtain ⟨-, hfolded⟩ := Node.foldM_keepsScalars typed₀ {} typed memo (Memo.All.empty _) hrun
    exact (hfolded (htyped ht).1).1

/-! ## Maps named by scalars -/

/-- A map whose variables and functions are all named by scalars. -/
structure ScalarNames (m : TypeMap) : Prop where
  vars : ∀ e ∈ m.vars, e.1.IsScalar
  functions : ∀ e ∈ m.functions, e.1.IsScalar

theorem scalarNames_empty : ({} : TypeMap).ScalarNames :=
  ⟨List.forall_mem_nil _, List.forall_mem_nil _⟩

theorem ScalarNames.freeze {m : TypeMap} (h : m.ScalarNames) : m.freeze.ScalarNames :=
  ⟨h.vars, h.functions⟩

/-- A successful use names no variable but those the map had and its own, and keeps the
functions. -/
theorem addUsage_names {v : Datum} {t : Ty} {u : Usage} {m m' : TypeMap} {r : Ty}
    (h : ((addUsage v t u).run).run m = (.ok r, m')) :
    (∀ e ∈ m'.vars, e.1 = v ∨ e.1 ∈ m.varNames) ∧ m'.functions = m.functions := by
  cases hf : m.frozen with
  | true =>
    rw [addUsage_frozen hf] at h
    cases h
  | false =>
    cases hg : m.getInfo v with
    | error e =>
      rw [addUsage_getInfo_error hf hg] at h
      cases h
    | ok res =>
      obtain ⟨m₁, i, info⟩ := res
      obtain ⟨-, -, -, -, -, hm₁⟩ := getInfo_ok hg
      -- the use rewrites the entry `getInfo` gave, and may log a conflict
      have hstate : m'.vars = (m₁.setInfoAt i (info.record t u)).vars ∧
          m'.functions = m₁.functions := by
        simp [addUsage, hf, ExceptT.run_bind, hg, addUsage.liftExcept] at h
        split at h
        · split at h
          · simp at h
            obtain ⟨-, rfl⟩ := h
            exact ⟨rfl, rfl⟩
          · cases h
        · cases h
          exact ⟨rfl, rfl⟩
      refine ⟨fun e he => ?_, hstate.2.trans (by rcases hm₁ with rfl | rfl <;> rfl)⟩
      rw [hstate.1] at he
      obtain ⟨j, hj, rfl⟩ := List.mem_mapIdx.1 he
      -- every entry keeps the name it was made with
      have hname : m₁.vars[j].1 = v ∨ m₁.vars[j].1 ∈ m.varNames := by
        have hmem : m₁.vars[j] ∈ m₁.vars := List.getElem_mem hj
        rcases hm₁ with rfl | rfl
        · exact .inr (List.mem_map_of_mem hmem)
        · rcases List.mem_append.1 hmem with hmem | hmem
          · exact .inr (List.mem_map_of_mem hmem)
          · exact .inl (by rw [List.mem_singleton.1 hmem])
      split <;> exact hname

/-- A declaration adds at most the function it names. -/
theorem addFunction_functions {m m' : TypeMap} {name : Datum} (h : m.addFunction name = .ok m') :
    ∀ e ∈ m'.functions, e ∈ m.functions ∨ e.1 = name := by
  cases hf : m.frozen with
  | true => simp only [addFunction, hf, if_true] at h; cases h
  | false =>
    cases hn : name.unhashable? with
    | some kind => simp only [addFunction, hf, Datum.hashable, hn] at h; cases h
    | none =>
      cases hh : m.hasFunction name with
      | true =>
        simp only [addFunction, hf, Datum.hashable, hn, hh] at h
        cases h
        exact fun e he => .inl he
      | false =>
        simp only [addFunction, hf, Datum.hashable, hn, hh] at h
        cases h
        intro e he
        rcases List.mem_append.1 he with he | he
        · exact .inl he
        · exact .inr (by rw [List.mem_singleton.1 he])

/-- A declaration with parameter types adds at most the function it names. -/
theorem declareTyped_functions {m m' : TypeMap} {name : Datum} {types : Except Failure (List Ty)}
    (h : m.declareTyped name types = .ok m') : ∀ e ∈ m'.functions, e ∈ m.functions ∨ e.1 = name := by
  cases hf : m.frozen with
  | true => simp only [declareTyped, hf, if_true] at h; cases h
  | false =>
    cases hn : name.unhashable? with
    | some kind => simp only [declareTyped, hf, Datum.hashable, hn] at h; cases h
    | none =>
      cases hh : m.hasFunction name with
      | true => simp only [declareTyped, hf, Datum.hashable, hn, hh] at h; cases h
      | false =>
        cases types with
        | error f => simp only [declareTyped, hf, Datum.hashable, hn, hh] at h; cases h
        | ok ts =>
          simp only [declareTyped, hf, Datum.hashable, hn, hh] at h
          cases h
          intro e he
          rcases List.mem_append.1 he with he | he
          · exact .inl he
          · exact .inr (by rw [List.mem_singleton.1 he])

theorem ScalarNames.addUsage {m m' : TypeMap} (h : m.ScalarNames) {v : Datum} (hv : v.IsScalar)
    {t : Ty} {u : Usage} {r : Ty} (hrun : ((addUsage v t u).run).run m = (.ok r, m')) :
    m'.ScalarNames := by
  obtain ⟨hvars, hfun⟩ := addUsage_names hrun
  refine ⟨fun e he => ?_, hfun ▸ h.functions⟩
  rcases hvars e he with heq | hold
  · rw [heq]
    exact hv
  · obtain ⟨e', he', heq⟩ := List.mem_map.1 hold
    rw [← heq]
    exact h.vars e' he'

theorem ScalarNames.addFunction {m m' : TypeMap} (h : m.ScalarNames) {name : Datum}
    (hn : name.IsScalar) (hadd : m.addFunction name = .ok m') : m'.ScalarNames := by
  refine ⟨(addFunction_ok hadd).1 ▸ h.vars, fun e he => ?_⟩
  rcases addFunction_functions hadd e he with he | rfl
  · exact h.functions e he
  · exact hn

/-- Entering signatures named by scalars keeps the names of a map scalars. -/
theorem declareSignatures_scalarNames {sigs : List (Datum × List Ty)}
    (hs : ∀ p ∈ sigs, p.1.IsScalar) {m m₁ : TypeMap} (h : m.ScalarNames)
    (hrun : ((declareSignatures sigs).run).run m = (.ok (), m₁)) : m₁.ScalarNames := by
  induction sigs generalizing m with
  | nil =>
    cases hrun
    exact h
  | cons p rest ih =>
    obtain ⟨name, types⟩ := p
    have hrest : ∀ q ∈ rest, q.1.IsScalar := fun q hq => hs q (List.mem_cons_of_mem _ hq)
    simp only [declareSignatures, bne_iff_ne, ne_eq, Code.pure_ok, ExceptT.bind_throw, ite_not,
      pure_bind, ExceptT.run_bind, step_run_get, bind_map_left, StateT.run_bind, StateT.run_get] at hrun
    split at hrun
    · split at hrun
      · exact ih hrest h hrun
      · split at hrun
        · rename_i m' hd
          simp only [ExceptT.run_bind, step_run_set, bind_map_left, StateT.run_bind, StateT.run_set,
            pure_bind] at hrun
          refine ih hrest ⟨(declareTyped_ok hd).1 ▸ h.vars, fun e he => ?_⟩ hrun
          rcases declareTyped_functions hd e he with he | rfl
          · exact h.functions e he
          · exact hs _ List.mem_cons_self
        · simp only [ExceptT.run_throw, StateT.run_pure] at hrun
          cases hrun
    · simp only [ExceptT.run_throw, StateT.run_pure] at hrun
      cases hrun

/-- Inference over a plain tree, after signatures named by scalars, keeps the names of a map
scalars: it names variables and functions after the tree. -/
theorem infer_scalarNames {m m' : TypeMap} (h : m.ScalarNames) {sigs : List (Datum × List Ty)}
    (hs : ∀ p ∈ sigs, p.1.IsScalar) {t : Node} (ht : t.Plain) (hinf : m.infer sigs t = (m', none)) :
    m'.ScalarNames := by
  unfold infer at hinf
  split at hinf
  · cases hinf
  · next m₁ hdecl =>
    have h₁ := declareSignatures_scalarNames hs h hdecl
    rcases hrun : ((Infer.visit none t).run).run { map := m₁ } with ⟨r, st⟩
    rw [hrun] at hinf
    cases r with
    | error f => cases hinf
    | ok a =>
      cases hinf
      have hnames : ∀ c ∈ t.walk, ∀ v, c.nameOf = .ok v → v.IsScalar := fun c hc v hv => by
        obtain ⟨s, rfl⟩ := (ht.of_mem_walk hc).nameOf_str hv
        exact Datum.isScalar_str s
      exact Infer.visit_keepsMap_named (fun _ _ _ _ _ _ hv _ hm hrun => hm.addUsage hv hrun)
        (fun _ _ _ hn hm hadd => hm.addFunction hn hadd) t hnames none _ a st h₁ hrun

/-- A fold in `Except` keeps what each of its successful steps on a member of the list keeps. -/
theorem foldlM_keeps_of_mem {α β : Type} {I : α → Prop} {f : α → β → Except Failure α}
    (l : List β) (hf : ∀ a b a', b ∈ l → I a → f a b = .ok a' → I a') :
    ∀ (a r : α), I a → l.foldlM f a = .ok r → I r := by
  induction l with
  | nil =>
    intro a r ha h
    cases h
    exact ha
  | cons b rest ih =>
    intro a r ha h
    obtain ⟨a', ha', h⟩ := Code.bind_eq_ok h
    exact ih (fun a b a' hb => hf a b a' (List.mem_cons_of_mem _ hb)) a' r
      (hf a b a' List.mem_cons_self ha ha') h

/-- A name that can be a key and is not safe text is a scalar. -/
theorem isScalar_of_hashable {d : Datum} (h : d.hashable = .ok ()) (hs : ∀ x, d ≠ .safe x) :
    d.IsScalar := by
  cases d with
  | scalar s => exact ⟨s, rfl⟩
  | safe x => exact absurd rfl (hs x)
  | list _ => cases h
  | dict _ => cases h

/-- Keying entries by names that are not safe text keeps only scalar names: every other name
fails the check that it can be a key. -/
theorem keyedByName_scalar {α : Type} {entries r : List (Datum × α)}
    (hs : ∀ q ∈ entries, ∀ x, q.1 ≠ .safe x) (h : keyedByName entries = .ok r) :
    ∀ e ∈ r, e.1.IsScalar := by
  refine foldlM_keeps_of_mem (I := fun acc : List (Datum × α) => ∀ e ∈ acc, e.1.IsScalar) entries
    (fun acc q acc' hq hacc hstep => ?_) [] r (List.forall_mem_nil _) h
  obtain ⟨k, v⟩ := q
  obtain ⟨_, hk, hstep⟩ := Code.bind_eq_ok hstep
  split at hstep
  · cases hstep
    intro e he
    obtain ⟨e₀, he₀, rfl⟩ := List.mem_map.1 he
    split
    · exact hacc e₀ he₀
    · exact hacc e₀ he₀
  · cases hstep
    intro e he
    rcases List.mem_append.1 he with he | he
    · exact hacc e he
    · rw [List.mem_singleton.1 he]
      exact isScalar_of_hashable hk (hs _ hq)

theorem mapM_ok_forall₂ {ε α β : Type} {g : α → Except ε β} :
    ∀ {l : List α} {r : List β}, l.mapM g = .ok r → List.Forall₂ (fun a b => g a = .ok b) l r
  | [], r, h => by
    cases h
    exact .nil
  | a :: l, r, h => by
    rw [List.mapM_cons] at h
    obtain ⟨b, hb, h⟩ := Code.bind_eq_ok h
    obtain ⟨bs, hbs, h⟩ := Code.bind_eq_ok h
    cases h
    exact .cons hb (mapM_ok_forall₂ hbs)

/-- Signatures that parse, none named by safe text, are named by scalars. -/
theorem parseSignatures_scalar {sigs : List (Datum × List Datum)}
    (hs : ∀ q ∈ sigs, ∀ x, q.1 ≠ .safe x) {s : List (Datum × List Ty)}
    (h : parseSignatures sigs = .ok s) : ∀ p ∈ s, p.1.IsScalar := by
  obtain ⟨keyedSigs, hkeyed, hmap⟩ := Code.bind_eq_ok h
  intro p hp
  obtain ⟨q, hq, hqp⟩ := Node.exists_of_forall₂_left (mapM_ok_forall₂ hmap).flip hp
  -- reading the type names keeps the name of each signature
  obtain ⟨ts, -, hqp⟩ := Code.bind_eq_ok hqp
  cases hqp
  exact keyedByName_scalar hs hkeyed q hq

/-- Analysis of a plain tree, under signatures none of which is named by safe text, keeps the
names of a map scalars. -/
theorem analyze_scalarNames {m m' : TypeMap} (h : m.ScalarNames) {sigs : List (Datum × List Datum)}
    (hs : ∀ q ∈ sigs, ∀ x, q.1 ≠ .safe x) {t typed : Node} (ht : t.Plain)
    (ha : m.analyze sigs t = (m', .ok typed)) : m'.ScalarNames := by
  unfold analyze at ha
  split at ha
  · cases ha
  · next m₂ hsettle =>
    obtain ⟨rfl, -⟩ := Prod.mk.inj ha
    unfold settleTypes at hsettle
    split at hsettle
    · cases hsettle
      exact h
    · split at hsettle
      · next m₃ hw =>
        cases hsettle
        unfold inferWith at hw
        split at hw
        · cases hw
        · next s hparse => exact (infer_scalarNames h (parseSignatures_scalar hs hparse) ht hw).freeze
      · cases hsettle

end TypeMap

end Lingo
