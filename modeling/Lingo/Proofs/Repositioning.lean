import Mathlib.Data.Prod.Lex
import Lingo.Proofs.FoldedTrees
import Lingo.Tree.Reposition

/-!
# Repositioning composes

`Pos.reposition e` moves a span read in a fragment of its own into the text where the fragment
starts at `e`. On spans whose lines count from one, moving through two nested fragments is moving
once through the inner fragment placed in the outer text (`Pos.reposition_reposition`), and every
move is injective and keeps the order of starts and of ends, line first
(`Pos.reposition_injective`, `Pos.reposition_firstPoint_lt`, `Pos.reposition_lastPoint_lt`).

The pass `Node.reposition` moves every position of a tree the same way (`Node.shift`) and shares
results between nodes of one key. On a tree that the node constructors accept and that has a key,
it succeeds with a result of the key of the moved tree (`Node.reposition_moves`), so two passes
agree, as nodes compare, with one pass through the composed fragment. A pass that moves no position
gives the tree itself (`Node.reposition_fixed`). `reposition_laws` collects the laws.
-/

namespace Lingo

namespace Pos

/-- Moving a span through the fragment `b` and then through `a` is moving it once through `b`
placed in `a`: `a`'s first column shifts the span's columns only where both the span and `b` start
on their first line. -/
theorem reposition_reposition (a : Pos) {b p : Pos} (hb : 1 ≤ b.firstLine) (hpf : 1 ≤ p.firstLine)
    (hpl : 1 ≤ p.lastLine) : a.reposition (b.reposition p) = (a.reposition b).reposition p := by
  simp only [reposition, Pos.mk.injEq]
  refine ⟨by omega, ?_, by omega, ?_⟩ <;> split_ifs <;> omega

/-- Distinct spans stay distinct. -/
theorem reposition_injective (e : Pos) : Function.Injective e.reposition := by
  intro p q h
  obtain ⟨pfl, pfc, pll, plc⟩ := p
  obtain ⟨qfl, qfc, qll, qlc⟩ := q
  simp only [reposition, Pos.mk.injEq] at h ⊢
  obtain ⟨h₁, h₂, h₃, h₄⟩ := h
  -- equal lines make both spans take the same branch for their columns
  refine ⟨by omega, ?_, by omega, ?_⟩ <;> split_ifs at h₂ h₄ <;> omega

/-- A fragment that starts the text, on its first line at its first column, moves nothing. -/
theorem reposition_at_start {l c : Int} (p : Pos) : Pos.reposition ⟨1, 0, l, c⟩ p = p := by
  obtain ⟨pfl, pfc, pll, plc⟩ := p
  simp only [reposition, Pos.mk.injEq]
  refine ⟨by omega, ?_, by omega, ?_⟩ <;> split_ifs <;> omega

/-- Where a span starts, ordered line first. -/
def firstPoint (p : Pos) : Int ×ₗ Int := toLex (p.firstLine, p.firstColumn)

/-- Where a span ends, ordered line first. -/
def lastPoint (p : Pos) : Int ×ₗ Int := toLex (p.lastLine, p.lastColumn)

theorem reposition_firstPoint_lt (e : Pos) {p q : Pos} (h : p.firstPoint < q.firstPoint) :
    (e.reposition p).firstPoint < (e.reposition q).firstPoint := by
  simp only [firstPoint, Prod.Lex.toLex_lt_toLex, reposition] at h ⊢
  rcases h with h | ⟨h₁, h₂⟩
  · exact .inl (by omega)
  · refine .inr ⟨by omega, ?_⟩
    split_ifs <;> omega

theorem reposition_lastPoint_lt (e : Pos) {p q : Pos} (h : p.lastPoint < q.lastPoint) :
    (e.reposition p).lastPoint < (e.reposition q).lastPoint := by
  simp only [lastPoint, Prod.Lex.toLex_lt_toLex, reposition] at h ⊢
  rcases h with h | ⟨h₁, h₂⟩
  · exact .inl (by omega)
  · refine .inr ⟨by omega, ?_⟩
    split_ifs <;> omega

end Pos

namespace Node

/-! ## The moved tree -/

/-- The fields of a node of kind `k` with its position, if it carries one, moved by
`Pos.reposition e`. -/
def movedFields (e : Pos) (k : Kind) (f : Fields) : Fields :=
  if k.has .pos then { f with pos := e.reposition f.pos } else f

mutual

/-- The tree `n` with the position of every node that carries one moved by `Pos.reposition e`. -/
def shift (e : Pos) : Node → Node
  | mk k f cs => mk k (movedFields e k f) (shiftAll e cs)

/-- The trees of a list, moved. -/
def shiftAll (e : Pos) : List Node → List Node
  | [] => []
  | c :: cs => shift e c :: shiftAll e cs

end

theorem shiftAll_eq_map (e : Pos) (cs : List Node) : shiftAll e cs = cs.map (shift e) := by
  induction cs with
  | nil => rfl
  | cons c cs ih => simp [shiftAll, ih]

@[simp] theorem shift_mk (e : Pos) (k : Kind) (f : Fields) (cs : List Node) :
    (Node.mk k f cs).shift e = .mk k (movedFields e k f) (cs.map (shift e)) := by
  rw [shift, shiftAll_eq_map]

@[simp] theorem shift_kind (e : Pos) (n : Node) : (n.shift e).kind = n.kind := by
  obtain ⟨k, f, cs⟩ := n
  simp [kind]

@[simp] theorem map_kind_shift (e : Pos) (cs : List Node) :
    (cs.map (shift e)).map kind = cs.map kind := by
  simp [Function.comp_def]

@[simp] theorem movedFields_value (e : Pos) (k : Kind) (f : Fields) :
    (movedFields e k f).value = f.value := by
  unfold movedFields
  split <;> rfl

@[simp] theorem movedFields_op (e : Pos) (k : Kind) (f : Fields) :
    (movedFields e k f).op = f.op := by
  unfold movedFields
  split <;> rfl

/-- Moving keeps agreement field by field. -/
theorem movedFields_agreeOn {e : Pos} {k : Kind} {f f' : Fields} {fld : FieldName}
    (h : Fields.agreeOn true f' f fld = true) :
    Fields.agreeOn true (movedFields e k f') (movedFields e k f) fld = true := by
  unfold movedFields
  split
  · cases fld <;> simp_all [Fields.agreeOn]
  · exact h

/-- Moving keeps nodes of one key together. -/
theorem shift_sameKey (e : Pos) {a b : Node} (h : sameKey true a b = true) :
    sameKey true (a.shift e) (b.shift e) = true := by
  induction b using Node.induction generalizing a with
  | h k f cs ih =>
    obtain ⟨f', cs', rfl, hf, hcs⟩ := sameKey_mk_right h
    rw [shift_mk, shift_mk, sameKey_mk]
    refine ⟨rfl, fun fld hfld => movedFields_agreeOn (hf fld hfld), ?_⟩
    rw [List.forall₂_map_left_iff, List.forall₂_map_right_iff]
    exact forall₂_imp_mem hcs fun _ c hc hkey => ih c hc hkey

/-- A moved tree has a key when the tree has one: positions are no lists. -/
theorem shift_keyed (e : Pos) {n : Node} (hn : n.unhashable? = none) :
    (n.shift e).unhashable? = none := by
  induction n using Node.induction with
  | h k f cs ih =>
    obtain ⟨hfields, hcs⟩ := keyed_mk.1 hn
    rw [shift_mk]
    refine keyed_mk.2 ⟨fun fld hfld => ?_, fun c' hc' => ?_⟩
    · have hf := hfields fld hfld
      unfold movedFields
      split <;> cases fld <;> simp_all [Fields.get, FieldValue.unhashable?]
    · obtain ⟨c, hc, rfl⟩ := List.mem_map.1 hc'
      exact ih c hc (hcs c hc)

/-- Every position the nodes of a tree carry starts and ends on a line counted from one. -/
inductive LinesFromOne : Node → Prop
  | mk {k : Kind} {f : Fields} {cs : List Node}
      (hpos : k.has .pos → 1 ≤ f.pos.firstLine ∧ 1 ≤ f.pos.lastLine)
      (hcs : ∀ c ∈ cs, LinesFromOne c) : LinesFromOne (.mk k f cs)

/-- Moving a tree with lines counted from one through `b` and then through `a` moves it once
through `b` placed in `a`. -/
theorem shift_shift {a b : Pos} (hb : 1 ≤ b.firstLine) {n : Node} (hn : n.LinesFromOne) :
    (n.shift b).shift a = n.shift (a.reposition b) := by
  induction hn with
  | @mk k f cs hpos _ ih =>
    simp only [shift_mk, List.map_map]
    congr 1
    · unfold movedFields
      split
      · next hk =>
        obtain ⟨h₁, h₂⟩ := hpos hk
        simp only [Pos.reposition_reposition a hb h₁ h₂]
      · rfl
    · exact List.map_congr_left fun c hc => ih c hc

/-! ## Trees the node constructors accept -/

/-- Every node of a tree passes the checks the node constructors make (`Node.build`): the
children and the value of a gender value, the operator and the right side of a comparison, and the
number of children. -/
inductive Checked : Node → Prop
  | mk {k : Kind} {f : Fields} {cs : List Node} (hhead : checkHead k cs.length f = .ok ())
      (harity : checkArity k cs = .ok ()) (hcomparand : checkComparand k cs = .ok ())
      (hcs : ∀ c ∈ cs, Checked c) : Checked (.mk k f cs)

/-- The checks of a node's head read the value of a gender value and the operator of a
comparison, nothing else of its fields. -/
theorem checkHead_congr {k : Kind} {len : Nat} {f f' : Fields}
    (hv : k = .genderValue → f'.value = f.value)
    (hop : k = .equality ∨ k = .inequality → f'.op = f.op) :
    checkHead k len f' = checkHead k len f := by
  cases k <;> simp_all [checkHead]

/-- A gender value that passes the checks holds a string. -/
theorem checkHead_genderValue {len : Nat} {f : Fields}
    (h : checkHead .genderValue len f = .ok ()) : ∃ s, f.value = .str s := by
  cases hv : f.value with
  | scalar s =>
    cases s with
    | str s => exact ⟨s, rfl⟩
    | _ => simp only [checkHead, hv, if_true] at h; split_ifs at h <;> cases h
  | _ => simp only [checkHead, hv, if_true] at h; split_ifs at h <;> cases h

/-- Whether a comparison's right side passes depends on the kinds of the children only. -/
theorem checkComparand_of_kinds {k : Kind} {cs cs' : List Node} (hk : cs'.map kind = cs.map kind)
    (h : checkComparand k cs = .ok ()) : checkComparand k cs' = .ok () := by
  unfold checkComparand at h ⊢
  split
  case h_3 => rfl
  all_goals
    obtain _ | ⟨y, _ | ⟨r, _ | ⟨z, rest⟩⟩⟩ := cs <;> simp at hk
    simp_all

/-- The checks of the node constructors read the kinds of the children, the value of a gender
value and the operator of a comparison: a node that agrees with an accepted one on these passes
them too. -/
theorem checks_congr {k : Kind} {f f' : Fields} {cs cs' : List Node}
    (hkinds : cs'.map kind = cs.map kind) (hv : k = .genderValue → f'.value = f.value)
    (hop : k = .equality ∨ k = .inequality → f'.op = f.op)
    (hhead : checkHead k cs.length f = .ok ()) (harity : checkArity k cs = .ok ())
    (hcomparand : checkComparand k cs = .ok ()) :
    checkHead k cs'.length f' = .ok () ∧ checkArity k cs' = .ok () ∧
      checkComparand k cs' = .ok () := by
  have hlen : cs'.length = cs.length := by
    rw [← List.length_map (f := kind), hkinds, List.length_map]
  refine ⟨?_, ?_, checkComparand_of_kinds hkinds hcomparand⟩
  · rw [hlen, checkHead_congr hv hop]
    exact hhead
  · unfold checkArity at harity ⊢
    rw [hlen]
    exact harity

/-- A tree of the key of a tree the constructors accept is accepted too. -/
theorem Checked.of_sameKey {a b : Node} (h : sameKey true a b = true) (hb : b.Checked) :
    a.Checked := by
  induction hb generalizing a with
  | @mk k f cs hhead harity hcomparand _ ih =>
    obtain ⟨f', cs', rfl, hf, hcs⟩ := sameKey_mk_right h
    -- a gender value holds a string, and what agrees with a string is that string
    have hvalue : k = .genderValue → f'.value = f.value := by
      rintro rfl
      obtain ⟨s, hs⟩ := checkHead_genderValue hhead
      have hagree := hf .value (by decide)
      simp only [Fields.agreeOn, hs, Datum.agree_str_right] at hagree
      rw [hagree, hs]
    have hop : k = .equality ∨ k = .inequality → f'.op = f.op := by
      rintro (rfl | rfl) <;>
      · have hagree := hf .op (by decide)
        simpa [Fields.agreeOn] using hagree
    obtain ⟨hhead', harity', hcomparand'⟩ :=
      checks_congr (map_kind_of_forall₂ hcs) hvalue hop hhead harity hcomparand
    refine .mk hhead' harity' hcomparand' fun c' hc' => ?_
    obtain ⟨c, hc, hkey⟩ := exists_of_forall₂_left hcs hc'
    exact ih c hc hkey

/-- Moving positions keeps what the constructors accept. -/
theorem Checked.shift (e : Pos) {n : Node} (hn : n.Checked) : (n.shift e).Checked := by
  induction hn with
  | @mk k f cs hhead harity hcomparand _ ih =>
    rw [shift_mk]
    obtain ⟨hhead', harity', hcomparand'⟩ :=
      checks_congr (map_kind_shift e cs) (fun _ => movedFields_value e k f)
        (fun _ => movedFields_op e k f) hhead harity hcomparand
    refine .mk hhead' harity' hcomparand' fun c' hc' => ?_
    obtain ⟨c, hc, rfl⟩ := List.mem_map.1 hc'
    exact ih c hc

/-! ## One pass -/

/-- The memo of a pass that moves positions by `e`: each result has the key of its node moved. -/
abbrev MemoMoves (e : Pos) (memo : Memo) : Prop :=
  memo.All fun a r => sameKey true r (a.shift e) = true

/-- Putting a node the constructors accept back together from children of the keys of its moved
children, with its fields moved, succeeds with a node of the key of the moved node. -/
theorem rebuild_moved {e : Pos} {k : Kind} {f : Fields} {cs cs' : List Node}
    (hn : (Node.mk k f cs).Checked) (hk : (Node.mk k f cs).unhashable? = none)
    (hcs : List.Forall₂ (fun r c => sameKey true r (c.shift e) = true) cs' cs) :
    ∃ r, (Node.mk k f cs).rebuild cs' (movedFields e k f) = .ok r ∧
      sameKey true r ((Node.mk k f cs).shift e) = true := by
  have hshift := shift_keyed e hk
  have hmoved := (keyed_mk.1 (shift_mk e k f cs ▸ hshift)).1
  have hnew : sameKey true (.mk k (movedFields e k f) cs') ((Node.mk k f cs).shift e) = true := by
    rw [shift_mk, sameKey_mk]
    refine ⟨rfl, fun fld hfld => agreeOn_self (hmoved fld hfld), ?_⟩
    rw [List.forall₂_map_right_iff]
    exact hcs
  unfold rebuild
  split
  · -- the children and the moved fields have the node's own keys: the node has the moved key
    next hsame =>
    simp only [Bool.and_eq_true, sameKeys_iff_forall₂, List.all_eq_true, children, kind,
      fields] at hsame
    have hback : sameKey true (.mk k (movedFields e k f) cs') (.mk k f cs) = true :=
      (sameKey_mk true _ _ _ _ _ _).2 ⟨rfl, hsame.2, hsame.1⟩
    exact ⟨_, rfl, sameKey_trans (sameKey_symm hback hk) hnew hshift⟩
  · -- otherwise the node passes the checks it passed before
    cases hn with
    | mk hhead harity hcomparand _ =>
      have hkinds : cs'.map kind = cs.map kind := by
        rw [map_kind_of_forall₂ (List.forall₂_map_right_iff.2 hcs), map_kind_shift]
      obtain ⟨hhead', harity', hcomparand'⟩ :=
        checks_congr hkinds (fun _ => movedFields_value e k f) (fun _ => movedFields_op e k f)
          hhead harity hcomparand
      simp only [kind, hhead', harity', hcomparand']
      exact ⟨_, rfl, hnew⟩

/-- A pass over a tree the constructors accept that has a key succeeds from every memo of moved
keys, with a result of the key of the moved tree. -/
theorem repositionM_moves (e : Pos) {n : Node} (hn : n.Checked) (hk : n.unhashable? = none) :
    Succeeds (MemoMoves e) (repositionM e n) (fun r => sameKey true r (n.shift e) = true) := by
  induction hn with
  | @mk k f cs hhead harity hcomparand hcs ih =>
    have hchildren := (keyed_mk.1 hk).2
    have hshift := shift_keyed e hk
    intro memo hm
    rw [repositionM.eq_1]
    dsimp only
    rw [StateT.run_bind, StateT.run_get, pure_bind]
    cases hfind : memo.find? (.mk k f cs) with
    | some r =>
      -- a result remembered for a node of the same key has the moved key of that node
      dsimp only
      refine ⟨r, memo, rfl, hm, ?_⟩
      refine Memo.All.find
        (R := fun a r => a.unhashable? = none → sameKey true r (a.shift e) = true)
        (fun e he _ => hm e he) (fun a n r h hkey hn => ?_) hfind hk
      exact sameKey_trans (h (unhashable_of_sameKey hkey hn)) (shift_sameKey e hkey)
        (shift_keyed e hn)
    | none =>
      dsimp only
      refine Succeeds.bind (Succeeds.mapM fun c hc => ih c hc (hchildren c hc)) (fun cs' hcs' => ?_)
        memo hm
      obtain ⟨r₀, hr₀, hkey₀⟩ := rebuild_moved (.mk hhead harity hcomparand hcs) hk hcs'
      have hr₀' : (Node.mk k f cs).rebuild cs'
          (if k.has .pos then { f with pos := e.reposition f.pos } else f) = .ok r₀ := hr₀
      -- settling gives the node itself only when the result has its key
      have hsettle : sameKey true (settle (.mk k f cs) r₀) ((Node.mk k f cs).shift e) = true := by
        unfold settle
        split
        · next h => exact sameKey_trans (sameKey_symm h hk) hkey₀ hshift
        · exact hkey₀
      simp only [hr₀', TransformM.ofBuild, pure_bind]
      exact Succeeds.bind (Succeeds.modify' fun _ hs => hs.insert hsettle) fun _ _ =>
        Succeeds.pure' hsettle

theorem run'_of_run {x : TransformM Node} {memo memo' : Memo} {r : Node}
    (h : x.run memo = .ok (r, memo')) : x.run' memo = .ok r := by
  change (fun p => p.1) <$> x.run memo = _
  rw [h]
  rfl

/-- Repositioning a tree the constructors accept that has a key succeeds, with a tree of the key
of the moved tree. -/
theorem reposition_moves (e : Pos) {t : Node} (hc : t.Checked) (hk : t.unhashable? = none) :
    ∃ r, t.reposition e = .ok r ∧ sameKey true r (t.shift e) = true := by
  obtain ⟨r, memo', hrun, -, hr⟩ := repositionM_moves e hc hk {} (Memo.All.empty _)
  refine ⟨r, ?_, hr⟩
  simp only [reposition, requireKey_ok hk, run'_of_run hrun]
  rfl

/-- A pass that moves no position gives each node of a tree with a key back as it was, or the
result remembered for its key. -/
theorem repositionM_fixed {e : Pos} (he : ∀ p, e.reposition p = p) {n : Node}
    (hk : n.unhashable? = none) {memo : Memo} (hm : MemoKeepsKeys memo) :
    ∃ memo', (repositionM e n).run memo = .ok ((memo.find? n).getD n, memo') ∧
      MemoKeepsKeys memo' := by
  induction n using Node.induction generalizing memo with
  | h k f cs ih =>
    have hchildren := (keyed_mk.1 hk).2
    have hchild : ∀ c ∈ cs, Succeeds MemoKeepsKeys (repositionM e c)
        (fun r => sameKey true r c = true) := by
      intro c hc memo₀ hm₀
      obtain ⟨memo', hrun, hm'⟩ := ih c hc (hchildren c hc) hm₀
      exact ⟨_, memo', hrun, hm', find?_getD_sameKey hm₀ (hchildren c hc)⟩
    have hf : (if k.has .pos then { f with pos := e.reposition f.pos } else f) = f := by
      split <;> simp [he]
    rw [repositionM.eq_1]
    cases hfind : memo.find? (.mk k f cs) with
    | some r =>
      simp only [StateT.run_bind, StateT.run_get, pure_bind, hfind]
      exact ⟨memo, rfl, hm⟩
    | none =>
      simp only [StateT.run_bind, StateT.run_get, pure_bind, hfind, Option.getD_none, hf]
      exact Succeeds.run_eq (Succeeds.bind (Succeeds.mapM hchild) fun cs' hcs' =>
        rebuild_settle_succeeds hcs' hk) hm

/-- A pass that moves no position gives a tree with a key back as it is. -/
theorem reposition_fixed {e : Pos} (he : ∀ p, e.reposition p = p) {t : Node}
    (hk : t.unhashable? = none) : t.reposition e = .ok t := by
  obtain ⟨memo', hrun, -⟩ := repositionM_fixed he hk (Memo.All.empty _)
  simp only [reposition, requireKey_ok hk, run'_of_run hrun]
  rfl

/-- Repositioning through `b` and then through `a` agrees, as nodes compare, with repositioning
once through `b` placed in `a`. -/
theorem reposition_reposition_sameKey {a b : Pos} (hb : 1 ≤ b.firstLine) {t : Node}
    (hc : t.Checked) (hk : t.unhashable? = none) (hl : t.LinesFromOne) :
    ∃ t₁ t₂ t₃, t.reposition b = .ok t₁ ∧ t₁.reposition a = .ok t₂ ∧
      t.reposition (a.reposition b) = .ok t₃ ∧ sameKey true t₂ t₃ = true := by
  obtain ⟨t₁, h₁, hkey₁⟩ := reposition_moves b hc hk
  -- the first result has a key and is accepted, so the second pass succeeds on it
  have hk₁ : t₁.unhashable? = none := unhashable_of_sameKey hkey₁ (shift_keyed b hk)
  have hc₁ : t₁.Checked := (hc.shift b).of_sameKey hkey₁
  obtain ⟨t₂, h₂, hkey₂⟩ := reposition_moves a hc₁ hk₁
  obtain ⟨t₃, h₃, hkey₃⟩ := reposition_moves (a.reposition b) hc hk
  refine ⟨t₁, t₂, t₃, h₁, h₂, h₃, ?_⟩
  have hmoved : (t.shift (a.reposition b)).unhashable? = none := shift_keyed _ hk
  have htwice : sameKey true t₂ (t.shift (a.reposition b)) = true := by
    rw [← shift_shift hb hl] at hmoved ⊢
    exact sameKey_trans hkey₂ (shift_sameKey a hkey₁) hmoved
  exact sameKey_trans htwice (sameKey_symm hkey₃ hmoved) (unhashable_of_sameKey hkey₃ hmoved)

/-- A tree whose key holds a list is refused, even by a pass that moves nothing. -/
theorem reposition_refuses_keyless :
    Node.reposition ⟨1, 0, 1, 0⟩
        (.mk .textRoot {} [.mk .textVar { name := .list [.scalar (.int 1)] } []]) =
      .error (.unhashable "list") := by
  rfl

end Node

/-- The laws of repositioning. On spans, moving through two nested fragments is moving once through
the inner fragment placed in the outer one, and every move is injective and keeps the order of
starts and of ends. On trees the node constructors accept and that have a key, two passes agree, as
nodes compare, with one pass through the composed fragment; a pass through a fragment that starts
the text gives every tree with a key back as it is. -/
theorem reposition_laws (a b : Pos) :
    (1 ≤ b.firstLine → ∀ p : Pos, 1 ≤ p.firstLine → 1 ≤ p.lastLine →
      a.reposition (b.reposition p) = (a.reposition b).reposition p) ∧
    Function.Injective a.reposition ∧
    (∀ p q : Pos, p.firstPoint < q.firstPoint →
      (a.reposition p).firstPoint < (a.reposition q).firstPoint) ∧
    (∀ p q : Pos, p.lastPoint < q.lastPoint →
      (a.reposition p).lastPoint < (a.reposition q).lastPoint) ∧
    (1 ≤ b.firstLine → ∀ t : Node, t.Checked → t.unhashable? = none → t.LinesFromOne →
      ∃ t₁ t₂ t₃, t.reposition b = .ok t₁ ∧ t₁.reposition a = .ok t₂ ∧
        t.reposition (a.reposition b) = .ok t₃ ∧ Node.sameKey true t₂ t₃ = true) ∧
    (∀ (l c : Int) (t : Node), t.unhashable? = none → t.reposition ⟨1, 0, l, c⟩ = .ok t) := by
  refine ⟨fun hb p hpf hpl => a.reposition_reposition hb hpf hpl, a.reposition_injective,
    fun _ _ => a.reposition_firstPoint_lt, fun _ _ => a.reposition_lastPoint_lt,
    fun hb t hc hk hl => Node.reposition_reposition_sameKey hb hc hk hl,
    fun l c t hk => Node.reposition_fixed Pos.reposition_at_start hk⟩

/-- A variable on the first line of a fragment that stands in a second fragment: the laws apply to
it, and the two passes agree with one. -/
theorem reposition_laws_nested :
    1 ≤ (⟨2, 6, 2, 8⟩ : Pos).firstLine ∧
    (Node.mk .textRoot {} [.mk .textVar { name := .str "x", pos := ⟨1, 2, 1, 5⟩ } []]).Checked ∧
    (Node.mk .textRoot {} [.mk .textVar { name := .str "x", pos := ⟨1, 2, 1, 5⟩ } []]).unhashable? =
      none ∧
    Node.LinesFromOne
      (.mk .textRoot {} [.mk .textVar { name := .str "x", pos := ⟨1, 2, 1, 5⟩ } []]) ∧
    ∃ t₁ t₂ t₃,
      (Node.mk .textRoot {} [.mk .textVar { name := .str "x", pos := ⟨1, 2, 1, 5⟩ } []]).reposition
        ⟨2, 6, 2, 8⟩ = .ok t₁ ∧ t₁.reposition ⟨3, 4, 3, 9⟩ = .ok t₂ ∧
      (Node.mk .textRoot {} [.mk .textVar { name := .str "x", pos := ⟨1, 2, 1, 5⟩ } []]).reposition
        (Pos.reposition ⟨3, 4, 3, 9⟩ ⟨2, 6, 2, 8⟩) = .ok t₃ ∧ Node.sameKey true t₂ t₃ = true := by
  have hb : 1 ≤ (⟨2, 6, 2, 8⟩ : Pos).firstLine := by decide
  have hvar : Node.Checked (.mk .textVar { name := .str "x", pos := ⟨1, 2, 1, 5⟩ } []) :=
    .mk rfl rfl rfl (by simp)
  have hvarLines : Node.LinesFromOne (.mk .textVar { name := .str "x", pos := ⟨1, 2, 1, 5⟩ } []) :=
    .mk (fun _ => ⟨by decide, by decide⟩) (by simp)
  have hc : Node.Checked
      (.mk .textRoot {} [.mk .textVar { name := .str "x", pos := ⟨1, 2, 1, 5⟩ } []]) :=
    .mk rfl rfl rfl (by simpa using hvar)
  have hl : Node.LinesFromOne
      (.mk .textRoot {} [.mk .textVar { name := .str "x", pos := ⟨1, 2, 1, 5⟩ } []]) :=
    .mk (by decide) (by simpa using hvarLines)
  exact ⟨hb, hc, rfl, hl, (reposition_laws ⟨3, 4, 3, 9⟩ ⟨2, 6, 2, 8⟩).2.2.2.2.1 hb _ hc rfl hl⟩

end Lingo
