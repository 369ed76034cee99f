import Mathlib
import Lingo.Proofs.FoldedTrees

/-!
# Folding reaches its fixed point in one round

A round of folding makes every tree with a key folded (`Node.fold_foldsDown`): each step leaves a
folded tree with a key, and so does every result the memo holds (`Node.MemoFoldsDown`). Children
are folded first, so work could only be left at the node itself: a literal replaces an operator
between literals, a product by a number of a product that ends in a number multiplies the two
numbers, and merging the fragments of a text leaves none to merge (`Folding.mergeRuns_mergedDown`,
tracked by `Node.MergedSoFar`). With the results of `FoldedTrees`, a second round changes
nothing, so iterating to a fixed point stops after two rounds at the latest.
-/

namespace Lingo

namespace Node

/-! ## A first round folds everything -/

/-- What a round of folding owes a node with a key: a folded tree with a key. -/
def FoldsDown (n r : Node) : Prop := n.unhashable? = none → r.Folded ∧ r.unhashable? = none

/-- The memo of a round of folding: each result is folded when its node has a key. -/
abbrev MemoFoldsDown (memo : Memo) : Prop := memo.All FoldsDown

/-- A result remembered for a node serves every node with its key. -/
theorem FoldsDown.of_sameKey {a n r : Node} (h : FoldsDown a r) (hkey : sameKey true a n = true) :
    FoldsDown n r := fun hn => h (unhashable_of_sameKey hkey hn)

/-- Settling keeps a folded result: the node it gives back instead has the result's key. -/
theorem FoldsDown.settle {n r : Node} (h : FoldsDown n r) : FoldsDown n (settle n r) := by
  intro hn
  obtain ⟨hr, hrk⟩ := h hn
  unfold Lingo.settle
  split
  · next hsame => exact ⟨hr.of_sameKey hsame, hn⟩
  · exact ⟨hr, hrk⟩

/-- Remembering the settled result of `n` and returning it. -/
theorem settle_insert_foldsDown {n r : Node} (hr : FoldsDown n r) :
    Keeps MemoFoldsDown (modify (fun memo : Memo => memo.insert n (Lingo.settle n r)) >>= fun _ =>
      pure (Lingo.settle n r) : TransformM Node) (FoldsDown n) :=
  Keeps.bind (Keeps.modify' fun _ hs => Memo.All.insert hs hr.settle) fun _ _ =>
    Keeps.pure' hr.settle

/-- A value that can be a key shows as a field that can be one. -/
theorem get_unhashable_of_datum {d : Datum} (hd : d.unhashable? = none) :
    (if d.isNone then FieldValue.absent else .datum d).unhashable? = none := by
  split <;> simp [FieldValue.unhashable?, hd]

/-- A field record whose value can be a key shows every field but its name as one. -/
theorem get_unhashable {f : Fields} (hv : f.value.unhashable? = none) {fld : FieldName}
    (hfld : fld ≠ .name) : (f.get fld).unhashable? = none := by
  cases fld with
  | value => exact get_unhashable_of_datum hv
  | name => exact absurd rfl hfld
  | op => simp only [Fields.get]; cases f.op <;> rfl
  | pos => rfl
  | ty => simp only [Fields.get]; cases f.ty <;> rfl
  | const => simp only [Fields.get]; cases f.const <;> rfl
  | input => simp only [Fields.get]; cases f.input <;> rfl

/-- A node that carries no name, with a value that can be a key and children with keys, has a
key. -/
theorem unhashable_of_value {k : Kind} {f : Fields} {cs : List Node} (hk : .name ∉ k.fields)
    (hv : f.value.unhashable? = none) (hcs : ∀ c ∈ cs, c.unhashable? = none) :
    (Node.mk k f cs).unhashable? = none :=
  keyed_mk.2 ⟨fun _ hfld => get_unhashable hv fun h => hk (h ▸ hfld), hcs⟩

/-- A literal of a value that can be a key is folded and has a key. -/
theorem literalOf_folded {v : Datum} (hv : v.unhashable? = none) (pos : Pos) :
    (Folding.literalOf v pos).Folded ∧ (Folding.literalOf v pos).unhashable? = none := by
  unfold Folding.literalOf
  split <;> exact ⟨.mk rfl (List.forall_mem_nil _),
    unhashable_of_value (by decide) hv (List.forall_mem_nil _)⟩

/-- The literal text a piece of text opens a run with is folded and has a key. -/
theorem textLiteral_folded {v : Datum} (hv : v.unhashable? = none) (pos : Pos) :
    (Node.mk .literal { value := v, pos, ty := some .string } []).Folded ∧
      (Node.mk .literal { value := v, pos, ty := some .string } []).unhashable? = none :=
  ⟨.mk rfl (List.forall_mem_nil _), unhashable_of_value (by decide) hv (List.forall_mem_nil _)⟩

/-- A node with a key that carries a value has a value that can be a key. -/
theorem value_unhashable {n : Node} (hn : n.unhashable? = none) (hv : .value ∈ n.kind.fields) :
    n.fields.value.unhashable? = none := by
  obtain ⟨k, f, cs⟩ := n
  exact unhashable_of_get ((keyed_mk.1 hn).1 .value hv)

/-- A fragment is no interpolated literal when it is no interpolation of a literal. -/
theorem isLiteralPiece_eq_false {c : Node}
    (h : ∀ e, c.kind = .textExpr → c.children = [e] → e.kind.isLiteral = false) :
    isLiteralPiece (c.kind, c.children.map kind) = false := by
  unfold isLiteralPiece
  split
  · next k heq =>
    simp only [Prod.mk.injEq, List.map_eq_singleton_iff] at heq
    obtain ⟨hkind, e, he, rfl⟩ := heq
    exact h e hkind he
  · rfl

theorem children_unhashable {n : Node} (hn : n.unhashable? = none) :
    ∀ c ∈ n.children, c.unhashable? = none := by
  obtain ⟨k, f, cs⟩ := n
  exact (keyed_mk.1 hn).2

theorem Folded.children {n : Node} (h : n.Folded) : ∀ c ∈ n.children, c.Folded := by
  cases h with
  | mk _ hcs => exact hcs

/-- A node put back together is folded with a key when the node of its kind with the new
children and its own fields is: if it comes back as it was, it has that node's key. -/
theorem rebuild_foldsDown {k : Kind} {f : Fields} {cs cs' : List Node} {r : Node}
    (hr : (Node.mk k f cs).rebuild cs' f = .ok r) (hk : foldsAt k (shapes cs') = false)
    (hcs : ∀ c ∈ cs', c.Folded ∧ c.unhashable? = none) : FoldsDown (.mk k f cs) r := by
  intro hn
  have hnew : (Node.mk k f cs').Folded ∧ (Node.mk k f cs').unhashable? = none :=
    ⟨.mk hk fun c hc => (hcs c hc).1, keyed_mk.2 ⟨(keyed_mk.1 hn).1, fun c hc => (hcs c hc).2⟩⟩
  rcases rebuild_cases hr with ⟨rfl, hsame⟩ | rfl
  · exact ⟨hnew.1.of_sameKey hsame, hn⟩
  · exact hnew

theorem textMerged_append_singleton (done : List Node) (c : Node) :
    textMerged (shapes (done ++ [c])) = true ↔
      textMerged (shapes done) = true ∧ isLiteralPiece (c.kind, c.children.map kind) = false ∧
        (c.kind = .literal → ∀ d ∈ done.getLast?, d.kind ≠ .literal) := by
  simp only [textMerged, Bool.and_eq_true, decide_eq_true_eq]
  simp only [shapes, List.map_append, List.map_cons, List.map_nil, List.all_append,
    List.all_cons, List.all_nil, Bool.and_true, Bool.and_eq_true,
    List.isChain_append, List.isChain_singleton, true_and, Option.mem_def,
    List.getLast?_map, Option.map_eq_some_iff, Bool.not_eq_true', List.head?_cons,
    Option.some.injEq, forall_eq', forall_exists_index, and_imp]
  constructor
  · rintro ⟨⟨hall, hpiece⟩, hchain, hlast⟩
    exact ⟨⟨hall, hchain⟩, hpiece, fun hc d hd hd' => hlast _ _ d hd rfl rfl ⟨hd', hc⟩⟩
  · rintro ⟨⟨hall, hchain⟩, hpiece, hlast⟩
    refine ⟨⟨hall, hpiece⟩, hchain, ?_⟩
    rintro _ _ d hd rfl rfl ⟨hd', hc⟩
    exact hlast hc d hd hd'

/-- The fragments a text has merged so far: each folded with a key, nothing left to merge among
them, and `current` the position of the last fragment exactly when it is literal text. -/
structure MergedSoFar (done : List Node) (current : Option Nat) : Prop where
  folded : ∀ c ∈ done, c.Folded ∧ c.unhashable? = none
  merged : textMerged (shapes done) = true
  current_none : current = none → ∀ c ∈ done.getLast?, c.kind ≠ .literal
  current_some : ∀ i, current = some i → i + 1 = done.length ∧ ∃ c, done[i]? = some c ∧ c.kind = .literal

namespace MergedSoFar

variable {done : List Node}

theorem empty : MergedSoFar [] none where
  folded := List.forall_mem_nil _
  merged := rfl
  current_none _ := by simp
  current_some _ h := absurd h.symm (Option.some_ne_none _)

/-- Literal text outside a run opens one. -/
theorem push_literal {c : Node} (h : MergedSoFar done none) (hc : c.Folded ∧ c.unhashable? = none)
    (hlit : c.kind = .literal) : MergedSoFar (done ++ [c]) (some done.length) where
  folded d hd := by
    rcases List.mem_append.1 hd with hd | hd
    · exact h.folded d hd
    · rw [List.mem_singleton.1 hd]
      exact hc
  merged := (textMerged_append_singleton done c).2
    ⟨h.merged, by simp [isLiteralPiece, hlit], fun _ => h.current_none rfl⟩
  current_none h' := absurd h' (Option.some_ne_none _)
  current_some i hi := by
    cases hi
    exact ⟨by simp, c, by simp, hlit⟩

/-- A fragment that is neither literal text nor an interpolated literal ends the run. -/
theorem push_other {current : Option Nat} {c : Node} (h : MergedSoFar done current)
    (hc : c.Folded ∧ c.unhashable? = none) (hlit : c.kind ≠ .literal)
    (hpiece : isLiteralPiece (c.kind, c.children.map kind) = false) :
    MergedSoFar (done ++ [c]) none where
  folded d hd := by
    rcases List.mem_append.1 hd with hd | hd
    · exact h.folded d hd
    · rw [List.mem_singleton.1 hd]
      exact hc
  merged := (textMerged_append_singleton done c).2 ⟨h.merged, hpiece, fun h' => absurd h' hlit⟩
  current_none _ d hd := by
    simp only [List.getLast?_append, List.getLast?_singleton, Option.some_or, Option.mem_def,
      Option.some.injEq] at hd
    exact hd ▸ hlit
  current_some _ h' := absurd h'.symm (Option.some_ne_none _)

/-- Merging into the literal text that runs on replaces it by literal text with the same
children. -/
theorem set_literal {i : Nat} {c c' : Node} (h : MergedSoFar done (some i))
    (hc' : c'.Folded ∧ c'.unhashable? = none) (hget : done[i]? = some c)
    (hkind : c'.kind = c.kind) (hch : c'.children.map kind = c.children.map kind) :
    MergedSoFar (done.set i c') (some i) where
  folded d hd := by
    rcases List.mem_or_eq_of_mem_set hd with hd | rfl
    · exact h.folded d hd
    · exact hc'
  merged := by
    have hout : shapes (done.set i c') = shapes done := by
      apply List.ext_getElem?
      intro j
      simp only [shapes, List.map_set, List.getElem?_set, List.length_map, List.getElem?_map]
      split
      · next hij =>
        subst hij
        obtain ⟨hlt, hci⟩ := List.getElem?_eq_some_iff.1 hget
        simp [hlt, hci, hkind, hch]
      · rfl
    rw [hout]
    exact h.merged
  current_none h' := absurd h' (Option.some_ne_none _)
  current_some j hj := by
    cases hj
    obtain ⟨hlen, d, hd, hdlit⟩ := h.current_some i rfl
    rw [hget] at hd
    cases hd
    exact ⟨by simpa using hlen, c', List.getElem?_set_self (by omega), hkind ▸ hdlit⟩

end MergedSoFar

end Node

namespace Folding

open Node

variable {P : Memo → Prop}

theorem arith_ok {r : Except ArithError Datum} : Keeps P (arith r) (fun a => r = .ok a) := by
  cases r with
  | ok a => exact Keeps.pure' rfl
  | error e => exact Keeps.throw'

/-- The text a datum joins with can be a key. -/
theorem joinText_unhashable {v : Datum} (hv : v.unhashable? = none) :
    Keeps P (joinText v) (fun t => t.unhashable? = none) := by
  unfold joinText
  split
  · exact Keeps.pure' hv
  · refine Keeps.imp arith_ok fun t ht => ?_
    cases hs : v.numberText? with
    | error e => rw [hs] at ht; cases ht
    | ok s => rw [hs] at ht; cases ht; rfl

/-- An operator on values that can be keys gives a value that can be a key. -/
theorem evalBinary_unhashable_of {k : Kind} {a b : Datum} (ha : a.unhashable? = none)
    (hb : b.unhashable? = none) : Keeps P (evalBinary k a b) (fun v => v.unhashable? = none) := by
  unfold evalBinary
  split
  · split
    · refine Keeps.bind (joinText_unhashable ha) fun ta hta => ?_
      refine Keeps.bind (joinText_unhashable hb) fun tb _ => ?_
      exact Keeps.imp arith_ok fun v hv => Datum.add_unhashable hta hv
    · exact Keeps.imp arith_ok fun v hv => Datum.add_unhashable ha hv
  · refine Keeps.bind numbersOnly_keeps fun _ _ => ?_
    exact Keeps.imp arith_ok fun v hv => Datum.sub_unhashable hv
  · refine Keeps.bind numbersOnly_keeps fun _ _ => ?_
    exact Keeps.imp arith_ok fun v hv => Datum.mul_unhashable ha hb hv
  · refine Keeps.bind numbersOnly_keeps fun _ _ => ?_
    split
    · exact Keeps.bind (Keeps.throw' (Q := fun _ => False)) fun _ h => h.elim
    · refine Keeps.bind arith_ok fun q hq => ?_
      have hq' := Datum.div_unhashable hq
      -- a whole quotient of two integers becomes an integer
      split
      · split
        · exact Keeps.pure' rfl
        · exact Keeps.pure' hq'
      · exact Keeps.pure' hq'

theorem evalBinary_unhashable {k : Kind} {a b : Datum} :
    Keeps P (evalBinary k a b)
      (fun v => a.unhashable? = none → b.unhashable? = none → v.unhashable? = none) := by
  by_cases hab : a.unhashable? = none ∧ b.unhashable? = none
  · exact (evalBinary_unhashable_of hab.1 hab.2).imp fun _ hv _ _ => hv
  · exact evalBinary_keeps.imp fun _ _ ha hb => absurd ⟨ha, hb⟩ hab

/-- The text an interpolated literal contributes can be a key. -/
theorem fragmentText_unhashable {e : Node} (he : e.fields.value.unhashable? = none) :
    Keeps P (fragmentText e) (fun t => t.unhashable? = none) := by
  unfold fragmentText
  split
  · refine Keeps.imp arith_ok fun t ht => ?_
    cases hs : e.fields.value.numberText? with
    | error err => rw [hs] at ht; cases ht
    | ok s => rw [hs] at ht; cases ht; rfl
  · exact Keeps.pure' he

/-- What merging owes a text: fragments each folded with a key, and nothing left to merge. -/
def MergedDown (merged : List Node) : Prop :=
  (∀ c ∈ merged, c.Folded ∧ c.unhashable? = none) ∧ textMerged (shapes merged) = true

/-- Merging the folded fragments of a text leaves nothing to merge. -/
theorem mergeRuns_mergedDown (cs : List Node) (hcs : ∀ c ∈ cs, c.Folded ∧ c.unhashable? = none) :
    ∀ done current, MergedSoFar done current →
      Keeps P (mergeRuns cs done current) MergedDown := by
  induction cs with
  | nil =>
    intro done current h
    unfold mergeRuns
    exact Keeps.pure' ⟨h.folded, h.merged⟩
  | cons c rest ih =>
    intro done current h
    have ih' := ih fun d hd => hcs d (List.mem_cons_of_mem _ hd)
    have hc := hcs c List.mem_cons_self
    -- a piece of literal text either opens a run or is added to the literal text of the run
    have hpiece : ∀ done current text pos, MergedSoFar done current → text.unhashable? = none →
        Keeps P (mergeRuns.mergePiece rest done current text pos) MergedDown := by
      intro done current text pos h ht
      unfold mergeRuns.mergePiece
      split
      · exact ih' _ _ (h.push_literal (textLiteral_folded ht pos) rfl)
      · next i =>
        split
        · next prev hprev =>
          obtain ⟨hlen, d, hd, hlit⟩ := h.current_some i rfl
          rw [hprev] at hd
          cases hd
          have hmem : prev ∈ done := List.mem_of_getElem? hprev
          obtain ⟨hprevF, hprevK⟩ := h.folded prev hmem
          refine Keeps.bind arith_ok fun v hv => ?_
          have hvk : v.unhashable? = none :=
            Datum.add_unhashable (value_unhashable hprevK (by simp [hlit, Kind.fields])) hv
          refine Keeps.bind rebuildM_keeps fun prev' hreb => ?_
          rcases rebuild_cases hreb with ⟨rfl, -⟩ | rfl
          · exact ih' _ _ (h.set_literal ⟨hprevF, hprevK⟩ hprev rfl rfl)
          · have hnew : (Node.mk prev.kind { prev.fields with value := v, pos := prev.pos.combine pos }
                prev.children).Folded := .mk (by rw [hlit]; rfl) hprevF.children
            have hkey : (Node.mk prev.kind { prev.fields with value := v, pos := prev.pos.combine pos }
                prev.children).unhashable? = none :=
              unhashable_of_value (by simp [hlit, Kind.fields]) hvk (children_unhashable hprevK)
            exact ih' _ _ (h.set_literal ⟨hnew, hkey⟩ hprev rfl rfl)
        · exact ih' _ _ h
    -- any other fragment: literal text opens a run or is added to it, and anything else goes on
    -- the list and ends the run
    have hkeep := fun hnp : isLiteralPiece (c.kind, c.children.map kind) = false =>
      mergeRuns_fragment_cases (R := (Keeps P · MergedDown)) c rest done current
        (fun hlit hnone => ih' _ _ ((hnone ▸ h).push_literal hc hlit))
        (fun _ hlit _ => hpiece _ _ _ _ h (value_unhashable hc.2 (by simp [hlit, Kind.fields])))
        (fun hlit => ih' _ _ (h.push_other hc hlit hnp))
    unfold mergeRuns
    dsimp only
    split
    · next e hkind hchildren =>
      split
      · next he =>
        -- an interpolated literal is a piece of literal text
        have hek : e.unhashable? = none := children_unhashable hc.2 e (by simp [hchildren])
        have hev : e.fields.value.unhashable? = none := by
          refine value_unhashable hek ?_
          cases hk : e.kind <;> simp_all [Kind.isLiteral, Kind.fields]
        refine Keeps.bind (fragmentText_unhashable hev) fun t ht => ?_
        refine Keeps.bind (Keeps.pure' (Q := (· = some (t, c.pos))) rfl) fun _ hp => ?_
        subst hp
        exact hpiece _ _ _ _ h ht
      · next he =>
        refine Keeps.bind (Keeps.pure' (Q := (· = none)) rfl) fun _ hp => hp ▸ hkeep ?_
        exact isLiteralPiece_eq_false fun e' _ he' => by
          rw [hchildren, List.singleton_inj] at he'
          subst he'
          simpa using he
    · next hnot =>
      refine Keeps.bind (Keeps.pure' (Q := (· = none)) rfl) fun _ hp => hp ▸ hkeep ?_
      exact isLiteralPiece_eq_false fun e' hk he' => absurd he' (hnot e' hk)

end Folding

/-- A literal has a value field. -/
theorem Kind.value_mem_fields {k : Kind} (h : k.isLiteral = true) : FieldName.value ∈ k.fields := by
  cases k <;> simp_all [Kind.isLiteral, Kind.fields]

namespace Node

open Folding

/-! ## Each step leaves no work at its node -/

/-- The literal of a value is a leaf literal. -/
theorem literalOf_shape (v : Datum) (pos : Pos) :
    (literalOf v pos).kind.isLiteral = true ∧ (literalOf v pos).children = [] := by
  unfold literalOf
  split <;> exact ⟨rfl, rfl⟩

/-- A product by a number of a folded product that ends in a number, reassociated, leaves no
work at the product: the left factor is neither literal nor a product that ends in a number. -/
theorem foldsAt_reassoc {f : Fields} {x c lit : Node} (hl : (mk .mul f [x, c]).Folded)
    (hc : c.kind = .number) (hlit : lit.kind.isLiteral = true) :
    foldsAt .mul (shapes [x, lit]) = false := by
  cases hl with
  | mk hk _ =>
    have hnum : Kind.number.isLiteral = true := rfl
    simp only [foldsAt, shapes, List.map_cons, List.map_nil, hc, hlit, hnum,
      Bool.and_true, beq_self_eq_true, Bool.or_eq_false_iff] at hk ⊢
    refine ⟨hk.1, ?_⟩
    rw [Bool.and_right_comm, hk.2, Bool.false_and]

/-- A product is left as it is when its factors are not both literals and its left factor is no
product that ends in a number. -/
theorem foldsAt_mul {l r : Node} (hlit : (l.kind.isLiteral && r.kind.isLiteral) = false)
    (h : ∀ x c, l.kind = .mul → r.kind = .number → l.children = [x, c] → c.kind ≠ .number) :
    foldsAt .mul (shapes [l, r]) = false := by
  simp only [foldsAt, shapes, List.map_cons, List.map_nil, hlit, Bool.false_or]
  by_cases hmul : l.kind = .mul ∧ r.kind = .number
  · obtain ⟨hl, hr⟩ := hmul
    rcases hch : l.children with _ | ⟨x, _ | ⟨c, _ | ⟨d, rest⟩⟩⟩
    · simp [endsInNumber]
    · simp [endsInNumber]
    · simpa [hl, hr, hch, endsInNumber] using h x c hl hr hch
    · simp [endsInNumber]
  · simp only [Bool.and_assoc, Bool.and_eq_false_iff, beq_eq_false_iff_ne]
    tauto

/-- Work is left only at a negation of one operand, an operator on two operands, and a text. -/
theorem foldsAt_arity {k : Kind} {o : List (Kind × List Kind)} (h : foldsAt k o = true) :
    (k = .neg ∧ o.length = 1) ∨
      ((k = .add ∨ k = .sub ∨ k = .mul ∨ k = .div) ∧ o.length = 2) ∨ k = .textRoot := by
  unfold foldsAt at h
  split at h <;> simp_all

/-- The folded operands of an operator with a key are folded with keys. -/
theorem operands_foldsDown {k : Kind} {f : Fields} {l r l' r' : Node} (hl : l.FoldsDown l')
    (hr : r.FoldsDown r') (hn : (mk k f [l, r]).unhashable? = none) :
    ∀ c ∈ [l', r'], c.Folded ∧ c.unhashable? = none :=
  List.forall_mem_cons.2 ⟨hl (children_unhashable hn l (by simp [children])),
    List.forall_mem_cons.2 ⟨hr (children_unhashable hn r (by simp [children])),
      List.forall_mem_nil _⟩⟩

/-- Children folded one by one are folded with keys when the children have keys. -/
theorem forall₂_foldsDown {cs cs' : List Node} (h : List.Forall₂ (fun r c => FoldsDown c r) cs' cs)
    (hcs : ∀ c ∈ cs, c.unhashable? = none) : ∀ c ∈ cs', c.Folded ∧ c.unhashable? = none := by
  induction h with
  | nil => exact List.forall_mem_nil _
  | cons hrc _ ih =>
    refine List.forall_mem_cons.2 ⟨hrc (hcs _ List.mem_cons_self), ih ?_⟩
    exact fun c hc => hcs c (List.mem_cons_of_mem _ hc)

/-- A node rebuilt from folded children with no work left at it is folded with a key, and so is
what the round remembers for it. -/
theorem rebuild_settle_foldsDown {k : Kind} {f : Fields} {cs cs' : List Node}
    (h : (Node.mk k f cs).unhashable? = none →
      foldsAt k (shapes cs') = false ∧ ∀ c ∈ cs', c.Folded ∧ c.unhashable? = none) :
    Keeps MemoFoldsDown (rebuildM (.mk k f cs) cs' f >>= fun r =>
      modify (fun memo : Memo => memo.insert (.mk k f cs) (Lingo.settle (.mk k f cs) r)) >>= fun _ =>
        pure (Lingo.settle (.mk k f cs) r) : TransformM Node) (FoldsDown (.mk k f cs)) :=
  Keeps.bind rebuildM_keeps fun _ hr =>
    settle_insert_foldsDown fun hn => rebuild_foldsDown hr (h hn).1 (h hn).2 hn

/-- A product by a number of a folded product whose right factor is a number multiplies the two
numbers; either way the product is folded with a key. -/
theorem reassociate_foldsDown {f : Fields} {l r l' r' x c : Node} (hl : l.FoldsDown l')
    (hr : r.FoldsDown r') (hlit : (l'.kind.isLiteral && r'.kind.isLiteral) = false)
    (hlk : l'.kind = .mul) (hrk : r'.kind = .number) (hch : l'.children = [x, c]) :
    Keeps MemoFoldsDown
      (if c.kind = .number then do
        let v ← arith (c.fields.value.mul r'.fields.value)
        let r₁ ← rebuildM (mk .mul f [l, r]) [x, literalOf v (c.pos.combine r'.pos)] f
        modify fun memo => memo.insert (mk .mul f [l, r]) (Lingo.settle (mk .mul f [l, r]) r₁)
        pure (Lingo.settle (mk .mul f [l, r]) r₁)
      else do
        let r₁ ← rebuildM (mk .mul f [l, r]) [l', r'] f
        modify fun memo => memo.insert (mk .mul f [l, r]) (Lingo.settle (mk .mul f [l, r]) r₁)
        pure (Lingo.settle (mk .mul f [l, r]) r₁))
      (FoldsDown (mk .mul f [l, r])) := by
  split
  · next hc =>
    refine Keeps.bind arith_ok fun v hv => rebuild_settle_foldsDown fun hn => ?_
    have hops := operands_foldsDown hl hr hn
    obtain ⟨hlF, hlK⟩ := hops l' (by simp)
    have hrv := value_unhashable (hops r' (by simp)).2 (Kind.value_mem_fields (by rw [hrk]; rfl))
    obtain ⟨lk, lf, lcs⟩ := l'
    simp only [kind, children] at hlk hch
    subst hlk hch
    have hcv : c.fields.value.unhashable? = none :=
      value_unhashable (children_unhashable hlK c (by simp [children]))
        (Kind.value_mem_fields (by rw [hc]; rfl))
    refine ⟨foldsAt_reassoc hlF hc (literalOf_shape v _).1, ?_⟩
    refine List.forall_mem_cons.2 ⟨⟨hlF.children x (by simp [children]),
      children_unhashable hlK x (by simp [children])⟩, ?_⟩
    exact List.forall_mem_cons.2
      ⟨literalOf_folded (Datum.mul_unhashable hcv hrv hv) _, List.forall_mem_nil _⟩
  · next hc =>
    refine rebuild_settle_foldsDown fun hn => ⟨foldsAt_mul hlit ?_, operands_foldsDown hl hr hn⟩
    intro x' c' _ _ hch'
    rw [hch, List.cons.injEq, List.cons.injEq] at hch'
    exact hch'.2.1 ▸ hc

/-- A round of folding gives every node with a key a folded tree with a key, and so does every
result it remembers. -/
theorem foldM_foldsDown (n : Node) : Keeps MemoFoldsDown (foldM n) (FoldsDown n) := by
  induction n using Node.induction with
  | h k f cs ih =>
    rw [foldM.eq_1]
    refine Keeps.get_bind fun memo hmemo => ?_
    split
    · next r hfind => exact Keeps.pure' (hmemo.find (fun _ _ _ h hkey => h.of_sameKey hkey) hfind)
    · dsimp only
      split
      · -- a negated literal number becomes the negated number; a negated string is refused
        next o _ =>
        refine Keeps.bind (ih o (by simp)) fun o' ho => ?_
        have hchild : (mk .neg f [o]).unhashable? = none → o'.Folded ∧ o'.unhashable? = none :=
          fun hn => ho (children_unhashable hn o (by simp [children]))
        split
        · exact Keeps.bind (Keeps.throw' (Q := fun _ => False)) fun _ h => h.elim
        · split
          · refine Keeps.bind arith_ok fun v hv => ?_
            exact settle_insert_foldsDown fun _ => literalOf_folded (Datum.neg_unhashable hv) f.pos
          · next hstr hnum =>
            refine rebuild_settle_foldsDown fun hn => ⟨?_, ?_⟩
            · simp [foldsAt, shapes, Kind.isLiteral_eq_false.2 ⟨hnum, hstr⟩]
            · simpa using hchild hn
      case h_2 | h_3 | h_4 | h_5 =>
        rename_i l r _
        refine Keeps.bind (ih l (by simp)) fun l' hl => ?_
        refine Keeps.bind (ih r (by simp)) fun r' hr => ?_
        split
        · -- two literal operands: the literal of the value
          next hlit =>
          simp only [Bool.and_eq_true] at hlit
          refine Keeps.bind evalBinary_unhashable fun v hv => ?_
          refine settle_insert_foldsDown fun hn => literalOf_folded (hv ?_ ?_) f.pos
          · exact value_unhashable (operands_foldsDown hl hr hn l' (by simp)).2
              (Kind.value_mem_fields hlit.1)
          · exact value_unhashable (operands_foldsDown hl hr hn r' (by simp)).2
              (Kind.value_mem_fields hlit.2)
        · next hlit =>
          rw [Bool.not_eq_true] at hlit
          split
          · -- only a product can be a product by a number of a product
            next x c hkmul hlk hrk hch =>
            cases hkmul <;> exact reassociate_foldsDown hl hr hlit hlk hrk hch
          · next hno =>
            refine rebuild_settle_foldsDown fun hn => ⟨?_, operands_foldsDown hl hr hn⟩
            first
              | exact foldsAt_mul hlit fun x c hlk hrk hch _ => hno x c rfl hlk hrk hch
              | simp [foldsAt, shapes, hlit]
      · -- a text: its fragments are folded, then runs of literal text are merged
        refine Keeps.bind (Keeps.mapM ih) fun cs' hcs' => ?_
        by_cases hn : (mk .textRoot f cs).unhashable? = none
        · have hfrag := forall₂_foldsDown hcs' (children_unhashable hn)
          refine Keeps.bind (mergeRuns_mergedDown cs' hfrag [] none MergedSoFar.empty)
            fun merged hm => Keeps.bind (Keeps.pure' (Q := (· = _)) rfl) fun r hr => ?_
          subst hr
          refine settle_insert_foldsDown fun _ => ⟨.mk ?_ fun c hc => (hm.1 c hc).1, ?_⟩
          · simp only [foldsAt, hm.2, Bool.not_true]
          · refine keyed_mk.2 ⟨fun fld hfld => ?_, fun c hc => (hm.1 c hc).2⟩
            simp only [Kind.fields, List.mem_singleton] at hfld
            subst hfld
            exact (keyed_mk.1 hn).1 .input (by simp [Kind.fields])
        · refine Keeps.bind (mergeRuns_keeps cs' [] none) fun merged _ => ?_
          refine Keeps.bind (Keeps.pure' (Q := fun _ => True) trivial) fun r _ => ?_
          exact settle_insert_foldsDown fun hn' => absurd hn' hn
      · -- any other node: its children are folded and it is put back together
        next hroot hneg hadd hsub hmul hdiv =>
        refine Keeps.bind (Keeps.mapM ih) fun cs' hcs' => rebuild_settle_foldsDown fun hn =>
          ⟨?_, forall₂_foldsDown hcs' (children_unhashable hn)⟩
        have hlen : (shapes cs').length = cs.length := by simp [shapes, hcs'.length_eq]
        rw [← Bool.not_eq_true]
        intro hfold
        rcases foldsAt_arity hfold with ⟨hk, h1⟩ | ⟨hk, h2⟩ | hk
        · obtain ⟨o, rfl⟩ := List.length_eq_one_iff.1 (hlen ▸ h1)
          exact hneg o hk rfl
        · obtain ⟨a, b, rfl⟩ := List.length_eq_two.1 (hlen ▸ h2)
          rcases hk with hk | hk | hk | hk
          exacts [hadd a b hk rfl, hsub a b hk rfl, hmul a b hk rfl, hdiv a b hk rfl]
        · exact hroot hk

/-! ## Iterating to a fixed point -/

/-- Folding asks for a tree with a key. -/
theorem unhashable_of_fold {t r : Node} (h : t.fold = .ok r) : t.unhashable? = none := by
  unfold fold at h
  obtain ⟨_, hkey, -⟩ := Code.bind_eq_ok h
  unfold requireKey at hkey
  split at hkey
  · cases hkey
  · assumption

/-- Folding gives a folded tree with a key. -/
theorem fold_foldsDown {t r : Node} (h : t.fold = .ok r) : r.Folded ∧ r.unhashable? = none := by
  obtain ⟨memo, hrun⟩ := TypeMap.fold_run h
  exact (foldM_foldsDown t {} r memo (Memo.All.empty _) hrun).2 (unhashable_of_fold h)

/-- Folding what folding gave changes nothing. -/
theorem fold_fold {t r : Node} (h : t.fold = .ok r) : r.fold = .ok r :=
  fold_folded (fold_foldsDown h).1 (fold_foldsDown h).2

/-- A round of the iteration after a successful round finds the tree unchanged. -/
theorem foldToFixedPoint_go_succ {rounds : Int} {t r : Node} (h : t.fold = .ok r) (n : Nat) :
    foldToFixedPoint.go rounds t (n + 1) =
      if sameKey true r t then .ok r else foldToFixedPoint.go rounds r n := by
  simp only [foldToFixedPoint.go, h, bind, Except.bind]
  split <;> rfl

/-- Folding to a fixed point stops after the second round at the latest: a tree that folds
comes back folded after any two or more rounds, and one round is enough exactly when the fold
keeps the tree's key; otherwise the single round reports that it did not converge. -/
theorem fold_converges_at_once {t r : Node} (h : t.fold = .ok r) :
    r.fold = .ok r ∧ (∀ k : Int, 2 ≤ k → t.foldToFixedPoint k = .ok r) ∧
      (sameKey true r t = true → t.foldToFixedPoint 1 = .ok r) ∧
      (sameKey true r t = false → ∃ e, t.foldToFixedPoint 1 = .error e ∧
        e.kind = "RuntimeError" ∧ e.message = "Fixed point iteration did not converge in 1 iterations") := by
  have hfix := fold_fold h
  have hsame : sameKey true r r = true := sameKey_self (fold_foldsDown h).2
  refine ⟨hfix, fun k hk => ?_, fun hkey => ?_, fun hkey => ⟨.noFixedPoint 1, ?_, rfl, rfl⟩⟩
  · -- the second round finds the folded tree unchanged
    obtain ⟨n, hn⟩ : ∃ n, k.toNat = n + 2 := ⟨k.toNat - 2, by omega⟩
    rw [foldToFixedPoint, hn, foldToFixedPoint_go_succ h, foldToFixedPoint_go_succ hfix, if_pos hsame]
    split <;> rfl
  · rw [foldToFixedPoint, Int.toNat_one, foldToFixedPoint_go_succ h, if_pos hkey]
  · rw [foldToFixedPoint, Int.toNat_one, foldToFixedPoint_go_succ h, hkey]
    rfl

/-- Negating a literal needs a second round to be seen unchanged. -/
theorem fold_converges_at_once_neg :
    (mk .neg {} [.mk .number { value := .int 2 } []]).fold =
        .ok (Folding.literalOf (.int (-2)) default) ∧
      (mk .neg {} [.mk .number { value := .int 2 } []]).foldToFixedPoint 2 =
        .ok (Folding.literalOf (.int (-2)) default) ∧
      ∃ e, (mk .neg {} [.mk .number { value := .int 2 } []]).foldToFixedPoint 1 = .error e ∧
        e.message = "Fixed point iteration did not converge in 1 iterations" := by
  have hfold : (mk .neg {} [.mk .number { value := .int 2 } []]).fold =
      .ok (Folding.literalOf (.int (-2)) default) := by cbv
  obtain ⟨-, htwo, -, hone⟩ := fold_converges_at_once hfold
  obtain ⟨e, he, -, hmsg⟩ := hone rfl
  exact ⟨hfold, htwo 2 (by decide), e, he, hmsg⟩

end Node

end Lingo
