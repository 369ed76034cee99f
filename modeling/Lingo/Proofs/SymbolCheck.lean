import Mathlib
import Lingo.Proofs.Passes
import Lingo.Proofs.SymbolEvents

/-!
# The symbol check reads the source through the analysed tree

Compilation runs the check of allowed names on the typed and folded tree. Typing only sets types
and constancy marks; folding turns operators on literals into literals, merges runs of literal
text and moves a number factor into a product. None of these adds, removes or moves a use of a
name, and a result remembered for a node serves the nodes of its key, which make the same uses
(`Node.Plain.of_sameKey`). So analysis keeps the uses of names (`TypeMap.analyze_keepsUses`), and
the check judges the analysed tree exactly as it judges the source
(`TypeMap.symbol_check_judges_source`).
-/

namespace Lingo

/-! ## A key determines the uses of a plain tree -/

namespace Node

theorem symbolEventsOf_congr {cs cs' : List Node}
    (h : List.Forall₂ (fun c' c => c'.symbolEvents = c.symbolEvents) cs' cs) :
    symbolEventsOf cs' = symbolEventsOf cs := by
  induction h with
  | nil => rfl
  | cons hc _ ih => simp only [symbolEventsOf, hc, ih]

/-- The events of a node depend on its kind, on the name, position and source it carries, and on
the events of its children. -/
theorem symbolEvents_congr {k : Kind} {f f' : Fields} {cs cs' : List Node}
    (hname : k.has .name → f'.name = f.name ∧ f'.pos = f.pos)
    (hinput : k.has .input → f'.input = f.input)
    (hcs : List.Forall₂ (fun c' c => c'.symbolEvents = c.symbolEvents) cs' cs) :
    (mk k f' cs').symbolEvents = (mk k f cs).symbolEvents := by
  have hof := symbolEventsOf_congr hcs
  cases k
  case rule =>
    -- a rule of two children meets the events of its text, any other those of its children
    rcases hcs with _ | ⟨h₁, _ | ⟨h₂, _ | ⟨h₃, hrest⟩⟩⟩ <;> simp_all [symbolEvents]
  all_goals simp_all [symbolEvents, Kind.has, Kind.fields]

/-- A node with the key of a plain node is plain and meets the same events: names that agree
with a string are that string. -/
theorem Plain.of_sameKey {a b : Node} (h : sameKey true a b = true) (hb : b.Plain) :
    a.Plain ∧ a.symbolEvents = b.symbolEvents := by
  induction hb generalizing a with
  | @mk k f cs hleaf hname hcs ih =>
    obtain ⟨f', cs', rfl, hf, hkeys⟩ := sameKey_mk_right h
    have hchildren : List.Forall₂ (fun c' c => c'.Plain ∧ c'.symbolEvents = c.symbolEvents) cs' cs :=
      forall₂_imp_mem hkeys fun c' c hc hkey => ih c hc hkey
    have hname' : k.has .name → ∃ s, f'.name = .str s ∧ f.name = .str s := by
      intro hk
      obtain ⟨s, hs⟩ := hname hk
      have hagree := hf .name (List.elem_iff.1 hk)
      simp only [Fields.agreeOn, hs, Datum.agree_str_right] at hagree
      exact ⟨s, hagree, hs⟩
    refine ⟨.mk ?_ ?_ ?_, symbolEvents_congr ?_ ?_ (hchildren.imp fun _ _ h => h.2)⟩
    · intro hk
      cases hleaf hk
      cases hkeys
      rfl
    · exact fun hk => (hname' hk).imp fun s hs => hs.1
    · intro c' hc'
      obtain ⟨c, -, hc⟩ := exists_of_forall₂_left hchildren hc'
      exact hc.1
    · intro hk
      obtain ⟨s, hs', hs⟩ := hname' hk
      have hpos : FieldName.pos ∈ k.fields := by
        cases k <;> simp_all [Kind.has, Kind.fields]
      have hagree := hf .pos hpos
      simp only [Fields.agreeOn, beq_iff_eq] at hagree
      exact ⟨hs'.trans hs.symm, hagree⟩
    · intro hk
      have hagree := hf .input (List.elem_iff.1 hk)
      simpa only [Fields.agreeOn, beq_iff_eq] using hagree

/-- A result keeps the uses of names of a plain node: it is plain and meets the same events. -/
def KeepsUses (n r : Node) : Prop := n.Plain → r.Plain ∧ r.symbolEvents = n.symbolEvents

theorem KeepsUses.refl (n : Node) : KeepsUses n n := fun h => ⟨h, rfl⟩

theorem KeepsUses.of_sameKey {a n r : Node} (h : KeepsUses a r) (hkey : sameKey true a n = true) :
    KeepsUses n r := by
  intro hn
  obtain ⟨ha, hev⟩ := Plain.of_sameKey hkey hn
  obtain ⟨hr, hrev⟩ := h ha
  exact ⟨hr, hrev.trans hev⟩

theorem KeepsUses.settle {n r : Node} (h : KeepsUses n r) : KeepsUses n (settle n r) := by
  rcases settle_cases n r with h' | h' <;> rw [h']
  · exact KeepsUses.refl n
  · exact h

/-- A node put back together from children that keep their uses, with the name, position and
source it had, keeps its uses. -/
theorem KeepsUses.rebuild {k : Kind} {f f' : Fields} {cs cs' : List Node} {r : Node}
    (hr : (Node.mk k f cs).rebuild cs' f' = .ok r)
    (hname : f'.name = f.name) (hpos : f'.pos = f.pos) (hinput : f'.input = f.input)
    (hcs : List.Forall₂ (fun r c => KeepsUses c r) cs' cs) : KeepsUses (.mk k f cs) r := by
  rcases rebuild_eq hr with rfl | rfl
  · exact KeepsUses.refl _
  intro hn
  have hchildren : List.Forall₂ (fun c' c => c'.Plain ∧ c'.symbolEvents = c.symbolEvents) cs' cs :=
    forall₂_imp_mem hcs fun c' c hc h => h (hn.children c hc)
  cases hn with
  | mk hleaf hnm _ =>
    refine ⟨.mk ?_ ?_ ?_, symbolEvents_congr (fun _ => ⟨hname, hpos⟩) (fun _ => hinput)
      (hchildren.imp fun _ _ h => h.2)⟩
    · intro hk
      cases hleaf hk
      cases hcs
      rfl
    · exact fun hk => hname ▸ hnm hk
    · intro c' hc'
      obtain ⟨c, -, hc⟩ := exists_of_forall₂_left hchildren hc'
      exact hc.1

end Node

/-! ## Typing keeps the uses of names -/

namespace Typing

/-- Typing keeps the uses of names of every plain node, and so does every result it remembers. -/
theorem visit_keepsUses (m : TypeMap) (n : Node) :
    Keeps (fun st : TypingState => st.memo.All Node.KeepsUses) (visit m n) (Node.KeepsUses n) :=
  visit_keeps_of (R := Node.KeepsUses) (fun _ _ _ h hkey => h.of_sameKey hkey) Node.KeepsUses.refl
    (fun hr hcs hf => Node.KeepsUses.rebuild hr (by rw [hf.fields]) (by rw [hf.fields])
      (by rw [hf.fields]) hcs) n

end Typing

/-! ## Folding keeps the uses of names -/

namespace Node

@[simp] theorem symbolEventsOf_append (as bs : List Node) :
    symbolEventsOf (as ++ bs) = symbolEventsOf as ++ symbolEventsOf bs := by
  induction as with
  | nil => rfl
  | cons a as ih => simp [symbolEventsOf, ih]

theorem symbolEventsOf_eq_nil {cs : List Node} (h : ∀ c ∈ cs, c.symbolEvents = []) :
    symbolEventsOf cs = [] := by
  induction cs with
  | nil => rfl
  | cons c cs ih =>
    simp only [symbolEventsOf, h c List.mem_cons_self, List.nil_append]
    exact ih fun d hd => h d (List.mem_cons_of_mem _ hd)

@[simp] theorem symbolEvents_literal (f : Fields) (cs : List Node) :
    (Node.mk .literal f cs).symbolEvents = [] := by
  simp [symbolEvents]

/-- An operator meets the events of its operands. -/
theorem symbolEvents_operator {k : Kind} {f : Fields} {cs : List Node}
    (hk : k ∈ [.neg, .add, .sub, .mul, .div, .textExpr]) :
    (Node.mk k f cs).symbolEvents = symbolEventsOf cs := by
  simp only [List.mem_cons, List.not_mem_nil, or_false] at hk
  rcases hk with rfl | rfl | rfl | rfl | rfl | rfl <;> simp [symbolEvents]

/-- Replacing a fragment by one with the same events keeps the events of the fragments. -/
theorem symbolEventsOf_set {l : List Node} {i : Nat} {x : Node}
    (h : ∀ p, l[i]? = some p → p.symbolEvents = x.symbolEvents) :
    symbolEventsOf (l.set i x) = symbolEventsOf l := by
  induction l generalizing i with
  | nil => rfl
  | cons c l ih =>
    cases i with
    | zero => simp [symbolEventsOf, h c rfl]
    | succ i => simp [symbolEventsOf, ih (fun p hp => h p (by simpa using hp))]

/-- Literal text meets no name. -/
theorem symbolEvents_of_kind_literal {n : Node} (h : n.kind = .literal) : n.symbolEvents = [] := by
  obtain ⟨k, f, cs⟩ := n
  simp only [kind] at h
  subst h
  simp

/-- An interpolated literal of a plain text meets no name. -/
theorem Plain.symbolEvents_of_piece {c e : Node} (hc : c.Plain) (hk : c.kind = .textExpr)
    (hch : c.children = [e]) (he : e.kind.isLiteral) : c.symbolEvents = [] := by
  obtain ⟨k, f, cs⟩ := c
  simp only [kind] at hk hch
  subst hk hch
  rw [symbolEvents_operator (by simp), symbolEventsOf, symbolEventsOf,
    (hc.children e List.mem_cons_self).symbolEvents_of_isLiteral he]
  rfl

/-- The literal of a folded value is plain and meets no name. -/
theorem literalOf_keepsUses (v : Datum) (pos : Pos) :
    (Folding.literalOf v pos).Plain ∧ (Folding.literalOf v pos).symbolEvents = [] := by
  unfold Folding.literalOf
  split
  · exact ⟨.mk (fun _ => rfl) (fun h => absurd h (by decide)) (List.forall_mem_nil _),
      by simp [symbolEvents, symbolEventsOf]⟩
  · exact ⟨.mk (fun _ => rfl) (fun h => absurd h (by decide)) (List.forall_mem_nil _),
      by simp [symbolEvents, symbolEventsOf]⟩

end Node

namespace Folding

open Node

variable {P : Memo → Prop}

/-- What merging the fragments of a plain text keeps: the fragments merged so far are plain, and
the run being read, if any, merges into literal text. -/
structure MergesPlain (done : List Node) (current : Option Nat) : Prop where
  plain : ∀ c ∈ done, c.Plain
  current : ∀ i p, current = some i → done[i]? = some p → p.kind = .literal

namespace MergesPlain

variable {done : List Node}

theorem empty : MergesPlain [] none :=
  ⟨List.forall_mem_nil _, fun _ _ h => absurd h.symm (Option.some_ne_none _)⟩

theorem push_literal {c : Node} (h : MergesPlain done none) (hc : c.Plain) (hlit : c.kind = .literal) :
    MergesPlain (done ++ [c]) (some done.length) := by
  refine ⟨fun d hd => ?_, fun i p hi hp => ?_⟩
  · rcases List.mem_append.1 hd with hd | hd
    · exact h.plain d hd
    · rw [List.mem_singleton.1 hd]
      exact hc
  · cases hi
    simp only [List.getElem?_append_right (Nat.le_refl _), Nat.sub_self, List.getElem?_cons_zero,
      Option.some.injEq] at hp
    exact hp ▸ hlit

theorem push_other {current : Option Nat} {c : Node} (h : MergesPlain done current)
    (hc : c.Plain) : MergesPlain (done ++ [c]) none := by
  refine ⟨fun d hd => ?_, fun _ _ hi => absurd hi.symm (Option.some_ne_none _)⟩
  rcases List.mem_append.1 hd with hd | hd
  · exact h.plain d hd
  · rw [List.mem_singleton.1 hd]
    exact hc

theorem set_literal {i : Nat} {c : Node} (h : MergesPlain done (some i)) (hc : c.Plain)
    (hlit : c.kind = .literal) : MergesPlain (done.set i c) (some i) := by
  refine ⟨fun d hd => ?_, fun j p hj hp => ?_⟩
  · rcases List.mem_or_eq_of_mem_set hd with hd | rfl
    · exact h.plain d hd
    · exact hc
  · cases hj
    simp only [List.getElem?_set, if_true] at hp
    split at hp
    · cases hp
      exact hlit
    · cases hp

end MergesPlain

/-- Merging the folded fragments of a plain text gives plain fragments that meet the same
events: every piece of literal text it joins meets none. -/
theorem mergeRuns_keepsUses (cs : List Node) (hcs : ∀ c ∈ cs, c.Plain) :
    ∀ done current, MergesPlain done current →
      Keeps P (mergeRuns cs done current) (fun merged => (∀ c ∈ merged, c.Plain) ∧
        symbolEventsOf merged = symbolEventsOf done ++ symbolEventsOf cs) := by
  induction cs with
  | nil =>
    intro done current h
    unfold mergeRuns
    exact Keeps.pure' ⟨h.plain, by simp [symbolEventsOf]⟩
  | cons c rest ih =>
    intro done current h
    have ih' := ih fun d hd => hcs d (List.mem_cons_of_mem _ hd)
    have hc := hcs c List.mem_cons_self
    -- a piece of literal text either opens a run or is added to the literal text of the run
    have hpiece : ∀ done current text pos, MergesPlain done current →
        Keeps P (mergeRuns.mergePiece rest done current text pos) (fun merged =>
          (∀ c ∈ merged, c.Plain) ∧ symbolEventsOf merged = symbolEventsOf done ++ symbolEventsOf rest) := by
      intro done current text pos h
      unfold mergeRuns.mergePiece
      split
      · refine (ih' _ _ (h.push_literal (.mk (fun _ => rfl) (fun h => absurd h (by decide)) (by simp)) rfl)).imp fun merged hm => ⟨hm.1, ?_⟩
        simp [hm.2, symbolEventsOf]
      · next i =>
        split
        · next prev hprev =>
          have hlit : prev.kind = .literal := h.current i prev rfl hprev
          have hplain : prev.Plain := h.plain prev (List.mem_of_getElem? hprev)
          refine Keeps.bind arith_keeps fun v _ => Keeps.bind rebuildM_keeps fun prev' hreb => ?_
          -- the run's literal text stays plain literal text
          have hprev' : prev'.Plain ∧ prev'.kind = .literal := by
            rcases rebuild_eq hreb with rfl | rfl
            · exact ⟨hplain, hlit⟩
            · obtain ⟨k, f, cs⟩ := prev
              simp only [kind] at hlit
              subst hlit
              exact ⟨.mk (fun h => absurd h (by simp [kind, Kind.isLiteral]))
                (fun h => absurd h (by simp [kind, Kind.has, Kind.fields])) hplain.children, rfl⟩
          refine (ih' _ _ (h.set_literal hprev'.1 hprev'.2)).imp fun merged hm => ⟨hm.1, ?_⟩
          rw [hm.2, symbolEventsOf_set fun p hp => ?_]
          rw [hprev] at hp
          cases hp
          rw [symbolEvents_of_kind_literal hlit, symbolEvents_of_kind_literal hprev'.2]
        · exact ih' _ _ h
    -- any other fragment: literal text opens a run or is added to it, and anything else goes on
    -- the list and ends the run
    have hkeep := mergeRuns_fragment_cases (R := (Keeps P · fun merged => (∀ c ∈ merged, c.Plain) ∧
        symbolEventsOf merged = symbolEventsOf done ++ symbolEventsOf (c :: rest)))
      c rest done current
      (fun hlit hnone => by
        subst hnone
        refine (ih' _ _ (h.push_literal hc hlit)).imp fun merged hm => ⟨hm.1, ?_⟩
        simp [hm.2, symbolEventsOf, symbolEvents_of_kind_literal hlit])
      (fun _ hlit _ => by
        refine (hpiece _ _ _ _ h).imp fun merged hm => ⟨hm.1, ?_⟩
        simp [hm.2, symbolEventsOf, symbolEvents_of_kind_literal hlit])
      (fun _ => by
        refine (ih' _ _ (h.push_other hc)).imp fun merged hm => ⟨hm.1, ?_⟩
        simp [hm.2, symbolEventsOf])
    unfold mergeRuns
    dsimp only
    split
    · next e hkind hchildren =>
      split
      · next he =>
        -- an interpolated literal is a piece of literal text, and meets no name
        refine Keeps.bind fragmentText_keeps fun t _ => ?_
        refine Keeps.bind (Keeps.pure' (Q := (· = some (t, c.pos))) rfl) fun _ hp => ?_
        subst hp
        refine (hpiece _ _ _ _ h).imp fun merged hm => ⟨hm.1, ?_⟩
        simp [hm.2, symbolEventsOf, hc.symbolEvents_of_piece hkind hchildren he]
      · exact Keeps.bind (Keeps.pure' (Q := (· = none)) rfl) fun _ hp => hp ▸ hkeep
    · exact Keeps.bind (Keeps.pure' (Q := (· = none)) rfl) fun _ hp => hp ▸ hkeep
end Folding

namespace Node

open Folding

/-- Remembering the settled result of `n` and returning it. -/
theorem settle_insert_keepsUses {n r : Node} (hr : KeepsUses n r) :
    Keeps (Memo.All KeepsUses) (modify (fun memo : Memo => memo.insert n (Lingo.settle n r)) >>= fun _ =>
      pure (Lingo.settle n r) : TransformM Node) (KeepsUses n) :=
  Keeps.bind (Keeps.modify' fun _ hs => Memo.All.insert hs hr.settle) fun _ _ => Keeps.pure' hr.settle

/-- Putting `n` back together from children that keep their uses, remembering and returning it. -/
theorem rebuild_settle_keepsUses {k : Kind} {f : Fields} {cs cs' : List Node}
    (hcs : List.Forall₂ (fun r c => KeepsUses c r) cs' cs) :
    Keeps (Memo.All KeepsUses) (rebuildM (.mk k f cs) cs' f >>= fun r =>
      modify (fun memo : Memo => memo.insert (.mk k f cs) (Lingo.settle (.mk k f cs) r)) >>= fun _ =>
        pure (Lingo.settle (.mk k f cs) r) : TransformM Node) (KeepsUses (.mk k f cs)) :=
  Keeps.bind rebuildM_keeps fun _ hr => settle_insert_keepsUses (KeepsUses.rebuild hr rfl rfl rfl hcs)

/-- An operator whose operands fold to literals meets no name, like the literal it folds to. -/
theorem KeepsUses.literalOf {k : Kind} {f : Fields} {cs cs' : List Node}
    (hk : k ∈ [.neg, .add, .sub, .mul, .div]) (hcs : List.Forall₂ (fun r c => KeepsUses c r) cs' cs)
    (hlit : ∀ c' ∈ cs', c'.kind.isLiteral) (v : Datum) (pos : Pos) :
    KeepsUses (.mk k f cs) (Folding.literalOf v pos) := by
  intro hn
  have hchildren : List.Forall₂ (fun c' c => c'.Plain ∧ c'.symbolEvents = c.symbolEvents) cs' cs :=
    forall₂_imp_mem hcs fun c' c hc h => h (hn.children c hc)
  refine ⟨(literalOf_keepsUses v pos).1, ?_⟩
  rw [(literalOf_keepsUses v pos).2, symbolEvents_operator (List.mem_append_left [.textExpr] hk),
    ← symbolEventsOf_congr (hchildren.imp fun _ _ h => h.2)]
  refine (symbolEventsOf_eq_nil fun c' hc' => ?_).symm
  obtain ⟨c, -, hc⟩ := exists_of_forall₂_left hchildren hc'
  exact hc.1.symbolEvents_of_isLiteral (hlit c' hc')

/-- A product by a number of a product whose right factor is a number multiplies the two numbers:
the variable factor keeps the uses of the left operand, and the numbers meet none. -/
theorem reassociate_keepsUses {f : Fields} {l r l' r' x c : Node} (hl : KeepsUses l l')
    (hr : KeepsUses r r') (hlk : l'.kind = .mul) (hrk : r'.kind = .number)
    (hch : l'.children = [x, c]) :
    Keeps (Memo.All KeepsUses)
      (if c.kind = .number then do
        let v ← arith (c.fields.value.mul r'.fields.value)
        let r₁ ← rebuildM (mk .mul f [l, r]) [x, Folding.literalOf v (c.pos.combine r'.pos)] f
        modify fun memo => memo.insert (mk .mul f [l, r]) (Lingo.settle (mk .mul f [l, r]) r₁)
        pure (Lingo.settle (mk .mul f [l, r]) r₁)
      else do
        let r₁ ← rebuildM (mk .mul f [l, r]) [l', r'] f
        modify fun memo => memo.insert (mk .mul f [l, r]) (Lingo.settle (mk .mul f [l, r]) r₁)
        pure (Lingo.settle (mk .mul f [l, r]) r₁))
      (KeepsUses (mk .mul f [l, r])) := by
  split
  · next hc =>
    refine Keeps.bind arith_keeps fun v _ => rebuild_settle_keepsUses (.cons ?_ (.cons ?_ .nil))
    · intro hlp
      obtain ⟨hl'p, hl'ev⟩ := hl hlp
      obtain ⟨lk, lf, lcs⟩ := l'
      simp only [kind, children] at hlk hch
      subst hlk hch
      have hcp := hl'p.children c (by simp)
      refine ⟨hl'p.children x (by simp), ?_⟩
      rw [← hl'ev, symbolEvents_operator (by simp), symbolEventsOf, symbolEventsOf, symbolEventsOf,
        hcp.symbolEvents_of_isLiteral (by simp [hc, Kind.isLiteral])]
      simp
    · intro hrp
      obtain ⟨hr'p, hr'ev⟩ := hr hrp
      refine ⟨(literalOf_keepsUses _ _).1, ?_⟩
      rw [(literalOf_keepsUses _ _).2, ← hr'ev, hr'p.symbolEvents_of_isLiteral (by simp [hrk, Kind.isLiteral])]
  · exact rebuild_settle_keepsUses (.cons hl (.cons hr .nil))

/-- Folding keeps the uses of names of every plain node, and so does every result it remembers. -/
theorem foldM_keepsUses (n : Node) : Keeps (Memo.All KeepsUses) (foldM n) (KeepsUses n) := by
  induction n using Node.induction with
  | h k f cs ih =>
    rw [foldM.eq_1]
    refine Keeps.get_bind fun memo hmemo => ?_
    split
    · next r hfind => exact Keeps.pure' (hmemo.find (fun _ _ _ h hkey => h.of_sameKey hkey) hfind)
    · dsimp only
      split
      · -- a negated literal number becomes a number literal; a negated string is refused
        next o _ =>
        refine Keeps.bind (ih o (by simp)) fun o' ho => ?_
        split
        · exact Keeps.bind (Keeps.throw' (Q := fun _ => False)) fun _ h => h.elim
        · split
          · next hnum =>
            refine Keeps.bind arith_keeps fun v _ => settle_insert_keepsUses ?_
            exact KeepsUses.literalOf (by simp) (.cons ho .nil)
              (by simp [hnum, Kind.isLiteral]) _ _
          · exact rebuild_settle_keepsUses (.cons ho .nil)
      case h_2 | h_3 | h_4 | h_5 =>
        rename_i l r _
        refine Keeps.bind (ih l (by simp)) fun l' hl => ?_
        refine Keeps.bind (ih r (by simp)) fun r' hr => ?_
        split
        · -- two literal operands: the literal of the value
          next hlit =>
          simp only [Bool.and_eq_true] at hlit
          refine Keeps.bind evalBinary_keeps fun v _ => settle_insert_keepsUses ?_
          refine KeepsUses.literalOf (by simp) (.cons hl (.cons hr .nil)) ?_ _ _
          simp [hlit.1, hlit.2]
        · split
          · -- only a product can be a product by a number of a product
            next x c hkmul hlk hrk hch =>
            cases hkmul <;> exact reassociate_keepsUses hl hr hlk hrk hch
          · exact rebuild_settle_keepsUses (.cons hl (.cons hr .nil))
      · -- a text: its fragments are folded, then runs of literal text are merged
        refine Keeps.bind (Keeps.mapM ih) fun cs' hcs' => ?_
        by_cases hn : (mk .textRoot f cs).Plain
        · have hchildren : List.Forall₂ (fun c' c => c'.Plain ∧ c'.symbolEvents = c.symbolEvents)
              cs' cs :=
            forall₂_imp_mem hcs' fun c' c hc h => h (hn.children c hc)
          have hplain : ∀ c' ∈ cs', c'.Plain := fun c' hc' =>
            (exists_of_forall₂_left hchildren hc').choose_spec.2.1
          refine Keeps.bind (mergeRuns_keepsUses cs' hplain [] none MergesPlain.empty)
            fun merged hm => Keeps.bind (Keeps.pure' (Q := (· = _)) rfl) fun r hr => ?_
          subst hr
          refine settle_insert_keepsUses fun _ =>
            ⟨.mk (fun h => absurd h (by decide)) (fun h => absurd h (by decide)) hm.1, ?_⟩
          simp only [symbolEvents, hm.2, symbolEventsOf, List.nil_append,
            symbolEventsOf_congr (hchildren.imp fun _ _ h => h.2)]
        · refine Keeps.bind (mergeRuns_keeps cs' [] none) fun merged _ => ?_
          refine Keeps.bind (Keeps.pure' (Q := fun _ => True) trivial) fun r _ => ?_
          exact settle_insert_keepsUses fun hn' => absurd hn' hn
      · -- any other node: its children are folded and it is put back together
        exact Keeps.bind (Keeps.mapM ih) fun cs' hcs' => rebuild_settle_keepsUses hcs'

end Node

/-! ## The check on the analysed tree -/

namespace TypeMap

/-- Analysis keeps the uses of names of a plain tree. -/
theorem analyze_keepsUses {m m' : TypeMap} {sigs : List (Datum × List Datum)} {t typed : Node}
    (h : m.analyze sigs t = (m', .ok typed)) : Node.KeepsUses t typed := by
  intro ht
  unfold analyze at h
  split at h
  · cases h
  · obtain ⟨typed₀, htype, hfold⟩ := Code.bind_eq_ok (Prod.mk.inj h).2
    obtain ⟨-, st, hvisit⟩ := typeTree_run htype
    obtain ⟨memo, hrun⟩ := fold_run hfold
    obtain ⟨-, htyped⟩ := Typing.visit_keepsUses _ t {} typed₀ st (Memo.All.empty _) hvisit
    obtain ⟨-, hfolded⟩ := Node.foldM_keepsUses typed₀ {} typed memo (Memo.All.empty _) hrun
    obtain ⟨hp₀, hev₀⟩ := htyped ht
    obtain ⟨hp₁, hev₁⟩ := hfolded hp₀
    exact ⟨hp₁, hev₁.trans hev₀⟩

end TypeMap

end Lingo
