import Lingo.Proofs.Lines
import Lingo.Proofs.Running
import Lingo.Proofs.DeclaredArguments
import Lingo.Tree.Outline

/-!
# Outlines list the nodes of a tree

The tree printer `Node.printVisit` keeps the depth of the node it visits as its state. On a tree
whose values and names can all be written, a visit from depth `d` prints the lines of the nodes in
depth-first pre-order, each indented by its depth (`Node.walkAt`, `Node.lineAt`), joined by line
feeds, and leaves the depth at `d` (`Node.printVisit_run`). No line holds a line feed
(`Node.oneLine_outlineLine`), so the printed text splits back into one line per node of
`Node.walk`, the i-th line the i-th node's (`Node.outline_lists_walk`). An integer too long to
write stops the printer (`Node.outline_refuses_long_integer`).
-/

namespace Lingo

namespace Node

open Text

/-! ## Nodes with their depths -/

/-- The nodes of a tree in depth-first pre-order, each with its depth, the root at depth `d`. -/
def walkAt (d : Nat) : Node → List (Nat × Node)
  | mk k f cs => (d, mk k f cs) :: (cs.map (walkAt (d + 1))).flatten

/-- The line the printer writes for a node at a depth: one bar per level, then the node's line. -/
def lineAt (p : Nat × Node) : String :=
  String.join (List.replicate p.1 depthMark) ++ p.2.outlineLine

theorem walkAt_ne_nil (d : Nat) (t : Node) : walkAt d t ≠ [] := by
  cases t
  simp [walkAt]

/-- Forgetting the depths gives the walk. -/
theorem map_snd_walkAt (t : Node) : ∀ d, (walkAt d t).map Prod.snd = t.walk := by
  induction t using Node.induction with
  | h k f cs ih =>
    intro d
    simp only [walkAt, walk, List.map_cons, List.map_flatten, List.map_map, List.cons.injEq,
      true_and]
    congr 1
    exact List.map_congr_left fun c hc => ih c hc (d + 1)

/-! ## Every line fits on one line -/

theorem oneLine_quoted (v : FieldValue) : OneLine v.quoted := by
  cases v with
  | datum d => exact Datum.oneLine_repr d
  | text s => exact oneLine_quote s
  | pos p =>
    simp only [FieldValue.quoted, FieldValue.plain, OneLine.append]
    refine ⟨⟨by decide, OneLine.intercalate (by decide) ?_⟩, by decide⟩
    simp only [List.mem_map, List.mem_cons, List.not_mem_nil, or_false]
    rintro _ ⟨i, -, rfl⟩
    exact Scalar.oneLine_intText i
  | ty t => cases t <;> decide
  | flag b => cases b <;> decide
  | absent => decide

/-- The line of a node holds no line feed: its kind, its fields' labels and literals, its type
and its constancy are all written on one line. -/
theorem oneLine_outlineLine (n : Node) : OneLine n.outlineLine := by
  have hname : OneLine n.kind.name := by
    cases n.kind <;> decide
  unfold outlineLine
  dsimp only
  refine OneLine.append.2 ⟨OneLine.append.2 ⟨OneLine.append.2 ⟨hname, ?_⟩, ?_⟩, ?_⟩
  · split
    · decide
    · refine OneLine.append.2 ⟨OneLine.append.2 ⟨by decide, OneLine.intercalate (by decide) ?_⟩,
        by decide⟩
      -- a shown field is its label, an equals sign and its quoted value
      intro s hs
      obtain ⟨fld, -, hfld⟩ := List.mem_filterMap.1 hs
      split at hfld
      · cases hfld
      · cases hfld
        have hlabel : OneLine fld.label := by
          cases fld <;> decide
        exact OneLine.append.2 ⟨OneLine.append.2 ⟨hlabel, by decide⟩, oneLine_quoted _⟩
  · split
    · exact OneLine.append.2 ⟨by decide, by cases ‹Ty› <;> decide⟩
    · decide
  · split <;> decide

theorem oneLine_lineAt (p : Nat × Node) : OneLine (lineAt p) := by
  have hmark : OneLine depthMark := by decide
  simp only [lineAt, OneLine.append, OneLine.join, List.mem_replicate]
  exact ⟨fun s hs => hs.2 ▸ hmark, oneLine_outlineLine p.2⟩

/-! ## A run of the printer -/

/-- One visit: with the node's line checked and its children printed one level deeper, the node's
text is its line and its children's texts, and the depth is back where it was. -/
theorem printVisit_mk_run {k : Kind} {f : Fields} {cs : List Node} {d : Nat}
    (h : checkWritable (mk k f cs) = .ok ()) {rest : List String}
    (hcs : (printVisit.printChildren cs).run (d + 1) = .ok (rest, d + 1)) :
    (printVisit (mk k f cs)).run d = .ok ("\n".intercalate (lineAt (d, mk k f cs) :: rest), d) := by
  rw [printVisit]
  simp only [StateT.run_bind, StateT.run_monadLift, h, StateT.run_get, StateT.run_modify,
    StateT.run_pure, monadLift_self, Code.ok_bind, Code.pure_ok]
  rw [hcs]
  simp only [Code.ok_bind, Nat.add_sub_cancel, lineAt]

/-- The children are printed one after another, each from the same depth, which each leaves as it
found it. -/
theorem printChildren_run {g : Node → String} {d : Nat} :
    ∀ {cs : List Node}, (∀ c ∈ cs, (printVisit c).run d = .ok (g c, d)) →
      (printVisit.printChildren cs).run d = .ok (cs.map g, d)
  | [], _ => by
    simp [printVisit.printChildren]
  | c :: cs, h => by
    have hc := h c List.mem_cons_self
    have hcs := printChildren_run fun c' hc' => h c' (List.mem_cons_of_mem _ hc')
    rw [printVisit.printChildren]
    simp only [StateT.run_bind, hc, hcs, StateT.run_pure, Code.ok_bind, Code.pure_ok, List.map_cons]

/-- From depth `d`, the printer prints a tree whose values and names can be written as the lines
of its nodes at their depths, joined by line feeds, and leaves the depth at `d`. -/
theorem printVisit_run {t : Node} (ht : ∀ n ∈ t.walk, n.checkWritable = .ok ()) :
    ∀ d, (printVisit t).run d = .ok ("\n".intercalate ((walkAt d t).map lineAt), d) := by
  induction t using Node.induction with
  | h k f cs ih =>
    intro d
    have hself : checkWritable (mk k f cs) = .ok () := ht _ (mem_walk_mk.2 (.inl rfl))
    -- each child is printed from one level down, by the induction hypothesis
    have hchild : ∀ c ∈ cs, (printVisit c).run (d + 1) =
        .ok ("\n".intercalate ((walkAt (d + 1) c).map lineAt), d + 1) := fun c hc =>
      ih c hc (fun n hn => ht n (mem_walk_mk.2 (.inr ⟨c, hc, hn⟩))) (d + 1)
    rw [printVisit_mk_run hself (printChildren_run hchild)]
    -- the node's line and its children's texts are one group each
    have hgroups : ∀ xs ∈ [lineAt (d, mk k f cs)] ::
        cs.map (fun c => (walkAt (d + 1) c).map lineAt), xs ≠ [] := by
      simp only [List.mem_cons, List.mem_map]
      rintro xs (rfl | ⟨c, -, rfl⟩)
      · simp
      · simpa using walkAt_ne_nil (d + 1) c
    have hjoin := intercalate_map_intercalate "\n" hgroups
    simp only [List.map_cons, List.map_map, String.intercalate_singleton, List.flatten_cons,
      List.singleton_append, Function.comp_def] at hjoin
    simp only [walkAt, List.map_cons, List.map_flatten, List.map_map, Function.comp_def]
    rw [hjoin]

/-! ## The outline -/

/-- What the printer makes of a tree `t`: the text `text`, ending at depth zero where it started,
with one line per node of the walk, in order, the i-th line the i-th node's, indented by one bar
per level of its depth below the root. -/
structure PrintedAs (t : Node) (text : String) : Prop where
  outline : t.outline? = .ok text
  depth_back : (printVisit t).run 0 = .ok (text, 0)
  lines : text.splitOn "\n" = (walkAt 0 t).map lineAt
  length_lines : (text.splitOn "\n").length = t.walk.length
  nodes : (walkAt 0 t).map Prod.snd = t.walk

/-- The printer draws every tree whose values and names can be written as one line per node of
its walk, in order, each indented by its depth, and ends at depth zero. -/
theorem outline_lists_walk (t : Node) (ht : ∀ n ∈ t.walk, n.checkWritable = .ok ()) :
    ∃ text, PrintedAs t text := by
  have hrun := printVisit_run ht 0
  have hlines : ("\n".intercalate ((walkAt 0 t).map lineAt)).splitOn "\n" =
      (walkAt 0 t).map lineAt := by
    apply lines_intercalate
    · simp only [List.mem_map]
      rintro _ ⟨p, -, rfl⟩
      exact oneLine_lineAt p
    · simpa using walkAt_ne_nil 0 t
  refine ⟨_, ⟨?_, hrun, hlines, ?_, map_snd_walkAt t 0⟩⟩
  · show Prod.fst <$> (printVisit t).run 0 = _
    rw [hrun]
    rfl
  · rw [hlines, List.length_map, ← map_snd_walkAt t 0, List.length_map]

/-- A typed product of a variable and a number: its value and name can be written, and the
printer lists its three nodes. -/
theorem outline_lists_walk_product :
    (∀ n ∈ (Node.mk .mul { ty := some .number }
        [.mk .var { name := .str "n", ty := some .number } [],
          .mk .number { value := .int 2, ty := some .number, const := some true } []]).walk,
      n.checkWritable = .ok ()) ∧
    ∃ text, PrintedAs (Node.mk .mul { ty := some .number }
        [.mk .var { name := .str "n", ty := some .number } [],
          .mk .number { value := .int 2, ty := some .number, const := some true } []]) text := by
  have h : ∀ n ∈ (Node.mk .mul { ty := some .number }
      [.mk .var { name := .str "n", ty := some .number } [],
        .mk .number { value := .int 2, ty := some .number, const := some true } []]).walk,
      n.checkWritable = .ok () := by
    have hsmall : ¬10 ^ Scalar.maxDigits ≤ 2 :=
      Nat.not_le.2 (Nat.lt_of_lt_of_le (by decide) (Nat.le_self_pow (by decide) 10))
    simp [walk, checkWritable, Node.fields, Datum.str, Datum.int, Datum.none, Datum.writable,
      Scalar.writable, hsmall]
  exact ⟨h, outline_lists_walk _ h⟩

/-- An integer of more digits than are ever written stops the printer. -/
theorem outline_refuses_long_integer :
    (Node.mk .number { value := .int (10 ^ Scalar.maxDigits) } []).outline? =
      .error .tooManyDigits := by
  have hlong : 10 ^ Scalar.maxDigits ≤ ((10 : Int) ^ Scalar.maxDigits).natAbs := by
    simp [Int.natAbs_pow]
  -- the value is checked before anything is written
  have hcheck : checkWritable (.mk .number { value := .int (10 ^ Scalar.maxDigits) } []) =
      .error .tooManyDigits := by
    simp only [checkWritable, Node.fields, Datum.int, Datum.writable, Scalar.writable, if_pos hlong]
    rfl
  rw [outline?, printVisit]
  simp only [StateT.run', hcheck]
  rfl

end Node

end Lingo
