import Lingo.Check.Symbols
import Lingo.Proofs.Grammar
import Lingo.Proofs.Keys
import Lingo.Proofs.Recording
import Lingo.Proofs.Running

/-!
# What the symbol check judges

The check of allowed names (`Node.usedSymbols`) walks the texts of a translation and meets, in
pre-order, the start of each text and each use of a variable or of a function
(`Node.symbolEvents`): a rule's constraints and literal text are not looked at, and a call's name
comes before its arguments. The walk depends on these events alone (`Symbols.visit_events`).

On a tree whose names are strings, with allow-lists of strings, the check gives a verdict on the
uses of names (`Symbols.judge`): it refuses the first use whose name is outside its list, at the
use's position and in the source of its text, and otherwise lists the names used, each once, in
the order of first use (`Symbols.usedSymbols_judge`). The tree of every well-formed translation is
such a tree (`Node.IsTranslation.plain`).
-/

namespace Lingo

/-- What the symbol check meets on its walk: the start of a text with its source, or a use of a
variable or of a function with its name and position. -/
inductive SymbolEvent where
  | text (source : Option String)
  | var (name : Datum) (pos : Pos)
  | fn (name : Datum) (pos : Pos)

namespace Node

mutual

/-- The events of the walk over the texts of `n`, in pre-order: a rule's constraints, constraint
lists and literal text are skipped, and a call's name comes before its arguments. -/
def symbolEvents : Node → List SymbolEvent
  | mk k f cs =>
    match k, cs with
    | .rule, [_, t] => symbolEvents t
    | .textRoot, cs => .text f.input :: symbolEventsOf cs
    | .constraintRoot, _ | .literal, _ => []
    | .textVar, _ | .var, _ => [.var f.name f.pos]
    | .call, cs => .fn f.name f.pos :: symbolEventsOf cs
    | _, cs => symbolEventsOf cs

/-- The events of trees met one after the other. -/
def symbolEventsOf : List Node → List SymbolEvent
  | [] => []
  | c :: cs => symbolEvents c ++ symbolEventsOf cs

end

end Node

namespace Symbols

/-- The check over events, from the source of the text being read and the names used so far: it
refuses the first name outside its allow-list, and otherwise gives the source of the last text
and the names used. -/
def checkEvents (vars fns : Option (List Datum)) :
    Option String → SymbolUse → List SymbolEvent → Except Failure (Option String × SymbolUse)
  | src, used, [] => pure (src, used)
  | _, used, .text s :: es => checkEvents vars fns s used es
  | src, used, .var x p :: es => do
      x.hashable
      if allows vars x then
        checkEvents vars fns src { used with vars := addName used.vars x } es
      else throw (.unknownVariable ⟨x, some (vars.getD []), some p, src⟩)
  | src, used, .fn x p :: es => do
      x.hashable
      if allows fns x then
        checkEvents vars fns src { used with functions := addName used.functions x } es
      else throw (Failure.ofUnknownFunction ⟨x, some (fns.getD []), some p, src⟩)

end Symbols

/-- An event whose name, if it has one, is a string. -/
def SymbolEvent.Named : SymbolEvent → Prop
  | .text _ => True
  | .var x _ | .fn x _ => ∃ s, x = .str s

/-- A use of a name in the texts of a translation: of a function or of a variable, with its
position and the source of the text it is in. -/
structure NameUse where
  fn : Bool
  name : String
  pos : Pos
  source : Option String

namespace Symbols

/-- The uses of names among the events, each with the source of the text it is in. -/
def nameUses : Option String → List SymbolEvent → List NameUse
  | _, [] => []
  | _, .text s :: es => nameUses s es
  | src, .var x p :: es => ⟨false, x.text, p, src⟩ :: nameUses src es
  | src, .fn x p :: es => ⟨true, x.text, p, src⟩ :: nameUses src es

/-- Whether an allow-list of names, if there is one, holds a name. -/
def permits (allowed : Option (List String)) (x : String) : Bool :=
  match allowed with
  | some xs => xs.contains x
  | none => true

/-- Whether allow-lists of variables and functions refuse a use. -/
def refuses (vars fns : Option (List String)) (u : NameUse) : Bool :=
  !permits (if u.fn then fns else vars) u.name

/-- The report of a refused use, naming the allow-list it is outside of. -/
def refusal (vars fns : Option (List String)) (u : NameUse) : Failure :=
  if u.fn then .unknownFunction ⟨.str u.name, some ((fns.getD []).map .str), some u.pos, u.source⟩
  else .unknownVariable ⟨.str u.name, some ((vars.getD []).map .str), some u.pos, u.source⟩

/-- The names of variables and of functions among some uses, each once, in the order of first
use. -/
def usedNames (us : List NameUse) : SymbolUse :=
  { vars := ((us.filter (!·.fn)).map (·.name)).eraseDups.map .str
    functions := ((us.filter (·.fn)).map (·.name)).eraseDups.map .str }

/-- The verdict of allow-lists on uses of names: the first use outside its list is refused, and
otherwise the names used are listed. -/
def judge (vars fns : Option (List String)) (us : List NameUse) : Except Failure SymbolUse :=
  match us.find? (refuses vars fns) with
  | some u => throw (refusal vars fns u)
  | none => pure (usedNames us)

end Symbols

/-- The uses of names in the texts of `t`, in pre-order over the texts, a call's name before its
arguments and rules in order. -/
def Node.nameUses (t : Node) : List NameUse := Symbols.nameUses none t.symbolEvents

/-! ## The check meets the events of the texts -/

namespace Symbols

section Walk

variable {vars fns : Option (List Datum)}

theorem checkEvents_append (src : Option String) (used : SymbolUse) (es es' : List SymbolEvent) :
    checkEvents vars fns src used (es ++ es') =
      checkEvents vars fns src used es >>= fun p => checkEvents vars fns p.1 p.2 es' := by
  induction es generalizing src used with
  | nil => rfl
  | cons e es ih =>
    cases e with
    | text s => simp only [List.cons_append, checkEvents, ih]
    | var x p =>
      simp only [List.cons_append, checkEvents]
      cases x.hashable with
      | error e => rfl
      | ok u =>
        simp only [Code.ok_bind]
        split
        · exact ih _ _
        · rfl
    | fn x p =>
      simp only [List.cons_append, checkEvents]
      cases x.hashable with
      | error e => rfl
      | ok u =>
        simp only [Code.ok_bind]
        split
        · exact ih _ _
        · rfl

/-- What the state of the check says of the walk so far: the source of the text being read and
the names used. -/
def view (st : SymbolState) : Option String × SymbolUse := (st.text.bind (·.fields.input), st.used)

/-- Two steps of the check, the second whatever the state the first left, meet the events of
both in turn. -/
theorem run_seq_view {x : SymbolM Unit} {y : SymbolM Unit} {st : SymbolState}
    (es es' : List SymbolEvent)
    (hx : (x.run st).map (view ·.2) = checkEvents vars fns (view st).1 (view st).2 es)
    (hy : ∀ st', (y.run st').map (view ·.2) = checkEvents vars fns (view st').1 (view st').2 es') :
    ((x >>= fun _ => y).run st).map (view ·.2) =
      checkEvents vars fns (view st).1 (view st).2 (es ++ es') := by
  rw [checkEvents_append, ← hx, StateT.run_bind]
  cases x.run st with
  | error e => rfl
  | ok p => exact hy p.2

theorem visitAll_events_of {cs : List Node}
    (ih : ∀ c ∈ cs, ∀ st, ((visit vars fns c).run st).map (view ·.2) =
      checkEvents vars fns (view st).1 (view st).2 c.symbolEvents) (st : SymbolState) :
    ((visitAll vars fns cs).run st).map (view ·.2) =
      checkEvents vars fns (view st).1 (view st).2 (Node.symbolEventsOf cs) := by
  induction cs generalizing st with
  | nil => rfl
  | cons c cs ihcs =>
    rw [visitAll, Node.symbolEventsOf]
    exact run_seq_view _ _ (ih c List.mem_cons_self st)
      fun st' => ihcs (fun d hd => ih d (List.mem_cons_of_mem _ hd)) st'

/-- A use of a name, then a step `y`: the name must be hashable, and the use is recorded and
refused when the name is outside its allow-list; the events of the use are those of the event
`ev`, which the check reads the same way. -/
theorem use_events {k : Kind} {f : Fields} {cs : List Node} (hk : k.has .pos = true)
    (allowed : Option (List Datum)) (record : SymbolUse → Datum → SymbolUse)
    (refuse : UnknownSymbol → Failure) (st : SymbolState) {ev : SymbolEvent}
    {y : SymbolM Unit} {es : List SymbolEvent}
    (hy : ∀ st', (y.run st').map (view ·.2) = checkEvents vars fns (view st').1 (view st').2 es)
    (hev : ∀ src used, checkEvents vars fns src used (ev :: es) = (do
      f.name.hashable
      if allows allowed f.name then checkEvents vars fns src (record used f.name) es
      else throw (refuse ⟨f.name, some (allowed.getD []), some f.pos, src⟩))) :
    ((do
      check (Node.mk k f cs).fields.name.hashable
      modify fun s : SymbolState => { s with used := record s.used (Node.mk k f cs).fields.name }
      if (!allows allowed (Node.mk k f cs).fields.name) = true then do
        let e ← report (Node.mk k f cs) (Node.mk k f cs).fields.name (allowed.getD [])
        throw (refuse e)
      y : SymbolM Unit).run st).map (view ·.2) =
        checkEvents vars fns (view st).1 (view st).2 (ev :: es) := by
  rw [hev]
  cases hx : f.name.hashable with
  | error e => simp [Node.fields, check, hx]; rfl
  | ok u =>
    by_cases ha : allows allowed f.name = true
    · simp only [Node.fields, check, hx, ha, Bool.not_true, Bool.false_eq_true, if_false,
        StateT.run_bind, Code.ok_bind, if_true]
      exact hy _
    · simp [Node.fields, check, hx, ha, report, UnknownSymbol.ofParts, UnknownSymbol.posOf,
        Node.kind, hk, Node.pos]
      rfl

/-- The check walks the texts of a tree exactly as it runs over their events. -/
theorem visit_events (n : Node) (st : SymbolState) :
    ((visit vars fns n).run st).map (view ·.2) =
      checkEvents vars fns (view st).1 (view st).2 n.symbolEvents := by
  induction n using Node.induction generalizing st with
  | h k f cs ih =>
    rw [visit.eq_def]
    dsimp only
    split
    · -- a rule: only its text is walked
      next t => exact ih t (by simp) st
    · -- a text: it becomes the text being read, then its fragments are walked
      exact run_seq_view [.text f.input] _ rfl (visitAll_events_of ih)
    · rfl
    · rfl
    · have h := @use_events vars fns .textVar f cs (by decide) vars
        (fun u x => { u with vars := addName u.vars x }) Failure.unknownVariable st
        (.var f.name f.pos) (pure ()) [] (fun _ => rfl) fun _ _ => rfl
      simpa only [bind_pure_unit, Node.symbolEvents] using h
    · have h := @use_events vars fns .var f cs (by decide) vars
        (fun u x => { u with vars := addName u.vars x }) Failure.unknownVariable st
        (.var f.name f.pos) (pure ()) [] (fun _ => rfl) fun _ _ => rfl
      simpa only [bind_pure_unit, Node.symbolEvents] using h
    · exact @use_events vars fns .call f cs (by decide) fns
        (fun u x => { u with functions := addName u.functions x }) Failure.ofUnknownFunction st
        (.fn f.name f.pos) _ _ (visitAll_events_of ih) fun _ _ => rfl
    · -- any other node: its children are walked, and its events are theirs, since the kinds
      -- the walk singles out are the kinds the events single out
      rw [Node.symbolEvents.eq_def]
      dsimp only
      split
      all_goals first
        | exact visitAll_events_of ih st
        | (exfalso; simp_all)

end Walk

/-- The check of allowed names runs over the events of the tree, once the entries of its
allow-lists are found to be hashable. -/
theorem usedSymbols_eq (vars fns : Option (List Datum)) (t : Node) :
    t.usedSymbols vars fns = (do
      (vars.getD []).forM Datum.hashable
      (fns.getD []).forM Datum.hashable
      (·.2) <$> checkEvents vars fns none {} t.symbolEvents) := by
  have h : ((visit vars fns t).run {}).map (view ·.2) = checkEvents vars fns none {} t.symbolEvents :=
    visit_events t {}
  unfold Node.usedSymbols
  rw [← h]
  cases (visit vars fns t).run {} <;> rfl

/-! ## The verdict on uses named by strings -/

theorem hashable_str (s : String) : (Datum.str s).hashable = .ok () := rfl

@[simp] theorem text_str (s : String) : (Datum.str s).text = s := rfl

/-- An allow-list of strings allows a string it holds. -/
theorem allows_map_str (allowed : Option (List String)) (s : String) :
    allows (allowed.map (·.map Datum.str)) (.str s) = permits allowed s := by
  cases allowed with
  | none => rfl
  | some xs =>
    simp only [Option.map_some, allows, permits, List.any_map, List.contains_eq_any_beq]
    congr 1
    funext x
    rw [Bool.eq_iff_iff, Function.comp_apply, Datum.sameValue_str_right, beq_iff_eq]
    constructor
    · intro h
      cases h
      rfl
    · intro h
      rw [h]

/-- Recording a string in the names so far lists it once, after them. -/
theorem addName_eraseDups (xs : List String) (s : String) :
    addName (xs.eraseDups.map .str) (.str s) = (xs ++ [s]).eraseDups.map .str := by
  rw [List.eraseDups_append]
  unfold addName
  by_cases hs : s ∈ xs
  · have hany : (xs.eraseDups.map Datum.str).any (Datum.sameValue · (.str s)) = true := by
      simp only [List.any_map, List.any_eq_true, Function.comp_apply, Datum.sameValue_str_right]
      exact ⟨s, List.mem_eraseDups.2 hs, rfl⟩
    simp [hany, List.removeAll, hs]
  · have hany : (xs.eraseDups.map Datum.str).any (Datum.sameValue · (.str s)) = false := by
      simp only [List.any_map, List.any_eq_false, Function.comp_apply, Datum.sameValue_str_right]
      intro x hx h
      cases h
      exact hs (List.mem_eraseDups.1 hx)
    simp [hany, List.removeAll, hs, List.eraseDups_cons]

theorem firstNonString_map_str (xs : List String) : firstNonString (xs.map Datum.str) = none := by
  induction xs with
  | nil => rfl
  | cons x xs ih => simp [firstNonString, ih, Datum.isStr, Datum.str]

/-- Over events that name by strings, the check with allow-lists of strings gives the verdict on
the uses of names, after the names recorded before. -/
theorem checkEvents_judge (vars fns : Option (List String)) (src : Option String)
    (pv pf : List String) (es : List SymbolEvent) (hes : ∀ e ∈ es, e.Named) :
    (·.2) <$> checkEvents (vars.map (·.map .str)) (fns.map (·.map .str)) src
        ⟨pv.eraseDups.map .str, pf.eraseDups.map .str⟩ es =
      match (nameUses src es).find? (refuses vars fns) with
      | some u => throw (refusal vars fns u)
      | none => pure ⟨(pv ++ ((nameUses src es).filter (!·.fn)).map (·.name)).eraseDups.map .str,
          (pf ++ ((nameUses src es).filter (·.fn)).map (·.name)).eraseDups.map .str⟩ := by
  induction es generalizing src pv pf with
  | nil => simp [checkEvents, nameUses]
  | cons e es ih =>
    have ih' := fun src pv pf => ih src pv pf fun e he => hes e (List.mem_cons_of_mem _ he)
    cases e with
    | text s => exact ih' s pv pf
    | var x p =>
      obtain ⟨s, rfl⟩ := hes _ List.mem_cons_self
      simp only [checkEvents, nameUses, hashable_str, allows_map_str, Code.ok_bind]
      by_cases hs : permits vars s = true
      · -- an allowed variable is recorded once, and the walk goes on
        simp [hs, addName_eraseDups, ih', refuses]
      · -- a refused variable is reported at its use; only a list refuses
        obtain ⟨xs, rfl⟩ : ∃ xs, vars = some xs := by
          cases vars with
          | none => exact absurd rfl hs
          | some xs => exact ⟨xs, rfl⟩
        simp [hs, refuses, refusal]
        rfl
    | fn x p =>
      obtain ⟨s, rfl⟩ := hes _ List.mem_cons_self
      simp only [checkEvents, nameUses, hashable_str, allows_map_str, Code.ok_bind]
      by_cases hs : permits fns s = true
      · -- an allowed function is recorded once, and the walk goes on
        simp [hs, addName_eraseDups, ih', refuses]
      · -- a refused function is reported at its call; only a list refuses
        obtain ⟨xs, rfl⟩ : ∃ xs, fns = some xs := by
          cases fns with
          | none => exact absurd rfl hs
          | some xs => exact ⟨xs, rfl⟩
        simp [hs, refuses, refusal, Failure.ofUnknownFunction, firstNonString_map_str]
        rfl

theorem forM_hashable_str (xs : Option (List String)) :
    ((xs.map (·.map Datum.str)).getD []).forM Datum.hashable = .ok () := by
  cases xs with
  | none => rfl
  | some xs =>
    induction xs with
    | nil => rfl
    | cons x xs ih => exact ih

/-- The check with allow-lists of strings, on a tree that names its uses by strings, gives the
verdict on its uses of names. -/
theorem usedSymbols_judge (vars fns : Option (List String)) (n : Node)
    (hn : ∀ e ∈ n.symbolEvents, e.Named) :
    n.usedSymbols (vars.map (·.map .str)) (fns.map (·.map .str)) = judge vars fns n.nameUses := by
  rw [usedSymbols_eq, forM_hashable_str, forM_hashable_str]
  have h := checkEvents_judge vars fns none [] [] n.symbolEvents hn
  simp only [List.nil_append] at h
  exact h

end Symbols

/-! ## Plain trees name their uses by strings -/

namespace Node

/-- A tree whose number and string literals are leaves and whose names are strings: the tree of a
well-formed translation, and every tree the analysis makes of one. -/
inductive Plain : Node → Prop
  | mk {k : Kind} {f : Fields} {cs : List Node} (hleaf : k.isLiteral → cs = [])
      (hname : k.has .name → ∃ s, f.name = .str s) (hcs : ∀ c ∈ cs, Plain c) :
      Plain (.mk k f cs)

theorem Plain.children {k : Kind} {f : Fields} {cs : List Node} (h : (Node.mk k f cs).Plain) :
    ∀ c ∈ cs, c.Plain := by
  cases h
  assumption

/-- A plain number or string literal meets no name. -/
theorem Plain.symbolEvents_of_isLiteral {n : Node} (h : n.Plain) (hk : n.kind.isLiteral) :
    n.symbolEvents = [] := by
  cases h with
  | @mk k f cs hleaf _ _ =>
    rw [hleaf hk]
    cases k <;> simp_all [Kind.isLiteral, kind, symbolEvents, symbolEventsOf]

theorem mem_symbolEventsOf {e : SymbolEvent} {cs : List Node} :
    e ∈ symbolEventsOf cs ↔ ∃ c ∈ cs, e ∈ c.symbolEvents := by
  induction cs with
  | nil => simp [symbolEventsOf]
  | cons c cs ih => simp [symbolEventsOf, ih]

/-- A plain tree names its uses by strings. -/
theorem Plain.named {n : Node} (h : n.Plain) : ∀ e ∈ n.symbolEvents, e.Named := by
  induction h with
  | @mk k f cs hleaf hname hcs ih =>
    intro e he
    have hof : ∀ e ∈ symbolEventsOf cs, e.Named := fun e he => by
      obtain ⟨c, hc, he⟩ := mem_symbolEventsOf.1 he
      exact ih c hc e he
    rw [symbolEvents.eq_def] at he
    dsimp only at he
    split at he
    · next t => exact ih t (by simp) e he
    · rcases List.mem_cons.1 he with rfl | he
      · trivial
      · exact hof e he
    · cases he
    · cases he
    · rw [List.mem_singleton.1 he]
      exact hname (by decide)
    · rw [List.mem_singleton.1 he]
      exact hname (by decide)
    · rcases List.mem_cons.1 he with rfl | he
      · exact hname (by decide)
      · exact hof e he
    · exact hof e he

/-- The tree of a well-formed translation is plain. -/
theorem IsExpr.plain {e : Node} (h : e.IsExpr) : e.Plain := by
  induction h with
  | number => exact .mk (fun _ => rfl) (fun h => absurd h (by decide)) nofun
  | stringLit => exact .mk (fun _ => rfl) (fun h => absurd h (by decide)) nofun
  | var hx => exact .mk (fun _ => rfl) (fun _ => ⟨_, hx⟩) nofun
  | neg _ ih => exact .mk (fun h => absurd h (by decide)) (fun h => absurd h (by decide)) (by simpa)
  | @binary k f l r hk _ _ ihl ihr =>
    refine .mk (fun h => ?_) (fun h => ?_) (by simp [ihl, ihr])
    · rcases Kind.isBinary_cases hk with rfl | rfl | rfl | rfl <;> exact absurd h (by decide)
    · rcases Kind.isBinary_cases hk with rfl | rfl | rfl | rfl <;> exact absurd h (by decide)
  | call hx _ ih => exact .mk (fun h => absurd h (by decide)) (fun _ => ⟨_, hx⟩) ih

theorem IsText.plain {t : Node} (h : t.IsText) : t.Plain := by
  cases h with
  | literal => exact .mk (fun _ => rfl) (fun h => absurd h (by decide)) nofun
  | textVar hx => exact .mk (fun _ => rfl) (fun _ => ⟨_, hx⟩) nofun
  | textExpr he =>
    exact .mk (fun h => absurd h (by decide)) (fun h => absurd h (by decide)) (by simp [he.plain])

theorem IsIdent.plain {x : Node} (h : x.IsIdent) : x.Plain := by
  obtain ⟨f, s, rfl, hs⟩ := h
  exact .mk (fun _ => rfl) (fun _ => ⟨s, hs⟩) nofun

theorem IsValue.plain {v : Node} (h : v.IsValue) : v.Plain := by
  cases h <;> exact .mk (fun _ => rfl) (fun h => absurd h (by decide)) nofun

theorem IsConstraint.plain {c : Node} (h : c.IsConstraint) : c.Plain := by
  cases h with
  | ignore hx => exact .mk (fun h => absurd h (by decide)) (fun h => absurd h (by decide)) (by simp [hx.plain])
  | equality _ _ hx hv =>
    exact .mk (fun h => absurd h (by decide)) (fun h => absurd h (by decide)) (by simp [hx.plain, hv.plain])
  | inequality _ _ hx hv =>
    subst hv
    exact .mk (fun h => absurd h (by decide)) (fun h => absurd h (by decide))
      (by simp [hx.plain, Plain.mk (k := .numberValue) (fun _ => rfl) (fun h => absurd h (by decide)) nofun])

theorem IsTranslation.plain {t : Node} (h : t.IsTranslation) : t.Plain := by
  cases h with
  | text hts =>
    exact .mk (fun h => absurd h (by decide)) (fun h => absurd h (by decide)) fun c hc => (hts c hc).plain
  | rules _ hrs =>
    refine .mk (fun h => absurd h (by decide)) (fun h => absurd h (by decide)) fun r hr => ?_
    cases hrs r hr with
    | mk hcs hts =>
      refine .mk (fun h => absurd h (by decide)) (fun h => absurd h (by decide)) ?_
      simp only [List.mem_cons, List.not_mem_nil, or_false, forall_eq_or_imp, forall_eq]
      exact ⟨.mk (fun h => absurd h (by decide)) (fun h => absurd h (by decide))
          fun c hc => (hcs c hc).plain,
        .mk (fun h => absurd h (by decide)) (fun h => absurd h (by decide)) fun t ht => (hts t ht).plain⟩

end Node

end Lingo
