import Mathlib.Data.List.Forall2
import Lingo.Emit.Module

/-!
# What emission produces

Emission runs in `EmitM`: it may fail, and it records the helpers the code needs either way. The
lemmas here open a successful emission step by step (`EmitM.run'_bind_inv`), so that a proof
about the emitted code reads the code off the emitter's own structure: the guards of a type map,
and the shape of the body of a translation function.
-/

namespace Lingo

namespace EmitM

variable {α β : Type}

theorem run'_pure (a : α) (h : Helpers) : (pure a : EmitM α).run' h = (.ok a, h) := rfl

theorem run'_throw (f : Failure) (h : Helpers) : (throw f : EmitM α).run' h = (.error f, h) := rfl

theorem run'_bind_ok {x : EmitM α} {f : α → EmitM β} {h h₁ : Helpers} {a : α}
    (hx : x.run' h = (.ok a, h₁)) : (x >>= f).run' h = (f a).run' h₁ := by
  simp only [run', ExceptT.run_bind, StateT.run_bind] at hx ⊢
  rw [hx]
  rfl

/-- A successful emission step made of two steps: both succeeded, the second from the helpers
the first left. -/
theorem run'_bind_inv {x : EmitM α} {f : α → EmitM β} {h h' : Helpers} {b : β}
    (hb : (x >>= f).run' h = (.ok b, h')) :
    ∃ a h₁, x.run' h = (.ok a, h₁) ∧ (f a).run' h₁ = (.ok b, h') := by
  cases hx : x.run' h with
  | mk r h₁ =>
    cases r with
    | error e =>
      simp only [run', ExceptT.run_bind, StateT.run_bind] at hx hb
      rw [hx] at hb
      cases hb
    | ok a => exact ⟨a, h₁, rfl, (run'_bind_ok hx).symm.trans hb⟩

/-- A successful emission over a list emitted each item successfully. -/
theorem mapM_inv {γ : Type} {f : γ → EmitM α} {xs : List γ} {ys : List α} {h h' : Helpers}
    (hys : (xs.mapM f).run' h = (.ok ys, h')) :
    List.Forall₂ (fun x y => ∃ h₁ h₂, (f x).run' h₁ = (.ok y, h₂)) xs ys := by
  induction xs generalizing h ys with
  | nil =>
    rw [List.mapM_nil, run'_pure] at hys
    cases hys
    exact .nil
  | cons x xs ih =>
    rw [List.mapM_cons] at hys
    obtain ⟨y, h₁, hy, hrest⟩ := run'_bind_inv hys
    obtain ⟨ys', h₂, hys', hpure⟩ := run'_bind_inv hrest
    rw [run'_pure] at hpure
    cases hpure
    exact .cons ⟨h, h₁, hy⟩ (ih hys')

end EmitM

namespace Emit

open Code

/-- A guard that was emitted is the test of its type, raising the variable's `TypeError`. -/
theorem typeGuard_inv {v : Datum} {t : Ty} {h h' : Helpers} {s : Stmt}
    (hs : (typeGuard v t).run' h = (.ok s, h')) :
    ∃ test h₁, (failsType v t).run' h = (.ok test, h₁) ∧
      s = .ifThen test [raiseTypeError ("Variable " ++ v.text ++ " must be of type " ++ t.name)] := by
  obtain ⟨test, h₁, htest, hpure⟩ := EmitM.run'_bind_inv hs
  rw [EmitM.run'_pure] at hpure
  cases hpure
  exact ⟨test, _, htest, rfl⟩

/-- The guards of a map are one guard per variable, in the map's order, then one per function. -/
theorem typeGuards_inv {m : TypeMap} {h h' : Helpers} {gs : List Stmt}
    (hgs : (typeGuards m).run' h = (.ok gs, h')) :
    ∃ vgs, List.Forall₂ (fun e s => ∃ h₁ h₂, (typeGuard e.1 e.2.ty).run' h₁ = (.ok s, h₂))
        m.vars vgs ∧ gs = vgs ++ m.functionNames.map functionGuard := by
  obtain ⟨vgs, h₁, hvgs, hpure⟩ := EmitM.run'_bind_inv hgs
  rw [EmitM.run'_pure] at hpure
  cases hpure
  exact ⟨vgs, (EmitM.mapM_inv hvgs).imp fun _ _ hs => hs, rfl⟩

/-- A translation emitted as a function is named as asked, and its body starts with the guards of
the map. -/
theorem translation_function_inv {m : TypeMap} {name f : String} {root : Node} {h h' : Helpers}
    {body : List Stmt} (he : (translation m name root).run' h = (.ok (.function f body), h')) :
    f = name ∧ ∃ gs rest h₀ h₁, (typeGuards m).run' h₀ = (.ok gs, h₁) ∧ body = gs ++ rest := by
  -- both kinds of function run the guards first and put them in front of their body
  have hgeneral : (simple.general m name root).run' h = (.ok (.function f body), h') →
      f = name ∧ ∃ gs rest h₀ h₁, (typeGuards m).run' h₀ = (.ok gs, h₁) ∧ body = gs ++ rest := by
    intro hg
    obtain ⟨gs, h₁, hgs, htext⟩ := EmitM.run'_bind_inv hg
    obtain ⟨e, h₂, -, hpure⟩ := EmitM.run'_bind_inv htext
    rw [EmitM.run'_pure] at hpure
    cases hpure
    exact ⟨rfl, gs, _, h, h₁, hgs, rfl⟩
  unfold translation at he
  split at he
  · unfold simple at he
    split at he
    · rw [EmitM.run'_pure] at he
      cases he
    · split at he
      · rw [EmitM.run'_pure] at he
        cases he
      · exact hgeneral he
    · exact hgeneral he
  · unfold constrained at he
    dsimp only at he
    split at he
    · -- a rule set without rules is refused
      obtain ⟨_, _, hthrow, -⟩ := EmitM.run'_bind_inv he
      rw [EmitM.run'_throw] at hthrow
      cases hthrow
    · obtain ⟨gs, h₁, hgs, hrules⟩ := EmitM.run'_bind_inv he
      obtain ⟨⟨stmts, returned⟩, h₂, -, hpure⟩ := EmitM.run'_bind_inv hrules
      rw [EmitM.run'_pure] at hpure
      cases hpure
      exact ⟨rfl, gs, _, h, h₁, hgs, by rw [List.append_assoc]⟩
  · rw [EmitM.run'_throw] at he
    cases he

end Emit

end Lingo
