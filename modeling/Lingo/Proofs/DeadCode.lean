import Lingo.Check.Rules
import Lingo.Proofs.Grammar

/-!
# Unreachable rules

A rule whose constraints are all `!x`, or that has none, catches every parameter set, so no rule
after it can be chosen. On a rule set whose rules lead with constraint lists, well-formed ones
among them (`ruleCatchesAll_of_isRule`), `Node.liveRules` refuses exactly the rule sets in which
such a rule stands before the last rule, and it names the rule right after the first of them
(`liveRules_ruleSet`).
-/

namespace Lingo

namespace Node

/-- Whether a rule catches every parameter set: its constraint list holds only `!x`. -/
def catchesAll (rule : Node) : Bool :=
  match rule.children with
  | c :: _ => c.isCatchAll
  | [] => false

theorem ruleCatchesAll_of_isRule {r : Node} (hr : r.IsRule) :
    ruleCatchesAll r = .ok r.catchesAll := by
  cases hr
  rfl

/-- Checking rules that follow no catch-all fails at the rule right after the first catch-all
among all but the last of them. -/
theorem checkRules_fresh (total : Nat) {rs : List Node}
    (hrs : ∀ r ∈ rs, ruleCatchesAll r = .ok r.catchesAll) (i : Nat) :
    checkRules total i false rs =
      match rs.dropLast.findIdx? catchesAll with
      | some j => .error (.deadCode (i + j + 1) total)
      | none => .ok () := by
  induction rs generalizing i with
  | nil => rfl
  | cons r rest ih =>
    have hr : ruleCatchesAll r = .ok r.catchesAll := hrs r (.head _)
    have hstep : checkRules total i false (r :: rest) = checkRules total (i + 1) r.catchesAll rest := by
      simp only [checkRules, hr, Bool.false_eq_true, if_false]
      rfl
    rw [hstep]
    cases rest with
    | nil => rfl
    | cons r' rest' =>
      rw [List.dropLast_cons_cons, List.findIdx?_cons]
      cases hc : r.catchesAll with
      | true => rfl
      | false =>
        rw [ih (fun q hq => hrs q (.tail _ hq)) (i + 1)]
        cases (r' :: rest').dropLast.findIdx? catchesAll with
        | none => rfl
        | some j =>
          simp only [Bool.false_eq_true, if_false, Option.map_some]
          congr 3
          omega

/-- A rule set whose rules each lead with a constraint list (a well-formed one, or one the passes
made of it) is refused exactly when a rule before the last catches every parameter set, naming the
rule right after the first such rule; otherwise it has all its rules. -/
theorem liveRules_ruleSet {f : Fields} {rs : List Node}
    (hrs : ∀ r ∈ rs, ruleCatchesAll r = .ok r.catchesAll) :
    (Node.mk .ruleSet f rs).liveRules =
      match rs.dropLast.findIdx? catchesAll with
      | some j => .error (.deadCode (j + 1) rs.length)
      | none => .ok rs.length := by
  have hcheck := checkRules_fresh rs.length hrs 0
  simp only [liveRules, ne_eq, not_true_eq_false, if_false, Node.kind, Node.children]
  rw [hcheck]
  cases rs.dropLast.findIdx? catchesAll with
  | none => rfl
  | some j =>
    simp only [Nat.zero_add]
    rfl

end Node

end Lingo
