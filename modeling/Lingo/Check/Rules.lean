import Lingo.Error

/-!
# Unreachable rules

A rule whose constraints are all `!x` (or that has none) matches every parameter set, so no rule
after it can ever be chosen. `Node.liveRules t` counts the rules of a rule set and refuses one that
has such a catch-all rule before its last rule, naming the rule right after the first catch-all.
Value ranges are not compared. Anything but a rule set has no rules.
-/

namespace Lingo

namespace Node

/-- Whether a constraint list matches every parameter set: all its constraints are `!x`. -/
def isCatchAll (n : Node) : Bool := n.children.all (·.kind = .ignore)

/-- Whether the rule matches every parameter set. -/
def ruleCatchesAll (rule : Node) : Except Failure Bool :=
  if rule.kind ≠ .rule then throw (.missingPart rule.kind.name "constraints")
  else
    match rule.children with
    | c :: _ =>
        if c.kind = .constraintRoot then pure c.isCatchAll
        else throw (.missingPart c.kind.name "is_catch_all")
    | [] => throw (.missingPart rule.kind.name "constraints")

/-- Checks rules from index `i` on, where `caught` tells whether an earlier rule catches all. -/
def checkRules (total : Nat) : Nat → Bool → List Node → Except Failure Unit
  | _, _, [] => pure ()
  | i, caught, rule :: rest => do
    if caught then throw (.deadCode i total)
    checkRules total (i + 1) (← ruleCatchesAll rule) rest

/-- The number of rules of a rule set, refusing a rule that can never be reached. -/
def liveRules (t : Node) : Except Failure Nat :=
  if t.kind ≠ .ruleSet then pure 0
  else do
    checkRules t.children.length 0 false t.children
    pure t.children.length

end Node

end Lingo
