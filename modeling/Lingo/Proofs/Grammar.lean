import Lingo.Tree.Node

/-!
# Well-formed translations

A translation as callers build it: a text, or a non-empty rule set whose rules pair a constraint
list with a text. Names are strings, a number literal or number value holds a truth value, an
integer or a double, and string literals, literal text and enumeration values hold strings.
Comparisons use the operators their kind accepts and compare against a value of the right kind.
Types and constancy marks are not looked at: the passes set them.
-/

namespace Lingo

/-- The binary operators are the four arithmetic ones. -/
theorem Kind.isBinary_cases {k : Kind} (hk : k.isBinary) :
    k = .add ∨ k = .sub ∨ k = .mul ∨ k = .div := by
  cases k <;> simp [Kind.isBinary] at hk ⊢

namespace Node

/-- An expression inside an interpolation. -/
inductive IsExpr : Node → Prop
  | number {f : Fields} {s : Scalar} (hv : f.value = .scalar s) (hs : s.isNumber) :
      IsExpr (.mk .number f [])
  | stringLit {f : Fields} {s : String} (hv : f.value = .str s) : IsExpr (.mk .stringLit f [])
  | var {f : Fields} {x : String} (hx : f.name = .str x) : IsExpr (.mk .var f [])
  | neg {f : Fields} {e : Node} (he : IsExpr e) : IsExpr (.mk .neg f [e])
  | binary {k : Kind} {f : Fields} {l r : Node} (hk : k.isBinary) (hl : IsExpr l)
      (hr : IsExpr r) : IsExpr (.mk k f [l, r])
  | call {f : Fields} {x : String} {args : List Node} (hx : f.name = .str x)
      (hargs : ∀ a ∈ args, IsExpr a) : IsExpr (.mk .call f args)

/-- A fragment of a text: literal text, a bare variable, or an interpolated expression. -/
inductive IsText : Node → Prop
  | literal {f : Fields} {s : String} (hv : f.value = .str s) : IsText (.mk .literal f [])
  | textVar {f : Fields} {x : String} (hx : f.name = .str x) : IsText (.mk .textVar f [])
  | textExpr {f : Fields} {e : Node} (he : IsExpr e) : IsText (.mk .textExpr f [e])

/-- The variable a constraint tests. -/
def IsIdent (n : Node) : Prop := ∃ f x, n = .mk .ident f [] ∧ f.name = .str x

/-- A value an equality compares against. -/
inductive IsValue : Node → Prop
  | number {f : Fields} {s : Scalar} (hv : f.value = .scalar s) (hs : s.isNumber) :
      IsValue (.mk .numberValue f [])
  | enum {f : Fields} {s : String} (hv : f.value = .str s) : IsValue (.mk .enumValue f [])
  | gender {f : Fields} {s : String} (hv : f.value = .str s) (hs : s ∈ ["F", "M", "N"]) :
      IsValue (.mk .genderValue f [])

/-- A constraint of a rule: `!x`, an equality against a value, or an inequality against a
number value. -/
inductive IsConstraint : Node → Prop
  | ignore {f : Fields} {x : Node} (hx : IsIdent x) : IsConstraint (.mk .ignore f [x])
  | equality {f : Fields} {x v : Node} {op : String} (hop : f.op = some op)
      (hops : op ∈ ["=", "!="]) (hx : IsIdent x) (hv : IsValue v) :
      IsConstraint (.mk .equality f [x, v])
  | inequality {f : Fields} {x v : Node} {op : String} {vf : Fields} {s : Scalar}
      (hop : f.op = some op) (hops : op ∈ ["<", "<=", ">", ">="]) (hx : IsIdent x)
      (hv : v = .mk .numberValue vf []) (hvv : vf.value = .scalar s) (hs : s.isNumber) :
      IsConstraint (.mk .inequality f [x, v])

/-- A rule: a constraint list and the text it selects. -/
inductive IsRule : Node → Prop
  | mk {f cf tf : Fields} {cs ts : List Node} (hcs : ∀ c ∈ cs, IsConstraint c)
      (hts : ∀ t ∈ ts, IsText t) :
      IsRule (.mk .rule f [.mk .constraintRoot cf cs, .mk .textRoot tf ts])

/-- A translation: a text, or a non-empty rule set. -/
inductive IsTranslation : Node → Prop
  | text {f : Fields} {ts : List Node} (hts : ∀ t ∈ ts, IsText t) :
      IsTranslation (.mk .textRoot f ts)
  | rules {f : Fields} {rs : List Node} (hne : rs ≠ []) (hrs : ∀ r ∈ rs, IsRule r) :
      IsTranslation (.mk .ruleSet f rs)

end Node

end Lingo
