import DocQuery.Criteria.Basic
import DocQuery.Placeholders
/-!
# The text of criteria

A criteria becomes a fragment with its values open. The same fragment is
written with literals or with placeholders.
-/

namespace DocQuery

/-- The folded form of a fragment. -/
def CaseFold.fragment (a : Fragment) : CaseFold → Fragment
  | .lower => a.foldLower
  | .upper => a.foldUpper

/-- The fragment in the form that the comparison asks for. -/
def foldFragment (fold : Option CaseFold) (a : Fragment) : Fragment :=
  match fold with
  | none => a
  | some fold => fold.fragment a

namespace Comparison

/-- The field, folded. -/
def subject (c : Comparison) : Fragment := foldFragment c.fieldFold (.raw c.field.text)

/-- An operand, folded. A placeholder for it is named after the field. -/
def operandFragment (c : Comparison) (operand : Operand) : Fragment :=
  foldFragment c.valueFold <| match operand with
    | .value v => [.value c.field.parameterName v]
    | .deferred _ => [.deferred]

/-- The comparison without its marks. -/
def fragment (c : Comparison) : Fragment :=
  match c.test with
  | .check k => k.fragment c.subject
  | .relation r operand => r.fragment c.subject (c.operandFragment operand)
  | .between low high => c.subject.between (c.operandFragment low) (c.operandFragment high)

end Comparison

namespace Criteria

/-- A fragment under a mark of negation. -/
def markNegated (negated : Bool) (a : Fragment) : Fragment := if negated then a.not else a

/-- The fragment of a criteria where it is an operand of a chain: a group has parentheses, which a
negation brings already. -/
def asOperand (c : Criteria) (a : Fragment) : Fragment :=
  if c.isGrouped && !c.isNegated then a.paren else a

/-- The criteria with its values open. -/
def fragment : Criteria → Fragment
  | .comparison c negated _ => markNegated negated c.fragment
  | .junction j left right negated _ =>
    markNegated negated (j.fragment (left.asOperand left.fragment) (right.asOperand right.fragment))
  | .not child _ => child.fragment.not

/-- The number of operands that still wait for an argument. -/
def deferredCount : Criteria → Nat
  | .comparison c _ _ => (c.test.operands.filter fun
      | .deferred _ => true
      | .value _ => false).length
  | .junction _ left right _ _ => left.deferredCount + right.deferredCount
  | .not child _ => child.deferredCount

def inline (c : Criteria) : Except Fault String := c.fragment.inline

/-- The text with placeholders, and the placeholders issued on the way. -/
def bound (c : Criteria) (p : Placeholders) : Except Fault String × Placeholders :=
  c.fragment.bound p

end Criteria

end DocQuery
