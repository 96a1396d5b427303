import DocQuery.Criteria.Node
import DocQuery.Criteria.Text
/-!
# The text of records

A record is written from left to right: the operands of a comparison become texts one after the
other, and then its operator puts them together. Whatever is wrong with a record comes to light on
the way, and what has been written for the operands before stays with the writer.
-/

namespace DocQuery

/-- Why nothing is written: a fault, or a text of an operand that is asked for and not there. -/
inductive Failure where
  | fault (f : Fault)
  | noOperand (index : Nat)

/-- A step that writes values. -/
abbrev Writing (σ : Type) := ExceptT Failure (StateM σ)

namespace Writing

variable {σ α : Type}

def fail (f : Fault) : Writing σ α := throw (.fault f)

/-- The text that the writer has for a value. -/
def value (w : Writer σ) (hint : String) (v : Value) : Writing σ Fragment := fun s =>
  (.ok (.raw (w s hint v).1), (w s hint v).2)

/-- The text of the operand at a position. -/
def operandAt (texts : List Fragment) (index : Nat) : Writing σ Fragment :=
  match texts[index]? with
  | some a => pure a
  | none => throw (.noOperand index)

end Writing

/-- A criteria that is an operand: what writes it, and whether it has parentheses there. -/
structure Child (σ : Type) where
  text : Writing σ Fragment
  parenthesized : Bool

/-- The text of a criteria where it is an operand of a chain. -/
def Child.operandText {σ : Type} (c : Child σ) : Writing σ Fragment := do
  let a ← c.text
  return if c.parenthesized then a.paren else a

variable {σ : Type}

/-- The text of an operand of a comparison, folded. -/
def Entry.text (w : Writer σ) (hint : String) (n : Node) : Entry → Writing σ Fragment
  | .operand (.value v) => return foldFragment n.valueFold (← Writing.value w hint v)
  | .operand (.deferred _) => Writing.fail .deferredOperand
  | .criteria _ => Writing.fail (.misuse (.nestedCriteria n.operator.name))

namespace Node

/-- The text of a connective. It gets no criteria if one of its operands is none. -/
def combination (operator : Operator) : Option (List (Child σ)) → Writing σ Fragment
  | none => Writing.fail (.misuse (.notCriteria operator.name))
  | some children => match operator, children with
    | .not, [child] => return (← child.text).not
    | .junction j, first :: second :: rest => do
      let left ← first.operandText
      (second :: rest).foldlM (fun left child => return j.fragment left (← child.operandText)) left
    | operator, children =>
      Writing.fail (.misuse (.criteriaCount operator.name children.length))

/-- The text of a node without its mark of negation, given the criteria among its operands. -/
def body (w : Writer σ) (n : Node) (children : Option (List (Child σ))) :
    Writing σ Fragment :=
  if n.operator.takesCriteria then combination n.operator children
  else match n.field with
    | none => Writing.fail (.misuse (.noField n.operator.name))
    | some field => do
      let left := foldFragment n.fieldFold (.raw field.text)
      let texts ← n.operands.mapM (Entry.text w field.parameterName n)
      if texts.length ≠ n.operator.arity then
        Writing.fail (.misuse (.operandCount n.operator.name n.operator.arity texts.length))
      else match n.operator with
        | .check k => return k.fragment left
        | .relation r => return r.fragment left (← Writing.operandAt texts 0)
        | .between =>
          return left.between (← Writing.operandAt texts 0) (← Writing.operandAt texts 1)
        | operator => combination operator children

end Node

mutual

/-- The text of a node. -/
def Node.render (w : Writer σ) : Node → Writing σ Fragment
  | ⟨field, operator, operands, negated, fieldFold, valueFold, grouped⟩ => do
    let a ← Node.body w ⟨field, operator, operands, negated, fieldFold, valueFold, grouped⟩
      (Entry.children? w operands)
    return Criteria.markNegated negated a

/-- The criteria of a row of operands, if all of them are criteria. A group has parentheses, which a
negation brings already. -/
def Entry.children? (w : Writer σ) : List Entry → Option (List (Child σ))
  | [] => some []
  | .operand _ :: _ => none
  | .criteria n :: entries =>
    (Entry.children? w entries).map (⟨n.render w, n.grouped && !n.negated⟩ :: ·)

end

namespace Node

/-- The text with every value as a literal. -/
def inline (n : Node) : Except Failure String :=
  ((Fragment.plain <$> n.render Writer.literals).run.run ()).1

/-- The text with a placeholder for every value, and the placeholders issued on the way. -/
def bound (n : Node) (p : Placeholders) : Except Failure String × Placeholders :=
  (Fragment.plain <$> n.render Placeholders.push).run.run p

end Node

end DocQuery
