import DocQuery.Criteria.Resolve
/-!
# Criteria as records

A criteria is kept as a tree of records that all have one form. A comparison has a field, and its
operands are values; a connective has none, and its operands are criteria. The form itself keeps no
record from having the wrong operands or too few of them: that is up to the ways to build one.
-/

namespace DocQuery

mutual

/-- A node of a criteria. -/
structure Node where
  field : Option FieldPath
  operator : Operator
  operands : List Entry
  negated : Bool
  fieldFold : Option CaseFold
  valueFold : Option CaseFold
  grouped : Bool

/-- An operand of a node: one of a comparison, or criteria. -/
inductive Entry where
  | operand (o : Operand)
  | criteria (n : Node)

end

def Entry.isCriteria : Entry → Bool
  | .operand _ => false
  | .criteria _ => true

namespace Node

/-! ### Combining -/

/-- A node without a field. -/
def connective (operator : Operator) (operands : List Entry) : Node :=
  ⟨none, operator, operands, false, none, none, false⟩

/-- Both criteria, the right one without parentheses of its own. -/
def andWith (left right : Node) : Node :=
  connective (.junction .and) [.criteria left, .criteria right]

/-- One of the criteria, the right one without parentheses of its own. -/
def orWith (left right : Node) : Node :=
  connective (.junction .or) [.criteria left, .criteria right]

/-- The criteria with parentheses around it where it is an operand. -/
def group (n : Node) : Node := { n with grouped := true }

/-- The left criteria, and the right one in parentheses. -/
def andGroup (left right : Node) : Node := left.andWith right.group

/-- The left criteria, or the right one in parentheses. -/
def orGroup (left right : Node) : Node := left.orWith right.group

/-- A node that negates the criteria. -/
def not (n : Node) : Node := connective .not [.criteria n]

/-- The criteria with parentheses around it if it is a chain. -/
def groupChain (n : Node) : Node := { n with grouped := n.grouped || n.operator.isChain }

/-- The negated criteria. A mark of negation is taken back, and a negating node gives its operand
away; else the operator turns into its opposite, or the node is marked. -/
def negate (n : Node) : Node :=
  if n.negated then { n.groupChain with negated := false }
  else match n.operator, n.operands with
    | .not, [.criteria child] => child.groupChain
    | .not, [.operand _] => { n with operands := [], negated := true }
    | operator, _ => match operator.opposite? with
      | some opposite => { n with operator := opposite }
      | none => { n with negated := true }

end Node

/-! ### Building comparisons -/

/-- A field about to be tested, behind the criteria that it goes on with. -/
structure Builder where
  field : FieldPath
  fieldFold : Option CaseFold
  valueFold : Option CaseFold
  chain : Option (Operator × Node)

namespace Builder

/-- A field to be tested as it is, behind nothing. -/
def on (field : FieldPath) : Builder := ⟨field, none, none, none⟩

/-- The upper-case form of the field is compared. -/
def upper (b : Builder) : Builder := { b with fieldFold := some .upper }

/-- The lower-case form of the field is compared. -/
def lower (b : Builder) : Builder := { b with fieldFold := some .lower }

/-- The lower-case forms of the field and of the values are compared. -/
def ignoreCase (b : Builder) : Builder :=
  { b with fieldFold := some .lower, valueFold := some .lower }

/-- The comparison, behind the criteria that came before. Sets and patterns are never folded. -/
def finish (b : Builder) (operator : Operator) (operands : List Entry) : Node :=
  let valueFold := if operator.foldsValues then b.valueFold else none
  let leaf : Node := ⟨some b.field, operator, operands, false, b.fieldFold, valueFold, false⟩
  match b.chain with
  | some (connective, left) => .connective connective [.criteria left, .criteria leaf]
  | none => leaf

/-- The check holds of the field. -/
def check (b : Builder) (k : Check) : Node := b.finish (.check k) []

/-- The field is related to the value. -/
def relate (b : Builder) (r : Relation) (v : Value) : Node :=
  b.finish (.relation r) [.operand (.value v)]

/-- The field lies between the values. -/
def between (b : Builder) (low high : Value) : Node :=
  b.finish .between [.operand (.value low), .operand (.value high)]

/-- A comparison by any operator over any operands. It takes an operator that compares, as many
operands as that one needs, and no criteria among them. -/
def compare (b : Builder) (operator : Operator) (operands : List Entry) : Except Fault Node :=
  if operator.takesCriteria then .error (.misuse (.notComparison operator.name))
  else if operands.length ≠ operator.arity then
    .error (.misuse (.operandCount operator.name operator.arity operands.length))
  else if operands.any Entry.isCriteria then .error (.misuse (.nestedCriteria operator.name))
  else .ok (b.finish operator operands)

end Builder

/-- Goes on with a field that has to be met as well. -/
def Node.andField (n : Node) (field : FieldPath) : Builder :=
  { Builder.on field with chain := some (.junction .and, n) }

/-- Goes on with a field that may be met instead. -/
def Node.orField (n : Node) (field : FieldPath) : Builder :=
  { Builder.on field with chain := some (.junction .or, n) }

/-! ### Deferred operands -/

/-- The number of arguments that an operand waits for. -/
def Operand.deferredCount : Operand → Nat
  | .value _ => 0
  | .deferred _ => 1

mutual

/-- The number of operands that still wait for an argument. -/
def Node.deferredCount : Node → Nat
  | ⟨_, _, operands, _, _, _, _⟩ => Entry.deferredCount operands

/-- The number of operands that still wait, in a row of operands. -/
def Entry.deferredCount : List Entry → Nat
  | [] => 0
  | .operand o :: entries => o.deferredCount + Entry.deferredCount entries
  | .criteria n :: entries => n.deferredCount + Entry.deferredCount entries

end

mutual

/-- The criteria with the values of its operands, in the order in which they are written. -/
def Node.resolve : Node → Taking Node
  | ⟨field, operator, operands, negated, fieldFold, valueFold, grouped⟩ =>
    return ⟨field, operator, ← Entry.resolve operands, negated, fieldFold, valueFold, grouped⟩

/-- The operands with their values. -/
def Entry.resolve : List Entry → Taking (List Entry)
  | [] => return []
  | .operand o :: entries => return .operand (← o.resolve) :: (← Entry.resolve entries)
  | .criteria n :: entries => return .criteria (← n.resolve) :: (← Entry.resolve entries)

end

end DocQuery
