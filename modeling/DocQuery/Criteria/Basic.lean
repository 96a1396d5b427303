import DocQuery.Argument
import DocQuery.Criteria.Operator
import DocQuery.FieldPath
/-!
# Criteria

A criteria is a tree of comparisons under `and`, `or` and `not`. Chains nest to
the left and are written without parentheses, so that grouping is a mark of its
own on a node; negation is a mark as well where no opposite operator exists.
-/

namespace DocQuery

/-- An operand of a comparison: a value, or the next argument of the call to come. -/
inductive Operand where
  | value (v : Value)
  | deferred (conversion : Argument.Conversion)

/-- Folding letter case before a comparison. -/
inductive CaseFold where
  | lower
  | upper
deriving DecidableEq

/-- What a field is tested for. -/
inductive Test where
  | check (c : Check)
  | relation (r : Relation) (operand : Operand)
  | between (low high : Operand)

namespace Test

def operator : Test → Operator
  | .check c => .check c
  | .relation r _ => .relation r
  | .between _ _ => .between

def operands : Test → List Operand
  | .check _ => []
  | .relation _ operand => [operand]
  | .between low high => [low, high]

/-- The test that holds exactly when this one fails, if there is one. -/
def opposite? : Test → Option Test
  | .check c => some (.check c.opposite)
  | .relation r operand => r.opposite?.map (.relation · operand)
  | .between _ _ => none

end Test

/-- A test of a field. -/
structure Comparison where
  field : FieldPath
  fieldFold : Option CaseFold
  valueFold : Option CaseFold
  test : Test

/-- A condition on documents. -/
inductive Criteria where
  | comparison (c : Comparison) (negated grouped : Bool)
  | junction (j : Junction) (left right : Criteria) (negated grouped : Bool)
  | not (child : Criteria) (grouped : Bool)

namespace Criteria

/-! ### Parts -/

/-- The operator of the root. -/
def operator : Criteria → Operator
  | .comparison c _ _ => c.test.operator
  | .junction j _ _ _ _ => .junction j
  | .not _ _ => .not

def field? : Criteria → Option FieldPath
  | .comparison c _ _ => some c.field
  | _ => none

/-- Whether the root is marked as negated. -/
def isNegated : Criteria → Bool
  | .comparison _ negated _ => negated
  | .junction _ _ _ negated _ => negated
  | .not _ _ => false

/-- Whether the root is marked as grouped. -/
def isGrouped : Criteria → Bool
  | .comparison _ _ grouped => grouped
  | .junction _ _ _ _ grouped => grouped
  | .not _ grouped => grouped

/-- The operands of the comparison at the root. -/
def operands : Criteria → List Operand
  | .comparison c _ _ => c.test.operands
  | _ => []

/-- The criteria under the root. -/
def children : Criteria → List Criteria
  | .comparison _ _ _ => []
  | .junction _ left right _ _ => [left, right]
  | .not child _ => [child]

/-! ### Combining -/

def and (left right : Criteria) : Criteria := .junction .and left right false false

def or (left right : Criteria) : Criteria := .junction .or left right false false

/-- The criteria with parentheses around it where it is an operand. -/
def group : Criteria → Criteria
  | .comparison c negated _ => .comparison c negated true
  | .junction j left right negated _ => .junction j left right negated true
  | .not child _ => .not child true

/-- A chain with parentheses around it where it is an operand; anything else as it is. -/
def groupChain (c : Criteria) : Criteria := if c.operator.isChain then c.group else c

/-- The left criteria, and the right one in parentheses. -/
def andGroup (left right : Criteria) : Criteria := left.and right.group

/-- The left criteria, or the right one in parentheses. -/
def orGroup (left right : Criteria) : Criteria := left.or right.group

/-- A node that negates the criteria. -/
def negation (c : Criteria) : Criteria := .not c false

/-- The negated criteria. A mark of negation is taken back and a negating node is unwrapped; what
comes to light keeps together as it did. A test with an opposite turns into it. -/
def negate : Criteria → Criteria
  | .comparison c true grouped => .comparison c false grouped
  | .comparison c false grouped => match c.test.opposite? with
    | some test => .comparison { c with test } false grouped
    | none => .comparison c true grouped
  | .junction j left right true _ => .junction j left right false true
  | .junction j left right false grouped => .junction j left right true grouped
  | .not child _ => child.groupChain

end Criteria

/-! ### Building comparisons -/

/-- A field about to be tested. -/
structure Criterion where
  field : FieldPath
  fieldFold : Option CaseFold
  valueFold : Option CaseFold

/-- An operand offered for a comparison; criteria are offered in vain. -/
inductive Offer where
  | operand (o : Operand)
  | criteria (c : Criteria)

/-- The operands of an offer without criteria. -/
def Offer.operand? : Offer → Option Operand
  | .operand o => some o
  | .criteria _ => none

namespace Criterion

/-- A field to be tested as it is. -/
def on (field : FieldPath) : Criterion := ⟨field, none, none⟩

/-- The upper-case form of the field is compared. -/
def upper (c : Criterion) : Criterion := { c with fieldFold := some .upper }

/-- The lower-case form of the field is compared. -/
def lower (c : Criterion) : Criterion := { c with fieldFold := some .lower }

/-- The lower-case forms of the field and of the values are compared. -/
def ignoreCase (c : Criterion) : Criterion :=
  { c with fieldFold := some .lower, valueFold := some .lower }

/-- The criteria that the test holds of the field. Sets and patterns are never folded. -/
def test (c : Criterion) (t : Test) : Criteria :=
  let folds := match t with
    | .relation r _ => r.foldsValue
    | _ => true
  .comparison ⟨c.field, c.fieldFold, if folds then c.valueFold else none, t⟩ false false

/-- The check holds of the field. -/
def check (c : Criterion) (k : Check) : Criteria := c.test (.check k)

/-- The field is related to the value. -/
def relate (c : Criterion) (r : Relation) (v : Value) : Criteria := c.test (.relation r (.value v))

/-- The field lies between the values. -/
def between (c : Criterion) (low high : Value) : Criteria :=
  c.test (.between (.value low) (.value high))

/-- A comparison by any operator with the operands offered. It takes an operator that compares,
as many operands as that one needs, and no criteria among them. -/
def compare (c : Criterion) (operator : Operator) (offers : List Offer) : Except Fault Criteria :=
  if operator.takesCriteria then .error (.misuse (.notComparison operator.name))
  else if offers.length ≠ operator.arity then
    .error (.misuse (.operandCount operator.name operator.arity offers.length))
  else match operator, offers.mapM Offer.operand? with
    | .check k, some [] => .ok (c.test (.check k))
    | .relation r, some [operand] => .ok (c.test (.relation r operand))
    | .between, some [low, high] => .ok (c.test (.between low high))
    | _, _ => .error (.misuse (.nestedCriteria operator.name))

/-! The ways to build one comparison are `compare` with the operands that it needs. -/

theorem compare_check (c : Criterion) (k : Check) : c.compare (.check k) [] = .ok (c.check k) := rfl

theorem compare_relation (c : Criterion) (r : Relation) (v : Value) :
    c.compare (.relation r) [.operand (.value v)] = .ok (c.relate r v) := rfl

theorem compare_between (c : Criterion) (low high : Value) :
    c.compare .between [.operand (.value low), .operand (.value high)] = .ok (c.between low high) :=
  rfl

end Criterion

end DocQuery
