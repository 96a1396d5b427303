import DocQuery.Criteria.Basic
import DocQuery.Entity
import DocQuery.Predicate.Basic
/-!
# The criteria of a predicate

A predicate makes sense if its operations have the operands they need and its
paths resolve. It then becomes criteria in one walk. Junctions are chained, with
parentheses where the connective changes; negation is pushed to what it negates.
-/

namespace DocQuery.Predicate

/-- The fault of an operation that has no criteria over its operands. -/
def unsupported (op : Op) (args : List Predicate) : Fault := .unsupported op.name (shapes args)

/-! ### Leaves -/

/-- A comparison of a field and a constant, in whichever order they were written. -/
structure Sides where
  field : FieldPath
  constant : Argument
  /-- The constant stands on the left. -/
  swapped : Bool

/-- The sides of a comparison: a path and a constant. -/
def sides (entity : Entity) (op : Op) : List Predicate → Except Fault Sides
  | [.path logical, .constant value] => return ⟨← entity.resolve logical, value, false⟩
  | [.constant value, .path logical] => return ⟨← entity.resolve logical, value, true⟩
  | args => .error (unsupported op args)

/-- The field of an operation on a lone path. -/
def onlyField (entity : Entity) (op : Op) : List Predicate → Except Fault Criterion
  | [.path logical] => return .on (← entity.resolve logical)
  | args => .error (unsupported op args)

/-- A comparison. With the constant on the left the converse relation holds. -/
def comparison (entity : Entity) (op : Op) (relation converse : Relation) (args : List Predicate) :
    Except Fault Criteria := do
  let s ← sides entity op args
  return (Criterion.on s.field).relate (if s.swapped then converse else relation) s.constant.toValue

/-- A match of a string. The constant stands on the right. -/
def stringMatch (entity : Entity) (op : Op) (relation : Relation) (args : List Predicate) :
    Except Fault Criteria := do
  let s ← sides entity op args
  if s.swapped then throw (unsupported op args)
  return (Criterion.on s.field).relate relation s.constant.toValue

/-- A match of a string in any letter case: the upper-case forms match. -/
def foldedMatch (entity : Entity) (op : Op) (relation : Relation) (args : List Predicate) :
    Except Fault Criteria := do
  let s ← sides entity op args
  if s.swapped then throw (unsupported op args)
  return (Criterion.on s.field).upper.relate relation (← s.constant.toPattern).upper

/-- Membership of a set. A constant that is no set is compared by itself. -/
def membership (entity : Entity) (op : Op) (relation scalar : Relation) (args : List Predicate) :
    Except Fault Criteria := do
  let s ← sides entity op args
  let c := Criterion.on s.field
  match s.constant with
  | .collection items => return c.relate relation (.array (Argument.toValues items))
  | .value (.array items) => return c.relate relation (.array items)
  | scalarValue => return c.relate scalar scalarValue.toValue

/-- A path between two constants. -/
def between (entity : Entity) : List Predicate → Except Fault Criteria
  | [.path logical, .constant low, .constant high] =>
    return (Criterion.on (← entity.resolve logical)).between low.toValue high.toValue
  | args => .error (unsupported .between args)

/-- The criteria of an operation other than `and`, `or` and `not`. -/
def leaf (entity : Entity) (op : Op) (args : List Predicate) : Except Fault Criteria :=
  match op with
  | .eq => comparison entity op .eq .eq args
  | .ne => comparison entity op .ne .ne args
  | .lt => comparison entity op .lt .gt args
  | .lte => comparison entity op .lte .gte args
  | .gt => comparison entity op .gt .lt args
  | .gte => comparison entity op .gte .lte args
  | .like => stringMatch entity op .like args
  | .startsWith => stringMatch entity op .startsWith args
  | .endsWith => stringMatch entity op .endsWith args
  | .contains => stringMatch entity op .contains args
  | .regex => stringMatch entity op .regex args
  | .likeIgnoreCase => foldedMatch entity op .like args
  | .startsWithIgnoreCase => foldedMatch entity op .startsWith args
  | .endsWithIgnoreCase => foldedMatch entity op .endsWith args
  | .containsIgnoreCase => foldedMatch entity op .contains args
  | .eqIgnoreCase => foldedMatch entity op .eq args
  | .between => between entity args
  | .isIn => membership entity op .isIn .eq args
  | .isNotIn => membership entity op .isNotIn .ne args
  | .isNull => return (← onlyField entity op args).check .isNull
  | .isNotNull => return (← onlyField entity op args).check .isNotNull
  | .isEmptyCollection => return (← onlyField entity op args).check .isNotValued
  | .isEmptyString => do
    let c ← onlyField entity op args
    return ((c.check .isNotValued).or (c.relate .eq (.string ""))).group
  | .regexIgnoreCase | .stringLength | .collectionSize | .containsKey | .and | .or | .not =>
    .error (unsupported op args)

/-! ### Connectives -/

/-- The operands of a junction as one chain: a chain of the other junction is grouped. -/
def chain (j : Junction) (first : Criteria) (rest : List Criteria) : Criteria :=
  let operand (c : Criteria) : Criteria :=
    if c.operator.isChain ∧ c.operator ≠ .junction j then c.group else c
  rest.foldl (fun left right => .junction j left (operand right) false false) (operand first)

/-- The junction of an operation, if it is one. -/
def Op.junction? : Op → Option Junction
  | .and => some .and
  | .or => some .or
  | _ => none

mutual

/-- The criteria of a predicate on the entity. -/
def toCriteria (entity : Entity) : Predicate → Except Fault Criteria
  | .path _ => .error (.unsupported "BOOLEAN" "(Path)")
  | .constant _ => .error (.unsupported "BOOLEAN" "(Constant)")
  | .operation op args =>
    match op.junction? with
    | some j =>
      match args with
      | first :: second :: rest => do
        let first ← toCriteria entity first
        let second ← toCriteria entity second
        return chain j first (second :: (← toCriteriaList entity rest))
      | args => .error (.misuse (.junctionSize op.name args.length))
    | none =>
      if op = .not then
        match args with
        | [.operation .isIn inner] => leaf entity .isNotIn inner
        | [child] => return (← toCriteria entity child).negate
        | args => .error (unsupported .not args)
      else leaf entity op args

/-- The criteria of several predicates; the first fault counts. -/
def toCriteriaList (entity : Entity) : List Predicate → Except Fault (List Criteria)
  | [] => return []
  | p :: ps => return (← toCriteria entity p) :: (← toCriteriaList entity ps)

end

end DocQuery.Predicate
