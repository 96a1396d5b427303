import DocQuery.Fragment
/-!
# Operators of criteria

Operators differ in what they stand between: a check looks at a field alone, a
relation compares it with one value, `between` with two, and the connectives
join criteria.
-/

namespace DocQuery

/-- A check of a field alone. -/
inductive Check where
  | isNull
  | isNotNull
  | isMissing
  | isNotMissing
  | isValued
  | isNotValued
  | isTrue
  | isFalse
deriving DecidableEq

namespace Check

/-- The check that holds exactly when this one fails. -/
def opposite : Check → Check
  | .isNull => .isNotNull
  | .isNotNull => .isNull
  | .isMissing => .isNotMissing
  | .isNotMissing => .isMissing
  | .isValued => .isNotValued
  | .isNotValued => .isValued
  | .isTrue => .isFalse
  | .isFalse => .isTrue

def name : Check → String
  | .isNull => "IS_NULL"
  | .isNotNull => "IS_NOT_NULL"
  | .isMissing => "IS_MISSING"
  | .isNotMissing => "IS_NOT_MISSING"
  | .isValued => "IS_VALUED"
  | .isNotValued => "IS_NOT_VALUED"
  | .isTrue => "TRUE"
  | .isFalse => "FALSE"

def fragment (field : Fragment) : Check → Fragment
  | .isNull => field.isNull
  | .isNotNull => field.isNotNull
  | .isMissing => field.isMissing
  | .isNotMissing => field.isNotMissing
  | .isValued => field.isValued
  | .isNotValued => field.isNotValued
  | .isTrue => field.eq (.boolean true)
  | .isFalse => field.eq (.boolean false)

end Check

/-- A comparison of a field with one value. -/
inductive Relation where
  | eq
  | ne
  | lt
  | lte
  | gt
  | gte
  | like
  | notLike
  | startsWith
  | endsWith
  | contains
  | notContains
  | isIn
  | isNotIn
  | regex
deriving DecidableEq

namespace Relation

/-- The relation that holds exactly when this one fails, if there is one. -/
def opposite? : Relation → Option Relation
  | .eq => some .ne
  | .ne => some .eq
  | .lt => some .gte
  | .gte => some .lt
  | .lte => some .gt
  | .gt => some .lte
  | .like => some .notLike
  | .notLike => some .like
  | .contains => some .notContains
  | .notContains => some .contains
  | .isIn => some .isNotIn
  | .isNotIn => some .isIn
  | .startsWith => none
  | .endsWith => none
  | .regex => none

def name : Relation → String
  | .eq => "EQ"
  | .ne => "NE"
  | .lt => "LT"
  | .lte => "LTE"
  | .gt => "GT"
  | .gte => "GTE"
  | .like => "LIKE"
  | .notLike => "NOT_LIKE"
  | .startsWith => "STARTS_WITH"
  | .endsWith => "ENDS_WITH"
  | .contains => "CONTAINS"
  | .notContains => "NOT_CONTAINS"
  | .isIn => "IN"
  | .isNotIn => "NOT_IN"
  | .regex => "REGEX"

/-- Whether the letter case of the value can be folded: sets and patterns are taken as they are. -/
def foldsValue : Relation → Bool
  | .isIn => false
  | .isNotIn => false
  | .regex => false
  | _ => true

/-- The condition on a field and a value. -/
def fragment (field value : Fragment) : Relation → Fragment
  | .eq => field.eq value
  | .ne => field.ne value
  | .lt => field.lt value
  | .lte => field.lte value
  | .gt => field.gt value
  | .gte => field.gte value
  | .like => field.like value
  | .notLike => field.notLike value
  | .startsWith => field.like (value.concat (.string "%")).paren
  | .endsWith => field.like (Fragment.concat (.string "%") value).paren
  | .contains => field.contains value
  | .notContains => (field.contains value).not
  | .isIn => field.isIn value
  | .isNotIn => field.isNotIn value
  | .regex => field.regexpLike value

end Relation

/-- A connective of two criteria. -/
inductive Junction where
  | and
  | or
deriving DecidableEq

namespace Junction

def name : Junction → String
  | .and => "AND"
  | .or => "OR"

def fragment (left right : Fragment) : Junction → Fragment
  | .and => left.and right
  | .or => left.or right

end Junction

/-- An operator of a criteria node. -/
inductive Operator where
  | check (c : Check)
  | relation (r : Relation)
  | between
  | junction (j : Junction)
  | not
deriving DecidableEq

namespace Operator

/-- The number of operands: criteria for the connectives, values for all others. -/
def arity : Operator → Nat
  | .check _ => 0
  | .relation _ => 1
  | .between => 2
  | .junction _ => 2
  | .not => 1

/-- Whether the operator chains criteria. -/
def isChain : Operator → Bool
  | .junction _ => true
  | _ => false

/-- Whether the operands are criteria. -/
def takesCriteria : Operator → Bool
  | .junction _ => true
  | .not => true
  | _ => false

/-- Whether the letter case of values can be folded. -/
def foldsValues : Operator → Bool
  | .relation r => r.foldsValue
  | _ => true

/-- The operator that holds exactly when this one fails, if there is one. -/
def opposite? : Operator → Option Operator
  | .check c => some (.check c.opposite)
  | .relation r => r.opposite?.map .relation
  | .between => none
  | .junction _ => none
  | .not => none

def name : Operator → String
  | .check c => c.name
  | .relation r => r.name
  | .between => "BETWEEN"
  | .junction j => j.name
  | .not => "NOT"

def all : List Operator :=
  [Check.isNull, .isNotNull, .isMissing, .isNotMissing, .isValued, .isNotValued, .isTrue,
    .isFalse].map .check ++
  [Relation.eq, .ne, .lt, .lte, .gt, .gte, .like, .notLike, .startsWith, .endsWith, .contains,
    .notContains, .isIn, .isNotIn, .regex].map .relation ++
  [.between, .junction .and, .junction .or, .not]

def ofName? (name : String) : Option Operator := all.find? (·.name == name)

end Operator

end DocQuery
