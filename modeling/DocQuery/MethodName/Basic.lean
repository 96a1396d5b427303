import DocQuery.Query.Shape
/-!
# Method names

What the name of a repository method says: `findTop3ByLastnameAndAgeBetween`
asks for three documents whose properties meet two conditions. A condition is
a property and a kind, which a keyword at its end names.
-/

namespace DocQuery

namespace Condition

/-- The kind of a condition. -/
inductive Kind where
  | is
  | isNot
  | lessThan
  | lessThanEqual
  | greaterThan
  | greaterThanEqual
  | before
  | after
  | between
  | isNull
  | isNotNull
  | like
  | notLike
  | startingWith
  | endingWith
  | containing
  | notContaining
  | isIn
  | isNotIn
  | isTrue
  | isFalse
  | regex
  | exists
  | near
  | within
  | isEmpty
  | isNotEmpty
deriving DecidableEq

namespace Kind

/-- All kinds, in the order in which their keywords are looked for: of two keywords that a text
can end with, the longer one comes first. -/
def all : List Kind :=
  [.isNotNull, .isNull, .between, .lessThan, .lessThanEqual, .greaterThan, .greaterThanEqual,
    .before, .after, .notLike, .like, .startingWith, .endingWith, .isNotEmpty, .isEmpty,
    .notContaining, .containing, .isNotIn, .isIn, .near, .within, .regex, .exists, .isTrue,
    .isFalse, .isNot, .is]

/-- The keywords that name a kind. -/
def keywords : Kind → List String
  | .is => ["Is", "Equals"]
  | .isNot => ["IsNot", "Not"]
  | .lessThan => ["IsLessThan", "LessThan"]
  | .lessThanEqual => ["IsLessThanEqual", "LessThanEqual"]
  | .greaterThan => ["IsGreaterThan", "GreaterThan"]
  | .greaterThanEqual => ["IsGreaterThanEqual", "GreaterThanEqual"]
  | .before => ["IsBefore", "Before"]
  | .after => ["IsAfter", "After"]
  | .between => ["IsBetween", "Between"]
  | .isNull => ["IsNull", "Null"]
  | .isNotNull => ["IsNotNull", "NotNull"]
  | .like => ["IsLike", "Like"]
  | .notLike => ["IsNotLike", "NotLike"]
  | .startingWith => ["IsStartingWith", "StartingWith", "StartsWith"]
  | .endingWith => ["IsEndingWith", "EndingWith", "EndsWith"]
  | .containing => ["IsContaining", "Containing", "Contains"]
  | .notContaining => ["IsNotContaining", "NotContaining", "NotContains"]
  | .isIn => ["IsIn", "In"]
  | .isNotIn => ["IsNotIn", "NotIn"]
  | .isTrue => ["IsTrue", "True"]
  | .isFalse => ["IsFalse", "False"]
  | .regex => ["MatchesRegex", "Matches", "Regex"]
  | .exists => ["Exists"]
  | .near => ["IsNear", "Near"]
  | .within => ["IsWithin", "Within"]
  | .isEmpty => ["IsEmpty", "Empty"]
  | .isNotEmpty => ["IsNotEmpty", "NotEmpty"]

/-- The number of arguments that a condition takes. -/
def argumentCount : Kind → Nat
  | .between => 2
  | .isNull | .isNotNull | .isTrue | .isFalse | .exists | .isEmpty | .isNotEmpty => 0
  | _ => 1

def name : Kind → String
  | .is => "SIMPLE_PROPERTY"
  | .isNot => "NEGATING_SIMPLE_PROPERTY"
  | .lessThan => "LESS_THAN"
  | .lessThanEqual => "LESS_THAN_EQUAL"
  | .greaterThan => "GREATER_THAN"
  | .greaterThanEqual => "GREATER_THAN_EQUAL"
  | .before => "BEFORE"
  | .after => "AFTER"
  | .between => "BETWEEN"
  | .isNull => "IS_NULL"
  | .isNotNull => "IS_NOT_NULL"
  | .like => "LIKE"
  | .notLike => "NOT_LIKE"
  | .startingWith => "STARTING_WITH"
  | .endingWith => "ENDING_WITH"
  | .containing => "CONTAINING"
  | .notContaining => "NOT_CONTAINING"
  | .isIn => "IN"
  | .isNotIn => "NOT_IN"
  | .isTrue => "TRUE"
  | .isFalse => "FALSE"
  | .regex => "REGEX"
  | .exists => "EXISTS"
  | .near => "NEAR"
  | .within => "WITHIN"
  | .isEmpty => "IS_EMPTY"
  | .isNotEmpty => "IS_NOT_EMPTY"

def ofName? (name : String) : Option Kind := all.find? (·.name == name)

end Kind

/-- Whether a condition ignores letter case. -/
inductive LetterCase where
  | exact
  /-- Letter case is ignored where the property is text. -/
  | ignoredWherePossible
  /-- Letter case is ignored, and a property that is no text is refused. -/
  | ignored
deriving DecidableEq

end Condition

/-- A condition on one property, which is given by its logical path. -/
structure Condition where
  kind : Condition.Kind
  property : String
  letterCase : Condition.LetterCase
deriving DecidableEq

/-- What a method name says. -/
structure MethodName where
  projection : Projection
  distinct : Bool
  limit : Option UInt64
  /-- The conditions: all of one of the groups must hold. -/
  groups : List (List Condition)
  sort : List Order
deriving DecidableEq

namespace MethodName

/-- A method that asks for whole documents which meet the conditions. -/
def ofConditions (conditions : List Condition) : MethodName :=
  ⟨.entity, false, none, if conditions.isEmpty then [] else [conditions], []⟩

/-- The method with another group of conditions. -/
def or (m : MethodName) (conditions : List Condition) : MethodName :=
  { m with groups := m.groups ++ [conditions] }

/-- All conditions, in the order of the name. -/
def conditions (m : MethodName) : List Condition := m.groups.flatten

/-- The number of arguments that the conditions take. -/
def argumentCount (m : MethodName) : Nat :=
  m.conditions.foldl (fun n c => n + c.kind.argumentCount) 0

end MethodName

end DocQuery
