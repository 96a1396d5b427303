/-!
# Why a query is refused

The reasons for which a query cannot be compiled, and their wording.
-/

namespace DocQuery

/-- A use of the compiler that makes no sense. -/
inductive Misuse where
  /-- Null where set membership needs a collection. -/
  | nullCollection
  /-- A pattern that is not a scalar. -/
  | compoundPattern (shape : String)
  /-- A connective where a comparison is expected. -/
  | notComparison (operator : String)
  /-- Too few or too many operands. -/
  | operandCount (operator : String) (expected actual : Nat)
  /-- A comparison against another criteria. -/
  | nestedCriteria (operator : String)
  /-- A comparison of nothing. -/
  | noField (operator : String)
  /-- A connective over something else than criteria. -/
  | notCriteria (operator : String)
  /-- A connective with too few or too many criteria. -/
  | criteriaCount (operator : String) (actual : Nat)
  /-- A connective with fewer than two operands. -/
  | junctionSize (operator : String) (actual : Nat)
  /-- Operands are left when the arguments have run out. -/
  | missingArgument
  /-- A method called with the wrong number of arguments. -/
  | argumentCount (expected actual : Nat)
  /-- Letter case ignored on a field that is not text. -/
  | notTextual (field kind : String)
  /-- A method name without a known verb. -/
  | unknownVerb (method : String)
  /-- A method name that ends where its conditions should start. -/
  | missingConditions (method : String)
  /-- A result limit with a digit that is not ASCII. -/
  | limitDigit
  /-- A result limit beyond 64 bits. -/
  | limitOverflow
  /-- A property reference with an empty segment. -/
  | emptySegment (reference : String)
  /-- An ordering without properties. -/
  | emptyOrdering
deriving DecidableEq

def Misuse.message : Misuse → String
  | .nullCollection => "set membership requires a collection argument, got null"
  | .compoundPattern shape => s!"pattern argument must be a scalar, got {shape}"
  | .notComparison operator => s!"{operator} is not a comparison operator"
  | .operandCount operator expected actual =>
    s!"{operator} expects {expected} operand(s) but got {actual}"
  | .nestedCriteria operator => s!"{operator} cannot compare against a nested criteria"
  | .noField operator => s!"{operator} criteria has no field"
  | .notCriteria operator => s!"{operator} operands must be criteria"
  | .criteriaCount operator actual => s!"{operator} cannot combine {actual} criteria"
  | .junctionSize operator actual => s!"{operator} requires at least two operands, got {actual}"
  | .missingArgument => "not enough arguments to bind every parameter"
  | .argumentCount expected actual =>
    s!"method expects {expected} argument(s) but {actual} were supplied"
  | .notTextual field kind => s!"Part {field} must be of type String but was {kind}"
  | .unknownVerb method => s!"method name '{method}' does not start with a supported prefix"
  | .missingConditions method => s!"method name '{method}' has no criteria after 'By'"
  | .limitDigit => "invalid result limit: invalid digit found in string"
  | .limitOverflow => "invalid result limit: number too large to fit in target type"
  | .emptySegment reference => s!"invalid property reference '{reference}'"
  | .emptyOrdering => "'OrderBy' must name at least one property"

/-- Why a query cannot be compiled. -/
inductive Fault where
  /-- An operator that has no N1QL form over its operands. -/
  | unsupported (operator operands : String)
  /-- A property that the entity does not have. -/
  | unknownProperty (path : String)
  | misuse (reason : Misuse)
  /-- Placeholders and values differ in number. -/
  | bindingCount (placeholders values : Nat)
  /-- An operand still waits for its argument. -/
  | deferredOperand
deriving DecidableEq

def Fault.message : Fault → String
  | .unsupported operator operands =>
    s!"Unsupported operator {operator} with operands {operands}"
  | .unknownProperty path => s!"No property '{path}' found in mapping"
  | .misuse reason => "Illegal argument: " ++ reason.message
  | .bindingCount placeholders values =>
    s!"Placeholder count {placeholders} does not match bound value count {values}"
  | .deferredOperand => "Criteria still holds an unresolved argument operand"

end DocQuery
