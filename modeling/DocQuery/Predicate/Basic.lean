import DocQuery.Argument
/-!
# Predicates

A predicate is a tree of operations over property paths and constants, as an
expression language produces it. Nothing in the tree says yet that it makes
sense: operations may have any operands.
-/

namespace DocQuery

namespace Predicate

/-- An operation of a predicate. The names that end in `IgnoreCase` compare upper-case forms. -/
inductive Op where
  | eq
  | ne
  | lt
  | lte
  | gt
  | gte
  | between
  | like
  | likeIgnoreCase
  | startsWith
  | startsWithIgnoreCase
  | endsWith
  | endsWithIgnoreCase
  | contains
  | containsIgnoreCase
  | eqIgnoreCase
  | regex
  | regexIgnoreCase
  | isIn
  | isNotIn
  | isNull
  | isNotNull
  | isEmptyString
  | isEmptyCollection
  | and
  | or
  | not
  | stringLength
  | collectionSize
  | containsKey
deriving DecidableEq

namespace Op

/-- The name of an operation in JSON. -/
def key : Op → String
  | .eq => "eq"
  | .ne => "ne"
  | .lt => "lt"
  | .lte => "loe"
  | .gt => "gt"
  | .gte => "goe"
  | .between => "between"
  | .like => "like"
  | .likeIgnoreCase => "like_ic"
  | .startsWith => "starts_with"
  | .startsWithIgnoreCase => "starts_with_ic"
  | .endsWith => "ends_with"
  | .endsWithIgnoreCase => "ends_with_ic"
  | .contains => "string_contains"
  | .containsIgnoreCase => "string_contains_ic"
  | .eqIgnoreCase => "eq_ignore_case"
  | .regex => "matches"
  | .regexIgnoreCase => "matches_ic"
  | .isIn => "in"
  | .isNotIn => "not_in"
  | .isNull => "is_null"
  | .isNotNull => "is_not_null"
  | .isEmptyString => "string_is_empty"
  | .isEmptyCollection => "col_is_empty"
  | .and => "and"
  | .or => "or"
  | .not => "not"
  | .stringLength => "string_length"
  | .collectionSize => "col_size"
  | .containsKey => "contains_key"

/-- The name of an operation in messages. -/
def name : Op → String
  | .eq => "EQ"
  | .ne => "NE"
  | .lt => "LT"
  | .lte => "LOE"
  | .gt => "GT"
  | .gte => "GOE"
  | .between => "BETWEEN"
  | .like => "LIKE"
  | .likeIgnoreCase => "LIKE_IC"
  | .startsWith => "STARTS_WITH"
  | .startsWithIgnoreCase => "STARTS_WITH_IC"
  | .endsWith => "ENDS_WITH"
  | .endsWithIgnoreCase => "ENDS_WITH_IC"
  | .contains => "STRING_CONTAINS"
  | .containsIgnoreCase => "STRING_CONTAINS_IC"
  | .eqIgnoreCase => "EQ_IGNORE_CASE"
  | .regex => "MATCHES"
  | .regexIgnoreCase => "MATCHES_IC"
  | .isIn => "IN"
  | .isNotIn => "NOT_IN"
  | .isNull => "IS_NULL"
  | .isNotNull => "IS_NOT_NULL"
  | .isEmptyString => "STRING_IS_EMPTY"
  | .isEmptyCollection => "COL_IS_EMPTY"
  | .and => "AND"
  | .or => "OR"
  | .not => "NOT"
  | .stringLength => "STRING_LENGTH"
  | .collectionSize => "COL_SIZE"
  | .containsKey => "CONTAINS_KEY"

def all : List Op :=
  [.eq, .ne, .lt, .lte, .gt, .gte, .between, .like, .likeIgnoreCase, .startsWith,
    .startsWithIgnoreCase, .endsWith, .endsWithIgnoreCase, .contains, .containsIgnoreCase,
    .eqIgnoreCase, .regex, .regexIgnoreCase, .isIn, .isNotIn, .isNull, .isNotNull,
    .isEmptyString, .isEmptyCollection, .and, .or, .not, .stringLength, .collectionSize,
    .containsKey]

/-- The operation that a JSON value names. -/
def ofJson? (nothing : Json.Nothing) : Json → Option Op :=
  Json.choice? nothing (all.map fun op => (op.key, op))

end Op

end Predicate

/-- A predicate on entities. -/
inductive Predicate where
  /-- The logical path of a property. -/
  | path (logical : String)
  | constant (value : Argument)
  | operation (op : Predicate.Op) (args : List Predicate)

namespace Predicate

/-- The name of the form of a predicate. -/
def shape : Predicate → String
  | .path _ => "Path"
  | .constant _ => "Constant"
  | .operation _ _ => "Operation"

/-- The forms of several predicates, as messages name them. -/
def shapes (args : List Predicate) : String :=
  "(" ++ String.intercalate ", " (args.map shape) ++ ")"

/-- The predicate related to a constant. -/
def relate (p : Predicate) (op : Op) (value : Argument) : Predicate :=
  .operation op [p, .constant value]

/-! ### JSON -/

mutual

/-- The JSON of a predicate: an object whose only field tells its form. -/
def toJson : Predicate → Json
  | .path logical => .object [("path", .string logical)]
  | .constant value => .object [("constant", value.toJson)]
  | .operation op args =>
    .object [("operation", .object [("op", .string op.key), ("args", .array (toJsons args))])]

/-- The JSON of the operands of an operation. -/
def toJsons : List Predicate → List Json
  | [] => []
  | p :: ps => toJson p :: toJsons ps

end

mutual

def ofJson? (nothing : Json.Nothing) : Json → Option Predicate
  | .object [(form, j)] =>
    if form = "path" then j.string?.map .path
    else if form = "constant" then (Argument.ofJson? j).map .constant
    else if form = "operation" then operation? nothing j
    else none
  | _ => none

def operation? (nothing : Json.Nothing) : Json → Option Predicate
  | .object fields => do
    let op ← Json.required (Op.ofJson? nothing) (← Json.field? "op" fields)
    let _ ← Json.required some (← Json.field? "args" fields)
    return .operation op (← operands? nothing fields)
  | .array [op, args] => do return .operation (← Op.ofJson? nothing op) (← list? nothing args)
  | _ => none

/-- Reads the operands among the fields of an operation. -/
def operands? (nothing : Json.Nothing) :
    List (String × Json) → Option (List Predicate)
  | [] => none
  | (name, j) :: fields => if name = "args" then list? nothing j else operands? nothing fields

def list? (nothing : Json.Nothing) : Json → Option (List Predicate)
  | .array items => items? nothing items
  | _ => none

/-- Reads the items of an array of predicates. -/
def items? (nothing : Json.Nothing) : List Json → Option (List Predicate)
  | [] => some []
  | j :: js => do return (← ofJson? nothing j) :: (← items? nothing js)

end

end Predicate

end DocQuery
