import DocQuery.Fault
import DocQuery.Value
/-!
# Statement text with open values

A fragment of a N1QL statement is a list of pieces: text, and the values that
the text speaks of, which are still open to be written as literals or as
placeholders. The functions below are the forms that statements are made of;
none of them looks at the pieces it is given.
-/

namespace DocQuery

/-- A piece of a statement. -/
inductive Piece where
  | text (s : String)
  /-- A value, and the name that a placeholder for it would like to have. -/
  | value (hint : String) (v : Value)
  /-- A value that is not known yet. -/
  | deferred

/-- Statement text with open values. -/
abbrev Fragment := List Piece

namespace Fragment

/-! ### Atoms -/

/-- Text as it is. -/
def raw (s : String) : Fragment := [.text s]

def identifier (s : String) : Fragment := raw (Quoted.identifier s)

def string (s : String) : Fragment := raw (Quoted.literal s)

def literal (v : Value) : Fragment := raw v.literal

def null : Fragment := raw "null"

def boolean (b : Bool) : Fragment := raw (Value.boolText b)

/-! ### Joining and calling -/

/-- Fragments with a text between them. -/
def joined (separator : String) : List Fragment → Fragment
  | [] => []
  | [a] => a
  | a :: as => a ++ raw separator ++ joined separator as

/-- A function applied to arguments. -/
def call (function : String) (args : List Fragment) : Fragment :=
  raw (function ++ "(") ++ joined ", " args ++ raw ")"

/-- Two fragments around a spaced operator. -/
def binary (a : Fragment) (operator : String) (b : Fragment) : Fragment :=
  a ++ raw (" " ++ operator ++ " ") ++ b

/-- A fragment before a word. -/
def suffixed (a : Fragment) (word : String) : Fragment := a ++ raw (" " ++ word)

def paren (a : Fragment) : Fragment := call "" [a]

def path (segments : List Fragment) : Fragment := joined "." segments

/-! ### Conditions -/

/-- The lower-case form of a text, in a condition. -/
def foldLower (a : Fragment) : Fragment := call "lower" [a]

/-- The upper-case form of a text, in a condition. -/
def foldUpper (a : Fragment) : Fragment := call "upper" [a]

def contains (a b : Fragment) : Fragment := call "contains" [a, b]

/-- Whether `a` matches the regular expression `b`. -/
def regexpLike (a b : Fragment) : Fragment := call "regexp_like" [a, b]

def not (a : Fragment) : Fragment := call "not" [a]

def and (a b : Fragment) : Fragment := binary a "and" b

def or (a b : Fragment) : Fragment := binary a "or" b

def eq (a b : Fragment) : Fragment := binary a "=" b

def ne (a b : Fragment) : Fragment := binary a "!=" b

def lt (a b : Fragment) : Fragment := binary a "<" b

def lte (a b : Fragment) : Fragment := binary a "<=" b

def gt (a b : Fragment) : Fragment := binary a ">" b

def gte (a b : Fragment) : Fragment := binary a ">=" b

/-- Between two bounds, both included. -/
def between (a low high : Fragment) : Fragment :=
  a ++ raw " between " ++ low ++ raw " and " ++ high

def like (a b : Fragment) : Fragment := binary a "like" b

def notLike (a b : Fragment) : Fragment := binary a "not like" b

def isIn (a b : Fragment) : Fragment := binary a "in" b

def isNotIn (a b : Fragment) : Fragment := binary a "not in" b

/-- Two texts behind each other. -/
def concat (a b : Fragment) : Fragment := a ++ raw "||" ++ b

def isNull (a : Fragment) : Fragment := suffixed a "is null"

def isNotNull (a : Fragment) : Fragment := suffixed a "is not null"

def isMissing (a : Fragment) : Fragment := suffixed a "is missing"

def isNotMissing (a : Fragment) : Fragment := suffixed a "is not missing"

/-- Is neither null nor missing. -/
def isValued (a : Fragment) : Fragment := suffixed a "is valued"

/-- Is null or missing. -/
def isNotValued (a : Fragment) : Fragment := suffixed a "is not valued"

/-! ### Clauses -/

/-- The metadata of a document. -/
def metadata (bucket : String) : Fragment := call "META" [identifier bucket]

def count (a : Fragment) : Fragment := call "COUNT" [a]

/-- The lower-case form of a text, in a clause. -/
def lower (a : Fragment) : Fragment := call "LOWER" [a]

/-- The upper-case form of a text, in a clause. -/
def upper (a : Fragment) : Fragment := call "UPPER" [a]

def asText (a : Fragment) : Fragment := call "TOSTRING" [a]

def named (a : Fragment) (name : String) : Fragment := binary a "AS" (raw name)

def select (columns : List Fragment) : Fragment := raw "SELECT " ++ joined ", " columns

/-- The columns of a selection without repeated rows. -/
def selectDistinct (columns : List Fragment) : Fragment :=
  raw "SELECT DISTINCT " ++ joined ", " columns

def deleteFrom (bucket : String) : Fragment := raw "DELETE FROM " ++ identifier bucket

def source (a : Fragment) (bucket : String) : Fragment := binary a "FROM" (identifier bucket)

def filtered (a condition : Fragment) : Fragment := binary a "WHERE" condition

def ascending (a : Fragment) : Fragment := suffixed a "ASC"

def descending (a : Fragment) : Fragment := suffixed a "DESC"

def ordered (a : Fragment) (orderings : List Fragment) : Fragment :=
  a ++ raw " ORDER BY " ++ joined ", " orderings

def limited (a : Fragment) (n : UInt64) : Fragment := a ++ raw (" LIMIT " ++ toString n.toNat)

def skipping (a : Fragment) (n : UInt64) : Fragment := a ++ raw (" OFFSET " ++ toString n.toNat)

/-! ### Writing values as literals -/

/-- The number of values that are not known yet. -/
def deferredCount : Fragment → Nat
  | [] => 0
  | .deferred :: pieces => deferredCount pieces + 1
  | _ :: pieces => deferredCount pieces

/-- The text with every value as a literal. -/
def inline : Fragment → Except Fault String
  | [] => .ok ""
  | .text s :: pieces => return s ++ (← inline pieces)
  | .value _ v :: pieces => return v.literal ++ (← inline pieces)
  | .deferred :: _ => .error .deferredOperand

/-- The text of a fragment without values. -/
def plain : Fragment → String
  | [] => ""
  | .text s :: pieces => s ++ plain pieces
  | _ :: pieces => plain pieces

end Fragment

/-! ### Writing values in any way -/

/-- What is written for a value with its hint, and the state behind it. -/
abbrev Writer (σ : Type) := σ → String → Value → String × σ

/-- Writes literals. -/
def Writer.literals : Writer Unit := fun _ _ v => (v.literal, ())

end DocQuery
