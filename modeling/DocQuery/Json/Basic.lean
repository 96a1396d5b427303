/-!
# JSON values

A JSON text as a tree. Whole numbers of 64 bits are kept apart from all other
numbers, and the fields of an object keep their order and their repetitions,
so that a reader of records can refuse what it must.
-/

namespace DocQuery

inductive Json where
  | null
  | bool (b : Bool)
  /-- A number written without fraction and exponent, from `-2^63` up to `2^64 - 1`. -/
  | int (n : Int)
  /-- Any other number. -/
  | float (x : Float)
  | string (s : String)
  | array (items : List Json)
  | object (fields : List (String × Json))
  /-- Well-formed text that has no value: a number beyond the doubles, a string with half of a
  surrogate pair, or a nesting too deep. It may be skipped, but not read. -/
  | flawed

namespace Json

mutual

/-- Whether no part of the value is flawed. -/
def isSound : Json → Bool
  | .flawed => false
  | .array items => areSound items
  | .object fields => areSoundFields fields
  | _ => true

/-- `isSound` for all items of an array. -/
def areSound : List Json → Bool
  | [] => true
  | j :: js => isSound j && areSound js

/-- `isSound` for all fields of an object. -/
def areSoundFields : List (String × Json) → Bool
  | [] => true
  | (_, j) :: fields => isSound j && areSoundFields fields

end

/-- The deepest nesting of arrays and objects that is read. -/
def maxDepth : Nat := 127

end Json

end DocQuery
