import DocQuery.Fault
import DocQuery.Json.Record
import DocQuery.Value
/-!
# Arguments

What a caller hands over, before it becomes a value to compare with. How it is
converted depends on where it is used: as a scalar, as a set, or as a pattern.
-/

namespace DocQuery

/-- An argument of a call. -/
inductive Argument where
  /-- A variant of an enumeration, by its name. -/
  | enum (name : String)
  | collection (items : List Argument)
  | value (v : Value)

namespace Argument

/-- The name of the form of the argument. -/
def shape : Argument → String
  | .enum _ => "enum"
  | .collection _ => "collection"
  | .value v => v.typeName

/-! ### Conversions -/

mutual

/-- The value to compare with: an enumeration variant becomes its name. -/
def toValue : Argument → Value
  | .enum name => .string name
  | .collection items => .array (toValues items)
  | .value v => v

/-- The values of the items of a collection. -/
def toValues : List Argument → List Value
  | [] => []
  | a :: as => toValue a :: toValues as

end

/-- The set to look in: a lone scalar is a set of one, null is none. -/
def toSet : Argument → Except Fault Value
  | .collection items => .ok (.array (toValues items))
  | .value (.array items) => .ok (.array items)
  | .value .null => .error (.misuse .nullCollection)
  | a => .ok (.array [a.toValue])

/-- The pattern to match: the text of a scalar, empty for null. -/
def toPattern : Argument → Except Fault Value
  | .value .null => .ok (.string "")
  | .value (.string s) => .ok (.string s)
  | .value (.bool b) => .ok (.string (Value.boolText b))
  | .value (.int n) => .ok (.string (toString n.toInt))
  | .value (.float x) => .ok (.string (Value.floatText x))
  | .enum name => .ok (.string name)
  | a => .error (.misuse (.compoundPattern a.shape))

inductive Conversion where
  | scalar
  | set
  | pattern
deriving DecidableEq

def Conversion.apply : Conversion → Argument → Except Fault Value
  | .scalar, a => .ok a.toValue
  | .set, a => a.toSet
  | .pattern, a => a.toPattern

/-! ### JSON -/

mutual

def toJson : Argument → Json
  | .enum name => .object [("enum", .string name)]
  | .collection items => .array (toJsons items)
  | .value v => v.toJson

/-- The JSON of the items of a collection. -/
def toJsons : List Argument → List Json
  | [] => []
  | a :: as => toJson a :: toJsons as

end

mutual

/-- Reads an argument of which every part has a value: an object names a variant in its field
`enum`, whatever else it holds, and an array is a collection. -/
def ofSoundJson? : Json → Option Argument
  | .object fields => do
    match ← Json.field? "enum" fields with
    | some (.string name) => return .enum name
    | _ => none
  | .array items => (ofSoundJsons? items).map .collection
  | .null => some (.value .null)
  | .bool b => some (.value (.bool b))
  | .int n => some (.value (Value.ofInt n))
  | .float x => some (.value (.float x))
  | .string s => some (.value (.string s))
  | .flawed => none

/-- Reads the items of a collection. -/
def ofSoundJsons? : List Json → Option (List Argument)
  | [] => some []
  | j :: js => do return (← ofSoundJson? j) :: (← ofSoundJsons? js)

end

/-- The argument that a JSON value stands for. -/
def ofJson? (j : Json) : Option Argument := if j.isSound then ofSoundJson? j else none

end Argument

end DocQuery
