import DocQuery.Decimal.Layout
import DocQuery.Json.Basic
import DocQuery.Letter.Case
import DocQuery.Quoted
/-!
# Values

The scalars and arrays that a statement compares with, their inline literals
and their JSON.
-/

namespace DocQuery

/-- A scalar or an array of values. -/
inductive Value where
  | null
  | bool (b : Bool)
  | int (n : Int64)
  | float (x : Float)
  | string (s : String)
  | array (items : List Value)

namespace Value

def isNull : Value → Bool
  | .null => true
  | _ => false

/-- The name of the kind of value. -/
def typeName : Value → String
  | .null => "null"
  | .bool _ => "bool"
  | .int _ => "int"
  | .float _ => "float"
  | .string _ => "string"
  | .array _ => "array"

/-! ### Literals -/

/-- Literals write a number with the fewest digits that read back, never with an exponent and
without a fraction if it is whole. -/
def numberLayout : Decimal.Layout where
  tie := .up
  positional := none
  pointZero := false

def floatText (x : Float) : String :=
  match Decimal.Double.ofFloat x with
  | .finite negative magnitude => numberLayout.text negative (magnitude.shortest numberLayout.tie)
  | .infinite negative => if negative then "-inf" else "inf"
  | .nan => "NaN"

/-- The literal of a truth value. -/
def boolText (b : Bool) : String := if b then "true" else "false"

mutual

/-- The value as it is written inside a statement. -/
def literal : Value → String
  | .null => "null"
  | .bool b => boolText b
  | .int n => toString n.toInt
  | .float x => floatText x
  | .string s => Quoted.literal s
  | .array items => "[" ++ String.intercalate ", " (literals items) ++ "]"

/-- The literals of the items of an array. -/
def literals : List Value → List String
  | [] => []
  | v :: vs => literal v :: literals vs

end

/-- A string in upper case; any other value as it is. -/
def upper : Value → Value
  | .string s => .string (Letter.upperText s)
  | v => v

/-! ### JSON -/

mutual

def toJson : Value → Json
  | .null => .null
  | .bool b => .bool b
  | .int n => .int n.toInt
  | .float x => .float x
  | .string s => .string s
  | .array items => .array (toJsons items)

/-- The JSON of the items of an array. -/
def toJsons : List Value → List Json
  | [] => []
  | v :: vs => toJson v :: toJsons vs

end

/-- A whole number of 64 bits with a sign stays whole; a larger one becomes a double. -/
def ofInt (n : Int) : Value :=
  if Int64.minValue.toInt ≤ n ∧ n ≤ Int64.maxValue.toInt then .int (Int64.ofInt n) else .float (Float.ofInt n)

mutual

/-- The value that a JSON value stands for; objects stand for none. -/
def ofJson? : Json → Option Value
  | .null => some .null
  | .bool b => some (.bool b)
  | .int n => some (ofInt n)
  | .float x => some (.float x)
  | .string s => some (.string s)
  | .array items => (ofJsons? items).map .array
  | .object _ => none
  | .flawed => none

/-- The values of the items of an array. -/
def ofJsons? : List Json → Option (List Value)
  | [] => some []
  | j :: js => do return (← ofJson? j) :: (← ofJsons? js)

end

end Value

end DocQuery
