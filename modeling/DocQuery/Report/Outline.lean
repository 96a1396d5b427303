import DocQuery.Json.Basic
import DocQuery.Letter.Class
import DocQuery.Value
/-!
# Outlines

A sparing notation for JSON values: keys and values a line each, nesting by
indentation, arrays of scalars on one line with their length, and quotes only
around strings that would be read as something else.
-/

namespace DocQuery.Outline

/-! ### Scalars -/

/-- What follows the leading digits, if there are any. -/
def afterDigits? (cs : List Char) : Option (List Char) :=
  match cs with
  | c :: cs => if Letter.isDecimalDigit c then some (cs.dropWhile Letter.isDecimalDigit) else none
  | [] => none

/-- The text after a fraction, if it starts with one. -/
def afterFraction (cs : List Char) : List Char :=
  match cs with
  | '.' :: rest => (afterDigits? rest).getD cs
  | _ => cs

/-- The text after an exponent, if it starts with one. -/
def afterExponent (cs : List Char) : List Char :=
  match cs with
  | 'e' :: '+' :: rest => (afterDigits? rest).getD cs
  | 'e' :: '-' :: rest => (afterDigits? rest).getD cs
  | 'e' :: rest => (afterDigits? rest).getD cs
  | _ => cs

/-- Whether the text is a number: a sign, digits, a fraction and an exponent. -/
def looksNumeric (cs : List Char) : Bool :=
  let unsigned := match cs with
    | '-' :: rest => rest
    | _ => cs
  match afterDigits? unsigned with
  | some rest => (afterExponent (afterFraction rest)).isEmpty
  | none => false

/-- Whether the text starts or ends with a blank. -/
def hasOuterBlank (cs : List Char) : Bool :=
  cs.head?.any Letter.isBlank || cs.getLast?.any Letter.isBlank

/-- Characters that a bare string must not hold. -/
def isReserved (c : Char) : Bool :=
  c ∈ [':', '"', '\\', '[', ']', '\x7b', '\x7d', '\n', '\r', '\t', ',']

def needsQuotes (cs : List Char) : Bool :=
  cs.isEmpty || hasOuterBlank cs || cs ∈ ["true".toList, "false".toList, "null".toList] ||
    looksNumeric cs || cs.any isReserved || ['-', ' '].isPrefixOf cs

/-- A character between quotes. -/
def escape : Char → List Char
  | '"' => ['\\', '"']
  | '\\' => ['\\', '\\']
  | '\n' => ['\\', 'n']
  | '\r' => ['\\', 'r']
  | '\t' => ['\\', 't']
  | c => [c]

def quoted (s : String) : String := String.ofList ('"' :: s.toList.flatMap escape ++ ['"'])

/-- A string, with quotes only if it needs them. -/
def stringText (s : String) : String := if needsQuotes s.toList then quoted s else s

/-- Whether a key can stand without quotes. -/
def isBareKey : List Char → Bool
  | [] => false
  | c :: cs => (c.isAlpha || c == '_') && cs.all fun d => Letter.isWord d || d == '.'

/-- A key, with quotes only if it needs them. -/
def keyText (s : String) : String := if isBareKey s.toList then s else quoted s

/-- A number: zero has no sign, and what is not finite is null. -/
def floatText (x : Float) : String :=
  match Decimal.Double.ofFloat x with
  | .finite negative magnitude =>
    Value.numberLayout.text (negative && magnitude.mantissa != 0)
      (magnitude.shortest Value.numberLayout.tie)
  | _ => "null"

/-- The text of a scalar; arrays and objects have none. -/
def scalar? : Json → Option String
  | .null => some "null"
  | .bool b => some (Value.boolText b)
  | .int n => some (floatText (Float.ofInt n))
  | .float x => some (floatText x)
  | .string s => some (stringText s)
  | .array _ => none
  | .object _ => none
  | .flawed => some "null"

/-! ### Structure -/

/-- A text at a level of indentation. -/
def indented (level : Nat) (text : String) : String :=
  String.ofList (List.replicate (2 * level) ' ') ++ text

/-- The length of an array in front of its items. -/
def lengthMark (items : List Json) : String := "[" ++ toString items.length ++ "]:"

/-- An array of scalars behind its length. -/
def scalarsText (items : List Json) (texts : List String) : String :=
  match texts with
  | [] => lengthMark items
  | texts => lengthMark items ++ " " ++ String.intercalate "," texts

/-- The lines of an item of an array that does not hold scalars only. Items that nest deeper than
an array of scalars are passed over. -/
def itemLines (level : Nat) (j : Json) : List String :=
  match scalar? j with
  | some text => [indented level ("- " ++ text)]
  | none =>
    match j with
    | .array items =>
      match items.mapM scalar? with
      | some texts => [indented level ("- " ++ scalarsText items texts)]
      | none => []
    | _ => []

/-- The lines of an array behind its name. -/
def arrayLines (level : Nat) (name : String) (items : List Json) : List String :=
  match items.mapM scalar? with
  | some texts => [indented level (keyText name ++ scalarsText items texts)]
  | none => indented level (keyText name ++ lengthMark items) :: items.flatMap (itemLines (level + 1))

mutual

def fieldLines (level : Nat) (name : String) : Json → List String
  | .object fields => indented level (keyText name ++ ":") :: objectLines (level + 1) fields
  | .array items => arrayLines level name items
  | j => [indented level (keyText name ++ ": " ++ (scalar? j).getD "")]

/-- The lines of the fields of an object. -/
def objectLines (level : Nat) : List (String × Json) → List String
  | [] => []
  | (name, j) :: fields => fieldLines level name j ++ objectLines level fields

end

/-! ### The order of fields -/

/-- The fields in the order of their names. -/
def sortedByName (fields : List (String × Json)) : List (String × Json) :=
  fields.mergeSort fun a b => decide (a.1 ≤ b.1)

mutual

/-- The value with the fields of every object in the order of their names. -/
def inOrder : Json → Json
  | .object fields => .object (sortedByName (fieldsInOrder fields))
  | .array items => .array (itemsInOrder items)
  | j => j

/-- `inOrder` for every item of an array. -/
def itemsInOrder : List Json → List Json
  | [] => []
  | j :: js => inOrder j :: itemsInOrder js

/-- `inOrder` for the value of every field. -/
def fieldsInOrder : List (String × Json) → List (String × Json)
  | [] => []
  | (name, j) :: fields => (name, inOrder j) :: fieldsInOrder fields

end

def text (j : Json) : String :=
  match inOrder j with
  | .object fields => String.intercalate "\n" (objectLines 0 fields)
  | j => (scalar? j).getD ""

end DocQuery.Outline
