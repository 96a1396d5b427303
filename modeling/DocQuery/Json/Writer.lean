import DocQuery.Decimal.Layout
import DocQuery.Json.Basic
/-!
# Writing JSON

The compact form, and an indented one with two blanks per level.
-/

namespace DocQuery.Json

/-! ### Scalars -/

/-- The hexadecimal digit of a number below 16. -/
def hexDigit (n : Nat) : Char := if n < 10 then Char.ofNat (0x30 + n) else Char.ofNat (0x57 + n)

/-- A character inside a string: only the quote, the backslash and control characters are escaped. -/
def escape (c : Char) : List Char :=
  match c with
  | '"' => ['\\', '"']
  | '\\' => ['\\', '\\']
  | '\x08' => ['\\', 'b']
  | '\x0C' => ['\\', 'f']
  | '\n' => ['\\', 'n']
  | '\r' => ['\\', 'r']
  | '\t' => ['\\', 't']
  | c => if c.toNat < 0x20 then ['\\', 'u', '0', '0', hexDigit (c.toNat / 16), hexDigit (c.toNat % 16)]
    else [c]

def stringText (s : String) : String :=
  String.ofList ('"' :: s.toList.flatMap escape ++ ['"'])

/-- Numbers are written with the fewest digits that read back, with a fraction, and positionally
from `10^-5` up to `10^16`. -/
def numberLayout : Decimal.Layout where
  tie := .even
  positional := some (-5, 16)
  pointZero := true

/-- A double; what is not finite is written as null. -/
def floatText (x : Float) : String :=
  match Decimal.Double.ofFloat x with
  | .finite negative magnitude => numberLayout.text negative (magnitude.shortest numberLayout.tie)
  | _ => "null"

/-! ### The compact form -/

mutual

/-- The text without any blanks. -/
def compact : Json → String
  | .null => "null"
  | .bool b => if b then "true" else "false"
  | .int n => toString n
  | .float x => floatText x
  | .string s => stringText s
  | .array items => "[" ++ String.intercalate "," (compactItems items) ++ "]"
  | .object fields => "\x7b" ++ String.intercalate "," (compactFields fields) ++ "\x7d"
  | .flawed => "null"

/-- The texts of the items of an array. -/
def compactItems : List Json → List String
  | [] => []
  | j :: js => compact j :: compactItems js

/-- The texts of the fields of an object. -/
def compactFields : List (String × Json) → List String
  | [] => []
  | (name, j) :: fields => (stringText name ++ ":" ++ compact j) :: compactFields fields

end

/-! ### The indented form -/

/-- A line break and the blanks of a level. -/
def newLine (level : Nat) : String := "\n" ++ String.ofList (List.replicate (2 * level) ' ')

/-- Elements between brackets, each on a line of its own. -/
def bracketed (level : Nat) (opening closing : String) : List String → String
  | [] => opening ++ closing
  | texts => opening ++ newLine (level + 1) ++ String.intercalate ("," ++ newLine (level + 1)) texts
      ++ newLine level ++ closing

mutual

/-- The text with one element per line, at a level of indentation. -/
def indented (level : Nat) : Json → String
  | .array items => bracketed level "[" "]" (indentedItems (level + 1) items)
  | .object fields => bracketed level "\x7b" "\x7d" (indentedFields (level + 1) fields)
  | .null => "null"
  | .bool b => if b then "true" else "false"
  | .int n => toString n
  | .float x => floatText x
  | .string s => stringText s
  | .flawed => "null"

/-- The texts of the items of an array. -/
def indentedItems (level : Nat) : List Json → List String
  | [] => []
  | j :: js => indented level j :: indentedItems level js

/-- The texts of the fields of an object. -/
def indentedFields (level : Nat) : List (String × Json) → List String
  | [] => []
  | (name, j) :: fields =>
    (stringText name ++ ": " ++ indented level j) :: indentedFields level fields

end

/-- The text with one element per line. -/
def pretty (j : Json) : String := indented 0 j

end DocQuery.Json
