import DocQuery.Decimal.Scaled
import DocQuery.Json.Basic
/-!
# Reading JSON

A strict reader: no leading zeros, no comments, no trailing commas, nothing but
blanks around the value. What is well formed but has no value (see
`Json.flawed`) does not stop the reader.
-/

namespace DocQuery.Json

/-- Space, tab, line feed and carriage return. -/
def isJsonBlank (c : Char) : Bool := c == ' ' || c == '\t' || c == '\n' || c == '\r'

/-- The text without its leading blanks. -/
def skipBlanks (cs : List Char) : List Char := cs.dropWhile isJsonBlank

/-! ### Strings -/

/-- The value of a hexadecimal digit. -/
def hexDigit? (c : Char) : Option Nat :=
  if c.isDigit then some (c.toNat - 0x30)
  else if 'a' ≤ c ∧ c ≤ 'f' then some (c.toNat - 0x57)
  else if 'A' ≤ c ∧ c ≤ 'F' then some (c.toNat - 0x37)
  else none

/-- The code unit written by four hexadecimal digits. -/
def codeUnit? (a b c d : Char) : Option Nat := do
  return (((← hexDigit? a) * 16 + (← hexDigit? b)) * 16 + (← hexDigit? c)) * 16 + (← hexDigit? d)

/-- The character that a backslash and a letter stand for. -/
def escaped? : Char → Option Char
  | '"' => some '"'
  | '\\' => some '\\'
  | '/' => some '/'
  | 'b' => some '\x08'
  | 'f' => some '\x0C'
  | 'n' => some '\n'
  | 'r' => some '\r'
  | 't' => some '\t'
  | _ => none

/-- One element of a string: a character, or a code unit of 16 bits written as an escape. -/
inductive StringItem where
  | char (c : Char)
  | unit (n : Nat)

/-- Reads the elements of a string after its opening quote. Control characters are refused. -/
def readStringItems : List Char → Option (List StringItem × List Char)
  | [] => none
  | '"' :: cs => some ([], cs)
  | '\\' :: 'u' :: a :: b :: c :: d :: cs => do
    let unit ← codeUnit? a b c d
    let (items, rest) ← readStringItems cs
    return (.unit unit :: items, rest)
  | '\\' :: e :: cs => do
    let c ← escaped? e
    let (items, rest) ← readStringItems cs
    return (.char c :: items, rest)
  | c :: cs =>
    if c.toNat < 0x20 ∨ c = '\\' then none
    else (readStringItems cs).map fun (items, rest) => (.char c :: items, rest)

/-- The first half of a surrogate pair. -/
def isHighSurrogate (n : Nat) : Bool := 0xD800 ≤ n && n ≤ 0xDBFF

/-- The second half of a surrogate pair. -/
def isLowSurrogate (n : Nat) : Bool := 0xDC00 ≤ n && n ≤ 0xDFFF

/-- The characters of a string; `none` if half of a surrogate pair stands alone. -/
def joinStringItems : List StringItem → Option (List Char)
  | [] => some []
  | .char c :: items => (joinStringItems items).map (c :: ·)
  | .unit high :: .unit low :: items =>
    if isHighSurrogate high then
      if isLowSurrogate low then
        (joinStringItems items).map
          (Char.ofNat (0x10000 + (high - 0xD800) * 0x400 + (low - 0xDC00)) :: ·)
      else none
    else if isLowSurrogate high then none
    else (joinStringItems (.unit low :: items)).map (Char.ofNat high :: ·)
  | .unit n :: items =>
    if isHighSurrogate n || isLowSurrogate n then none
    else (joinStringItems items).map (Char.ofNat n :: ·)

/-- Reads a string after its opening quote. The inner `none` is a string without a value. -/
def readString (cs : List Char) : Option (Option String × List Char) :=
  (readStringItems cs).map fun (items, rest) => ((joinStringItems items).map String.ofList, rest)

/-! ### Numbers -/

/-- The number that a row of decimal digits writes. -/
def digitsValue (cs : List Char) : Nat := cs.foldl (fun n c => 10 * n + Decimal.digitValue c) 0

/-- The leading decimal digits, at least one of them. -/
def readDigits (cs : List Char) : Option (List Char × List Char) :=
  match cs.takeWhile Char.isDigit with
  | [] => none
  | digits => some (digits, cs.dropWhile Char.isDigit)

/-- A number as it is written. -/
structure Numeral where
  negative : Bool
  whole : List Char
  fraction : Option (List Char)
  exponent : Option Int

/-- Reads the digits before the point: no zero stands before another digit. -/
def readWhole (cs : List Char) : Option (List Char × List Char) := do
  let (digits, rest) ← readDigits cs
  if digits.head? = some '0' ∧ digits.length > 1 then none else some (digits, rest)

/-- Reads the point and the digits behind it, if there is a point. -/
def readFraction : List Char → Option (Option (List Char) × List Char)
  | '.' :: cs => (readDigits cs).map fun (digits, rest) => (some digits, rest)
  | cs => some (none, cs)

/-- Reads the digits of an exponent and its sign. -/
def readSigned : List Char → Option (Int × List Char)
  | '-' :: cs => (readDigits cs).map fun (digits, rest) => (-(digitsValue digits : Int), rest)
  | '+' :: cs => (readDigits cs).map fun (digits, rest) => ((digitsValue digits : Int), rest)
  | cs => (readDigits cs).map fun (digits, rest) => ((digitsValue digits : Int), rest)

/-- Reads the exponent, if there is one. -/
def readExponent : List Char → Option (Option Int × List Char)
  | 'e' :: cs => (readSigned cs).map fun (n, rest) => (some n, rest)
  | 'E' :: cs => (readSigned cs).map fun (n, rest) => (some n, rest)
  | cs => some (none, cs)

/-- Reads a number after its sign. -/
def readUnsigned (negative : Bool) (cs : List Char) : Option (Numeral × List Char) := do
  let (whole, cs) ← readWhole cs
  let (fraction, cs) ← readFraction cs
  let (exponent, cs) ← readExponent cs
  return (⟨negative, whole, fraction, exponent⟩, cs)

def readNumeral : List Char → Option (Numeral × List Char)
  | '-' :: cs => readUnsigned true cs
  | cs => readUnsigned false cs

/-- The double that a number is read as, `none` beyond the largest. The digits before the point
and those behind it fill 64 bits from the left; those left over before the point count as zeros,
those behind it do not count. -/
def Numeral.toFloat? (n : Numeral) : Option Float :=
  let fraction := n.fraction.getD []
  let (digits, zeros) := Decimal.takeDigits 0 n.whole
  let (digits, ignored) := Decimal.takeDigits digits fraction
  let exponent := n.exponent.getD 0 + zeros.length - (fraction.length - ignored.length : Nat)
  (Decimal.scale? (UInt64.ofNat digits).toFloat exponent).map fun x => if n.negative then -x else x

/-- The whole number that is written, if it needs no fraction, exponent or negative zero. -/
def Numeral.toInt? (n : Numeral) : Option Int :=
  if n.fraction.isNone ∧ n.exponent.isNone then
    let magnitude := digitsValue n.whole
    if n.negative then
      if 0 < magnitude ∧ Int64.minValue.toInt ≤ -magnitude then some (-magnitude) else none
    else if magnitude < UInt64.size then some magnitude else none
  else none

def Numeral.toJson (n : Numeral) : Json :=
  match n.toInt? with
  | some i => .int i
  | none => match n.toFloat? with
    | some x => .float x
    | none => .flawed

/-! ### Values -/

/-- An object whose names are all readable. -/
def ofFields (fields : List (Option String × Json)) : Json :=
  match fields.mapM fun (name, j) => name.map (·, j) with
  | some fields => .object fields
  | none => .flawed

mutual

/-- Reads a value. `depth` is how many more levels of nesting have a value. -/
def readValue (fuel depth : Nat) (cs : List Char) : Option (Json × List Char) :=
  match fuel with
  | 0 => none
  | fuel + 1 =>
    match skipBlanks cs with
    | 'n' :: 'u' :: 'l' :: 'l' :: rest => some (.null, rest)
    | 't' :: 'r' :: 'u' :: 'e' :: rest => some (.bool true, rest)
    | 'f' :: 'a' :: 'l' :: 's' :: 'e' :: rest => some (.bool false, rest)
    | '"' :: rest =>
      (readString rest).map fun (s, rest) => (match s with | some s => .string s | none => .flawed, rest)
    | '[' :: rest =>
      match skipBlanks rest with
      | ']' :: rest => some (if depth = 0 then .flawed else .array [], rest)
      | rest => (readItems fuel (depth - 1) rest).map fun (items, rest) =>
          (if depth = 0 then .flawed else .array items, rest)
    | '\x7b' :: rest =>
      match skipBlanks rest with
      | '\x7d' :: rest => some (if depth = 0 then .flawed else .object [], rest)
      | rest => (readFields fuel (depth - 1) rest).map fun (fields, rest) =>
          (if depth = 0 then .flawed else ofFields fields, rest)
    | cs => (readNumeral cs).map fun (n, rest) => (n.toJson, rest)

/-- Reads the items of an array up to its closing bracket, at least one. -/
def readItems (fuel depth : Nat) (cs : List Char) : Option (List Json × List Char) :=
  match fuel with
  | 0 => none
  | fuel + 1 => do
    let (item, rest) ← readValue fuel depth cs
    match skipBlanks rest with
    | ',' :: rest => do
      let (items, rest) ← readItems fuel depth rest
      return (item :: items, rest)
    | ']' :: rest => return ([item], rest)
    | _ => none

/-- Reads the fields of an object up to its closing brace, at least one. -/
def readFields (fuel depth : Nat) (cs : List Char) :
    Option (List (Option String × Json) × List Char) :=
  match fuel with
  | 0 => none
  | fuel + 1 =>
    match skipBlanks cs with
    | '"' :: rest => do
      let (name, rest) ← readString rest
      match skipBlanks rest with
      | ':' :: rest => do
        let (j, rest) ← readValue fuel depth rest
        match skipBlanks rest with
        | ',' :: rest => do
          let (fields, rest) ← readFields fuel depth rest
          return ((name, j) :: fields, rest)
        | '\x7d' :: rest => return ([(name, j)], rest)
        | _ => none
      | _ => none
    | _ => none

end

/-- The value of a JSON text; `none` if the text is not well formed. -/
def parse? (text : String) : Option Json := do
  let cs := text.toList
  let (j, rest) ← readValue (2 * cs.length + 2) maxDepth cs
  match skipBlanks rest with
  | [] => return j
  | _ => none

end DocQuery.Json
