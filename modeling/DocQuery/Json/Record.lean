import DocQuery.Json.Basic
/-!
# Records in JSON

A record is an object with named fields, in any order and beside any others, or
an array of its fields in their declared order. A named field must not be
repeated; whether it may be left out is for the reader of the field to say.
-/

namespace DocQuery.Json

/-- The value of a named field, if the object has it: `none` if it is repeated. -/
def field? (name : String) (fields : List (String × Json)) : Option (Option Json) :=
  match fields.filter (·.1 == name) with
  | [] => some none
  | [(_, j)] => some (some j)
  | _ => none

/-- The values of the named fields, in the order of the names. -/
def record? (names : List String) : Json → Option (List (Option Json))
  | .object fields => names.mapM fun name => field? name fields
  | .array items =>
    if items.length ≤ names.length then
      some (items.map some ++ List.replicate (names.length - items.length) none)
    else none
  | _ => none

/-! ### Fields -/

/-- A field that must be there. -/
def required {α : Type} (read : Json → Option α) (j : Option Json) : Option α := j.bind read

/-- A field that stands for `default` if it is left out. -/
def withDefault {α : Type} (default : α) (read : Json → Option α) : Option Json → Option α
  | none => some default
  | some j => read j

/-- A field that may be left out or null. -/
def optional {α : Type} (read : Json → Option α) : Option Json → Option (Option α)
  | none => some none
  | some .null => some none
  | some j => (read j).map some

/-! ### Scalars -/

def string? : Json → Option String
  | .string s => some s
  | _ => none

def bool? : Json → Option Bool
  | .bool b => some b
  | _ => none

/-- A natural number of 64 bits. -/
def uint64? : Json → Option UInt64
  | .int n => if 0 ≤ n ∧ n < UInt64.size then some (UInt64.ofNat n.toNat) else none
  | _ => none

/-- An array of values of one kind. -/
def list? {α : Type} (read : Json → Option α) : Json → Option (List α)
  | .array items => items.mapM read
  | _ => none

/-! ### Choices -/

/-- How it may be written that a choice carries nothing beyond its name. -/
inductive Nothing where
  /-- As null. -/
  | null
  /-- As null or as an empty object. -/
  | nullOrEmpty
deriving DecidableEq

/-- Whether the value says that there is nothing. -/
def Nothing.admits : Nothing → Json → Bool
  | _, .null => true
  | .nullOrEmpty, .object [] => true
  | _, _ => false

/-- One of finitely many names: a string, or an object with the name as its only field, which
holds nothing. -/
def choice? {α : Type} (nothing : Nothing) (choices : List (String × α)) : Json → Option α
  | .string s => choices.lookup s
  | .object [(s, j)] => if nothing.admits j then choices.lookup s else none
  | _ => none

end DocQuery.Json
