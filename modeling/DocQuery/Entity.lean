import DocQuery.Fault
import DocQuery.FieldPath
import DocQuery.Json.Record
/-!
# Entities

How the properties of an entity are stored: under which field names and as
which kinds of values. A logical path such as `address.city` resolves to a
storage path, and a storage path has the kind of the property stored there.
-/

namespace DocQuery

/-- The kind of value that a property is stored as. -/
inductive Kind where
  | string
  | number
  | boolean
  /-- An enumeration, stored by the name of its variant. -/
  | enum
  | object
  | array
deriving DecidableEq

namespace Kind

def name : Kind → String
  | .string => "string"
  | .number => "number"
  | .boolean => "boolean"
  | .enum => "enum"
  | .object => "object"
  | .array => "array"

/-- Whether values of the kind are stored as text, so that letter case can be ignored. -/
def isTextual : Kind → Bool
  | .string => true
  | .enum => true
  | _ => false

def all : List Kind := [.string, .number, .boolean, .enum, .object, .array]

/-- The kind that a JSON value names. -/
def ofJson? : Json → Option Kind :=
  Json.choice? .null (all.map fun kind => (kind.name, kind))

end Kind

structure Property where
  name : String
  /-- The field it is stored in, if that is not its name. -/
  storedAs : Option String
  kind : Kind
  /-- The properties of an object. -/
  properties : List Property

/-- The field that a property is stored in. -/
def Property.fieldName (p : Property) : String := p.storedAs.getD p.name

/-- The property as an object with the given properties. -/
def Property.withProperties (p : Property) (properties : List Property) : Property :=
  { p with kind := .object, properties }

structure Entity where
  name : String
  /-- The value of the type key in its documents, if that is not its name. -/
  aliasName : Option String
  properties : List Property

namespace Entity

/-- The value of the type key in the documents of the entity. -/
def typeAlias (e : Entity) : String := e.aliasName.getD e.name

/-! ### Resolving logical paths -/

/-- The properties that a logical path leads through. -/
def walk? : List Property → List String → Option (List Property)
  | _, [] => some []
  | properties, name :: names => do
    let p ← properties.find? (·.name == name)
    return p :: (← walk? p.properties names)

/-- The storage path of a logical path. -/
def resolve (e : Entity) (path : String) : Except Fault FieldPath :=
  match walk? e.properties (dottedSegments path) with
  | some properties => .ok (.ofSegments (properties.map (·.fieldName)))
  | none => .error (.unknownProperty path)

/-! ### Kinds of storage paths -/

mutual

/-- The kind stored at `target` in a property below the segments `above`. -/
def kindIn? (target : FieldPath) (above : List String) : Property → Option Kind
  | ⟨name, storedAs, kind, properties⟩ =>
    let segments := above ++ [storedAs.getD name]
    if FieldPath.ofSegments segments = target then some kind
    else kindAmong? target segments properties

/-- The kind stored at `target` in the first of the properties that has it. -/
def kindAmong? (target : FieldPath) (above : List String) : List Property → Option Kind
  | [] => none
  | p :: ps => match kindIn? target above p with
    | some kind => some kind
    | none => kindAmong? target above ps

end

/-- The kind stored at a storage path. -/
def typeOf (e : Entity) (field : FieldPath) : Except Fault Kind :=
  match kindAmong? field [] e.properties with
  | some kind => .ok kind
  | none => .error (.unknownProperty field.text)

end Entity

/-! ### JSON -/

namespace Property

mutual

/-- The JSON of a property: what is absent or empty is left out. -/
def toJson : Property → Json
  | ⟨name, storedAs, kind, properties⟩ =>
    .object ([("name", .string name)] ++ (storedAs.map fun s => ("field", Json.string s)).toList ++
      [("kind", .string kind.name)] ++
      if properties.isEmpty then [] else [("properties", .array (toJsons properties))])

def toJsons : List Property → List Json
  | [] => []
  | p :: ps => toJson p :: toJsons ps

end

mutual

def ofJson? : Json → Option Property
  | .object fields => do
    let name ← Json.required Json.string? (← Json.field? "name" fields)
    let storedAs ← Json.optional Json.string? (← Json.field? "field" fields)
    let kind ← Json.required Kind.ofJson? (← Json.field? "kind" fields)
    let _ ← Json.field? "properties" fields
    return ⟨name, storedAs, kind, ← nested? fields⟩
  | .array [name, storedAs, kind] => do
    return ⟨← name.string?, ← Json.optional Json.string? (some storedAs), ← Kind.ofJson? kind, []⟩
  | .array [name, storedAs, kind, properties] => do
    return ⟨← name.string?, ← Json.optional Json.string? (some storedAs), ← Kind.ofJson? kind,
      ← list? properties⟩
  | _ => none

/-- Reads the nested properties among the fields of a property; there may be none. -/
def nested? : List (String × Json) → Option (List Property)
  | [] => some []
  | (name, j) :: fields => if name = "properties" then list? j else nested? fields

def list? : Json → Option (List Property)
  | .array items => items? items
  | _ => none

/-- Reads the items of an array of properties. -/
def items? : List Json → Option (List Property)
  | [] => some []
  | j :: js => do return (← ofJson? j) :: (← items? js)

end

end Property

namespace Entity

/-- The JSON of an entity: an absent alias is left out. -/
def toJson (e : Entity) : Json :=
  .object ([("name", .string e.name)] ++ (e.aliasName.map fun s => ("type_alias", Json.string s)).toList ++
    [("properties", .array (Property.toJsons e.properties))])

def ofJson? (j : Json) : Option Entity := do
  match ← j.record? ["name", "type_alias", "properties"] with
  | [name, aliasName, properties] =>
    return ⟨← Json.required Json.string? name, ← Json.optional Json.string? aliasName,
      ← Json.withDefault [] Property.list? properties⟩
  | _ => none

end Entity

end DocQuery
