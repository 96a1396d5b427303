import DocQuery.Json.Reader
import DocQuery.Query.Statement
/-!
# Configurations

A configuration names the bucket, the style of placeholders and the entities
that requests can be about. It is read from a JSON file.
-/

namespace DocQuery

structure Config where
  bucket : String
  style : PlaceholderStyle
  /-- The field of a document that names its entity. -/
  typeKey : String
  entities : List Entity

/-- Why a configuration does not serve. -/
inductive ConfigFault where
  | notFound (path : String)
  | unreadable (path reason : String)
  | malformed (path : String)
  | unknownEntity (name : String)
deriving DecidableEq

namespace Config

/-- Where the configuration is if nothing else is said. -/
def defaultPath : String := ".n1ql_compiler.json"

/-- What a configuration can look like. -/
def exampleText : String :=
  "\x7b
  \"bucket\": \"travel-sample\",
  \"placeholders\": \"positional\",
  \"entities\": [
    \x7b \"name\": \"Person\",
      \"properties\": [
        \x7b \"name\": \"firstname\", \"kind\": \"string\" \x7d,
        \x7b \"name\": \"age\", \"kind\": \"number\" \x7d
      ] \x7d
  ]
\x7d"

/-- The entity of a name: the first that bears it. -/
def entity? (c : Config) (name : String) : Option Entity := c.entities.find? (·.name == name)

/-- What queries about an entity are compiled against. Documents of other entities are kept out. -/
def context (c : Config) (name : String) : Except ConfigFault Context :=
  match c.entity? name with
  | some entity => .ok ⟨c.bucket, c.style, entity, some ⟨c.typeKey, entity.typeAlias⟩⟩
  | none => .error (.unknownEntity name)

/-! ### JSON -/

def toJson (c : Config) : Json :=
  .object [("bucket", .string c.bucket), ("placeholders", .string c.style.name),
    ("type_key", .string c.typeKey), ("entities", .array (c.entities.map Entity.toJson))]

/-- Reads a configuration. All but the bucket may be left out. -/
def ofJson? (j : Json) : Option Config := do
  match ← j.record? ["bucket", "placeholders", "type_key", "entities"] with
  | [bucket, style, typeKey, entities] =>
    return {
      bucket := ← Json.required Json.string? bucket
      style := ← Json.withDefault .positional PlaceholderStyle.ofJson? style
      typeKey := ← Json.withDefault "_class" Json.string? typeKey
      entities := ← Json.withDefault [] (Json.list? Entity.ofJson?) entities }
  | _ => none

/-- Reads the text of a configuration. -/
def parse? (text : String) : Option Config := do ofJson? (← Json.parse? text)

end Config

/-- The wording of a fault of the configuration. -/
def ConfigFault.message : ConfigFault → String
  | .notFound path =>
    "Configuration file not found: " ++ path ++ "\n\nPlease create it, for example:\n\n" ++
      Config.exampleText
  | .unreadable path reason => "Failed to read " ++ path ++ ": " ++ reason
  | .malformed path => "Invalid JSON in " ++ path
  | .unknownEntity name => "Entity '" ++ name ++ "' is not mapped in the configuration"

end DocQuery
