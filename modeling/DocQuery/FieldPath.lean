import DocQuery.Quoted
/-!
# Storage paths

Where a property is stored in a document: quoted segments between dots.
-/

namespace DocQuery

/-- The pieces of a text between the characters `c`, at least one. -/
def splitOn (c : Char) : List Char → List (List Char)
  | [] => [[]]
  | d :: ds =>
    if d = c then [] :: splitOn c ds
    else match splitOn c ds with
      | [] => [[d]]
      | piece :: pieces => (d :: piece) :: pieces

/-- The segments of a dotted path. -/
def dottedSegments (path : String) : List String := (splitOn '.' path.toList).map String.ofList

/-- A storage path as it is written in a statement. -/
structure FieldPath where
  text : String
deriving DecidableEq

namespace FieldPath

/-- The path of the given segments, each of them quoted. -/
def ofSegments (segments : List String) : FieldPath :=
  ⟨String.intercalate "." (segments.map Quoted.identifier)⟩

/-- The path of a key. A key that is quoted already or calls a function is kept as it is, any
other is quoted segment by segment. -/
def ofKey (key : String) : FieldPath :=
  if Quoted.isQuoted key ∨ '(' ∈ key.toList then ⟨key⟩ else ofSegments (dottedSegments key)

/-- A character that a parameter name may keep. -/
def isNameChar (c : Char) : Bool := c.isAlphanum || c == '_'

/-- The characters of a parameter name after the character `last`: a dot becomes an underscore
unless it would start the name or follow another. -/
def nameChars (last : Option Char) : List Char → List Char
  | [] => []
  | c :: cs =>
    if isNameChar c then c :: nameChars (some c) cs
    else if c = '.' ∧ last.isSome ∧ last ≠ some '_' then '_' :: nameChars (some '_') cs
    else nameChars last cs

/-- The name of a parameter that is compared with the field. -/
def parameterName (path : FieldPath) : String :=
  match nameChars none path.text.toList with
  | [] => "p"
  | cs => String.ofList cs

end FieldPath

end DocQuery
