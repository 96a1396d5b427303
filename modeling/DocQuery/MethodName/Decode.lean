import DocQuery.Fault
import DocQuery.FieldPath
import DocQuery.Letter.Case
import DocQuery.MethodName.Basic
/-!
# Decoding method names

A name is a verb, a subject, and behind `By` the conditions and the order:
`findDistinctTop3PeopleByLastnameAndAgeBetweenOrderByAgeDesc`. Words have no
separators but their capital letters, so that a keyword counts only where a
capital letter follows it.
-/

namespace DocQuery.MethodName

open Letter (isCapital isUppercase isWord isDecimalDigit)

/-! ### Words -/

/-- Whether a word can end before the text: nothing follows, or a capital letter. -/
def endsWord : List Char → Bool
  | [] => true
  | c :: _ => isCapital c

/-- What follows the first of the words that the text starts with. -/
def afterWord? (words : List String) (cs : List Char) : Option (List Char) :=
  words.findSome? fun word => word.toList.isPrefixOf? cs

/-- What comes before and after the first place of a word. -/
def cutAt? (word : List Char) : List Char → Option (List Char × List Char)
  | [] => none
  | c :: cs =>
    match word.isPrefixOf? (c :: cs) with
    | some rest => some ([], rest)
    | none => (cutAt? word cs).map fun (before, rest) => (c :: before, rest)

/-- Whether the text starts with the word and an uppercase character behind it. -/
def breaksAt (word cs : List Char) : Bool :=
  match word.isPrefixOf? cs with
  | some (c :: _) => isUppercase c
  | _ => false

/-- A character in front of the first piece. -/
def consPiece (c : Char) : List (List Char) → List (List Char)
  | [] => [[c]]
  | piece :: pieces => (c :: piece) :: pieces

/-- The pieces of a text between the places where it breaks at the word. A piece has at least one
character before the next break is looked for. `skip` characters of a word are still to be passed
over, and `fresh` says that a piece starts here. -/
def splitPieces (word : List Char) : Nat → Bool → List Char → List (List Char)
  | _, _, [] => [[]]
  | skip + 1, _, _ :: cs => splitPieces word skip true cs
  | 0, fresh, c :: cs =>
    if !fresh && breaksAt word (c :: cs) then [] :: splitPieces word (word.length - 1) true cs
    else consPiece c (splitPieces word 0 false cs)

/-- The pieces of a text between the places of the word that an uppercase character follows. -/
def splitAtWord (word : String) (cs : List Char) : List (List Char) :=
  splitPieces word.toList 0 true cs

/-! ### Verb and subject -/

/-- The verbs and what they ask for. -/
def verbs : List (String × Projection) :=
  [("find", .entity), ("read", .entity), ("get", .entity), ("query", .entity),
    ("search", .entity), ("stream", .entity), ("count", .count), ("exists", .exists),
    ("delete", .delete), ("remove", .delete)]

/-- The verb that the name starts with, and what follows it. -/
def verb? (cs : List Char) : Option (Projection × List Char) :=
  verbs.findSome? fun (verb, projection) =>
    (verb.toList.isPrefixOf? cs).map fun rest => (projection, rest)

/-- What comes before and after the first `By`, both on one line. -/
def cutAtBy? : List Char → Option (List Char × List Char)
  | [] => none
  | 'B' :: 'y' :: cs => some ([], cs)
  | c :: cs =>
    if c = '\n' then none else (cutAtBy? cs).map fun (before, rest) => (c :: before, rest)

/-- The subject, and what follows `By` if the name has one. The subject starts with a capital
letter; without a `By` behind it, it is a single word. -/
def subject? : List Char → Option (List Char × Option (List Char))
  | [] => some ([], none)
  | 'B' :: 'y' :: cs => some ([], some cs)
  | c :: cs =>
    if isCapital c then
      match cutAtBy? cs with
      | some (before, rest) => some (c :: before, some rest)
      | none => if cs.all isWord then some (c :: cs, none) else none
    else none

/-- Whether the subject asks for different rows: `Distinct` as its first word, or as the second
after a limit. -/
def isDistinct (subject : List Char) : Bool :=
  let rest := match afterWord? ["First", "Top"] subject with
    | some rest => rest.dropWhile isDecimalDigit
    | none => subject
  (afterWord? ["Distinct"] rest).any endsWord

/-- The number that follows the digits read so far. -/
def limitValue (n : Nat) : List Char → Except Fault UInt64
  | [] => .ok (UInt64.ofNat n)
  | c :: cs =>
    if !c.isDigit then .error (.misuse .limitDigit)
    else
      let n := 10 * n + (c.toNat - 0x30)
      if UInt64.size ≤ n then .error (.misuse .limitOverflow) else limitValue n cs

/-- The limit of the subject: `First` or `Top` as its first word, or as the second after
`Distinct`, with a number or for a single row. -/
def limitOf (subject : List Char) : Except Fault (Option UInt64) :=
  let start := (afterWord? ["Distinct"] subject).getD subject
  match afterWord? ["First", "Top"] start with
  | none => .ok none
  | some rest =>
    if endsWord (rest.dropWhile isDecimalDigit) then
      match rest.takeWhile isDecimalDigit with
      | [] => .ok (some 1)
      | digits => (limitValue 0 digits).map some
    else .ok none

/-! ### Conditions -/

/-- The name with its first letter in lower case, unless it starts with an acronym. -/
def decapitalize : List Char → List Char
  | [] => []
  | [c] => Letter.lower c
  | c :: d :: cs =>
    if isUppercase c && isUppercase d then c :: d :: cs else Letter.lower c ++ d :: cs

/-- The logical path of a property reference, whose segments stand between underscores. -/
def propertyPath (source : List Char) : Except Fault String :=
  let segments := splitOn '_' source
  if segments.any (·.isEmpty) then .error (.misuse (.emptySegment (String.ofList source)))
  else .ok (String.intercalate "." (segments.map fun s => String.ofList (decapitalize s)))

/-- The kind that a condition ends with, and the property before it. A text without a keyword
behind a property is a property that is compared for equality. -/
def detectKind (source : List Char) : Condition.Kind × List Char :=
  let found := Condition.Kind.all.findSome? fun kind =>
    kind.keywords.findSome? fun keyword =>
      match keyword.toList.isSuffixOf? source with
      | some (c :: cs) => some (kind, c :: cs)
      | _ => none
  found.getD (.is, source)

/-- The condition that a piece of the name says. -/
def condition (allIgnoreCase : Bool) (source : List Char) : Except Fault Condition := do
  let stripped := ["IgnoreCase", "IgnoringCase"].findSome? fun word => word.toList.isSuffixOf? source
  let letterCase : Condition.LetterCase := match stripped with
    | some _ => .ignored
    | none => if allIgnoreCase then .ignoredWherePossible else .exact
  let (kind, property) := detectKind (stripped.getD source)
  return ⟨kind, ← propertyPath property, letterCase⟩

/-- The groups of conditions between `Or`, and the conditions of a group between `And`. -/
def conditionGroups (allIgnoreCase : Bool) (source : List Char) :
    Except Fault (List (List Condition)) :=
  if source.isEmpty then .ok []
  else (splitAtWord "Or" source).mapM fun group =>
    (splitAtWord "And" group).mapM (condition allIgnoreCase)

/-- The text without the words that ignore letter case in all conditions, if it has them. -/
def withoutAllIgnoreCase? : List Char → Option (List Char)
  | [] => none
  | c :: cs =>
    match afterWord? ["AllIgnoreCase", "AllIgnoringCase"] (c :: cs) with
    | some rest => some rest
    | none => (withoutAllIgnoreCase? cs).map (c :: ·)

/-! ### Order -/

/-- The word for a direction. -/
def directionWord : Direction → String
  | .asc => "Asc"
  | .desc => "Desc"

/-- The direction that the text starts with, if nothing or an uppercase character follows. -/
def directionAt? (cs : List Char) : Option Direction :=
  [Direction.asc, .desc].find? fun direction =>
    match (directionWord direction).toList.isPrefixOf? cs with
    | some [] => true
    | some (c :: _) => isUppercase c
    | none => false

/-- The properties of an order and their directions, ascending where none is said. `skip`
characters of a direction are still to be passed over, and `property` is what stands before. -/
def orderPieces : Nat → List Char → List Char → List (List Char × Direction)
  | _, property, [] => if property.isEmpty then [] else [(property, .asc)]
  | skip + 1, property, _ :: cs => orderPieces skip property cs
  | 0, property, c :: cs =>
    match if property.isEmpty then none else directionAt? (c :: cs) with
    | some direction =>
      (property, direction) :: orderPieces ((directionWord direction).length - 1) [] cs
    | none => orderPieces 0 (property ++ [c]) cs

/-- The order that the text says; it names at least one property. -/
def orders (source : List Char) : Except Fault (List Order) :=
  match orderPieces 0 [] source with
  | [] => .error (.misuse .emptyOrdering)
  | pieces => pieces.mapM fun (property, direction) =>
      return ⟨← propertyPath property, direction, false⟩

/-! ### The whole name -/

/-- What the text behind `By` says, or that there is none. -/
def predicateOf (method : String) :
    Option (List Char) → Except Fault (List (List Condition) × List Order)
  | none => .ok ([], [])
  | some source => do
    let stripped := withoutAllIgnoreCase? source
    let source := stripped.getD source
    match cutAt? "OrderBy".toList source with
    | some (before, order) =>
      let groups ← conditionGroups stripped.isSome before
      return (groups, ← orders order)
    | none =>
      if source.isEmpty then throw (.misuse (.missingConditions method))
      return (← conditionGroups stripped.isSome source, [])

/-- What a method name says. -/
def decode (method : String) : Except Fault MethodName := do
  let some (projection, rest) := verb? method.toList
    | throw (.misuse (.unknownVerb method))
  let some (subject, predicate) := subject? rest
    | throw (.misuse (.unknownVerb method))
  let limit ← limitOf subject
  let (groups, sort) ← predicateOf method predicate
  return ⟨projection, isDistinct subject, limit, groups, sort⟩

end DocQuery.MethodName
