import DocQuery.MethodName.Decode
import DocQuery.Proofs.MethodName.Words
/-!
# How method names are spelled

What a method name says can be spelled in several ways: verbs and keywords have synonyms, the subject
may bear a name, and the last direction of an order may be left out. `Spells m name` says that `name`
is one of the spellings of `m`. Not everything can be spelled (`IsSpellable`): properties must not
contain words that mean something in a name.
-/

namespace DocQuery.MethodName

/-! ### Properties -/

/-- The capitalized words of a text. -/
def wordsOf (text : String) : List (List Char) := text.toList.splitBy fun _ c => c.isLower

/-- The words that mean something behind the subject of a name and stand in no keyword. -/
def plainWords : List (List Char) :=
  ["And", "Or", "All", "Ignore", "Ignoring", "Case", "Asc", "Desc"].map String.toList

/-- The words that mean something behind the subject of a name. -/
def reservedWords : List (List Char) :=
  (Condition.Kind.all.flatMap Condition.Kind.keywords).flatMap wordsOf ++ plainWords

/-- The words of a segment of a property. An acronym at its start would keep its capital letters. -/
structure IsSegment (words : List (List Char)) : Prop where
  isWord : ∀ w ∈ words, IsWord w
  free : ∀ w ∈ words, w ∉ reservedWords
  first : ∃ w ∈ words.head?, 2 ≤ w.length
  order : ¬ "OrderBy".toList <:+: words.flatten

/-- A text with its first letter in lower case. -/
def lowerFirst : List Char → List Char
  | [] => []
  | c :: cs => c.toLower :: cs

/-- A text with its first letter in upper case. -/
def upperFirst : List Char → List Char
  | [] => []
  | c :: cs => c.toUpper :: cs

/-- A segment of a property that consists of words, the first one in lower case. -/
def IsSpellableSegment (segment : List Char) : Prop :=
  ∃ words, IsSegment words ∧ segment = lowerFirst words.flatten

/-- A property whose segments consist of words. -/
def IsSpellableProperty (property : String) : Prop :=
  ∀ segment ∈ splitOn '.' property.toList, IsSpellableSegment segment

/-- A property as it is spelled in a name: its segments with underscores between them. -/
def propertyText (property : String) : List Char :=
  ['_'].intercalate ((splitOn '.' property.toList).map upperFirst)

/-! ### Conditions -/

/-- The keywords of a kind. It has none if the property is just compared for equality. -/
def kindSpellings : Condition.Kind → List String
  | .is => "" :: Condition.Kind.is.keywords
  | kind => kind.keywords

/-- The words for letter case behind a condition of its own. -/
def letterCaseSpellings : Condition.LetterCase → List String
  | .ignored => ["IgnoreCase", "IgnoringCase"]
  | _ => [""]

/-- The text of a condition: its property, a keyword of its kind, and whether it ignores letter
case. -/
def SpellsCondition (c : Condition) (text : List Char) : Prop :=
  ∃ keyword ∈ kindSpellings c.kind, ∃ suffix ∈ letterCaseSpellings c.letterCase,
    text = propertyText c.property ++ (keyword.toList ++ suffix.toList)

/-- The texts of one or more items with a word between them. -/
inductive SpellsJoined {α : Type} (Spells : α → List Char → Prop) (word : String) :
    List α → List Char → Prop where
  | single {a : α} {text : List Char} (h : Spells a text) : SpellsJoined Spells word [a] text
  | cons {a : α} {as : List α} {text rest : List Char} (h : Spells a text)
      (hrest : SpellsJoined Spells word as rest) :
      SpellsJoined Spells word (a :: as) (text ++ (word.toList ++ rest))

/-- The text of the conditions, if there are any. -/
def SpellsGroups (groups : List (List Condition)) (text : List Char) : Prop :=
  groups = [] ∧ text = [] ∨
    SpellsJoined (SpellsJoined SpellsCondition "And") "Or" groups text

/-- The text behind the conditions that lets all of them ignore letter case where that is possible:
not if one of them must not, and always if one of them does. -/
def SpellsEverywhere (conditions : List Condition) (text : List Char) : Prop :=
  (∀ c ∈ conditions, c.letterCase ≠ .exact) ∧
      text ∈ ["AllIgnoreCase", "AllIgnoringCase"].map String.toList ∨
    (∀ c ∈ conditions, c.letterCase ≠ .ignoredWherePossible) ∧ text = []

/-! ### Orders -/

/-- The text of an order: properties with their directions. The last one may be left out if it is
ascending. -/
inductive SpellsOrders : List Order → List Char → Prop where
  | ascending (property : String) : SpellsOrders [⟨property, .asc, false⟩] (propertyText property)
  | single (property : String) (d : Direction) :
      SpellsOrders [⟨property, d, false⟩] (propertyText property ++ (directionWord d).toList)
  | cons (property : String) (d : Direction) {orders : List Order} {rest : List Char}
      (h : SpellsOrders orders rest) :
      SpellsOrders (⟨property, d, false⟩ :: orders)
        (propertyText property ++ ((directionWord d).toList ++ rest))

/-- The text of an order, if there is one. -/
def SpellsSort (sort : List Order) (text : List Char) : Prop :=
  sort = [] ∧ text = [] ∨ ∃ rest, SpellsOrders sort rest ∧ text = "OrderBy".toList ++ rest

/-! ### Subjects -/

/-- The text of a limit: a word and a number, which may be left out if it is one. -/
def SpellsLimit (limit : UInt64) (text : List Char) : Prop :=
  ∃ word ∈ ["First", "Top"], text = word.toList ++ (toString limit.toNat).toList ∨
    limit = 1 ∧ text = word.toList

/-- The text in front of the name of the subject. -/
inductive SpellsModifiers : Bool → Option UInt64 → List Char → Prop where
  | none : SpellsModifiers false none []
  | distinct : SpellsModifiers true none "Distinct".toList
  | limit {n : UInt64} {text : List Char} (h : SpellsLimit n text) :
      SpellsModifiers false (some n) text
  | distinctLimit {n : UInt64} {text : List Char} (h : SpellsLimit n text) :
      SpellsModifiers true (some n) ("Distinct".toList ++ text)
  | limitDistinct {n : UInt64} {text : List Char} (h : SpellsLimit n text) :
      SpellsModifiers true (some n) (text ++ "Distinct".toList)

/-- The words of the name of the subject, none at all if it has no name. The first one is no
modifier. -/
structure IsSubjectName (words : List (List Char)) : Prop where
  isWord : ∀ w ∈ words, IsWord w
  free : ∀ w ∈ words.head?, w ∉ ["Distinct", "First", "Top"].map String.toList
  noBy : ¬ "By".toList <:+: words.flatten

/-! ### Names -/

/-- The text behind `By`: conditions and order. -/
def SpellsPredicate (m : MethodName) (text : List Char) : Prop :=
  ∃ conditions everywhere order, SpellsGroups m.groups conditions ∧
    SpellsEverywhere m.conditions everywhere ∧ SpellsSort m.sort order ∧
    text = conditions ++ (everywhere ++ order)

/-- The text behind the subject: none if the method has neither conditions nor an order. -/
def SpellsRest (m : MethodName) (text : List Char) : Prop :=
  if m.groups = [] ∧ m.sort = [] then text = []
  else ∃ predicate, SpellsPredicate m predicate ∧ text = "By".toList ++ predicate

/-- The name says what `m` says: a verb, the subject, and behind `By` the conditions and the order. -/
def Spells (m : MethodName) (name : String) : Prop :=
  ∃ verb modifiers words rest, (verb, m.projection) ∈ verbs ∧
    SpellsModifiers m.distinct m.limit modifiers ∧ IsSubjectName words ∧ SpellsRest m rest ∧
    name.toList = verb.toList ++ (modifiers ++ words.flatten ++ rest)

/-- What a method can say that a name can spell. Letter case is ignored where possible in all
conditions that do not insist, or in none. -/
structure IsSpellable (m : MethodName) : Prop where
  groups : [] ∉ m.groups
  conditions : ∀ c ∈ m.conditions, IsSpellableProperty c.property
  letterCase : (∃ c ∈ m.conditions, c.letterCase = .ignoredWherePossible) →
    ∀ c ∈ m.conditions, c.letterCase ≠ .exact
  sort : ∀ o ∈ m.sort, IsSpellableProperty o.property ∧ o.ignoreCase = false

end DocQuery.MethodName
