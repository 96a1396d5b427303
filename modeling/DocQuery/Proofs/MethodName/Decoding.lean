import DocQuery.Proofs.MethodName.Clauses
import DocQuery.Proofs.MethodName.Subjects
/-!
# Method names are decoded to what they spell

Whatever a method can say and a name can spell has a spelling, and the decoder reads each of its
spellings as what it says (`decode_of_spells`).
-/

namespace DocQuery.MethodName

open Condition (LetterCase)

variable {m : MethodName}

/-! ### Decoding -/

lemma verb?_append {verb : String} {projection : Projection} (h : (verb, projection) ∈ verbs)
    (rest : List Char) : verb? (verb.toList ++ rest) = some (projection, rest) := by
  simp only [verbs, List.mem_cons, List.not_mem_nil, or_false, Prod.mk.injEq] at h
  rcases h with ⟨rfl, rfl⟩ | ⟨rfl, rfl⟩ | ⟨rfl, rfl⟩ | ⟨rfl, rfl⟩ | ⟨rfl, rfl⟩ | ⟨rfl, rfl⟩ |
    ⟨rfl, rfl⟩ | ⟨rfl, rfl⟩ | ⟨rfl, rfl⟩ | ⟨rfl, rfl⟩ <;> rfl

/-- The text behind the subject is told apart from it and read. -/
lemma exists_predicate {subject rest : List Char} (hm : IsSpellable m) (hsubject : IsSubject subject)
    (h : SpellsRest m rest) (method : String) :
    ∃ predicate, subject? (subject ++ rest) = some (subject, predicate) ∧
      predicateOf method predicate = .ok (m.groups, m.sort) := by
  unfold SpellsRest at h
  split at h
  · next hnone =>
    subst h
    refine ⟨none, ?_, ?_⟩
    · rw [List.append_nil]
      exact subject?_alone hsubject
    · rw [hnone.1, hnone.2]
      rfl
  · next hsome =>
    obtain ⟨predicate, hpredicate, rfl⟩ := h
    exact ⟨some predicate, subject?_by hsubject predicate,
      predicateOf_of_spells hm hsome hpredicate method⟩

lemma decode_eq_ok {name : String} (hm : IsSpellable m) (h : Spells m name) :
    decode name = .ok m := by
  obtain ⟨verb, modifiers, words, rest, hverb, hmodifiers, hwords, hrest, hname⟩ := h
  obtain ⟨predicate, hsubject, hread⟩ :=
    exists_predicate hm (hmodifiers.isSubject hwords) hrest name
  simp only [decode, hname, verb?_append hverb, hsubject, limitOf_of_spells hmodifiers hwords, hread,
    isDistinct_of_spells hmodifiers hwords]
  rfl

/-! ### Spelling -/

lemma exists_spellsCondition (c : Condition) : ∃ text, SpellsCondition c text := by
  have hkeyword : ∃ keyword, keyword ∈ kindSpellings c.kind := by
    cases c.kind <;> exact ⟨_, List.mem_cons_self⟩
  have hsuffix : ∃ suffix, suffix ∈ letterCaseSpellings c.letterCase := by
    cases c.letterCase <;> exact ⟨_, List.mem_cons_self⟩
  obtain ⟨keyword, hkeyword⟩ := hkeyword
  obtain ⟨suffix, hsuffix⟩ := hsuffix
  exact ⟨_, keyword, hkeyword, suffix, hsuffix, rfl⟩

lemma exists_spellsJoined {α : Type} {Spelled : α → List Char → Prop} (word : String) {as : List α}
    (hne : as ≠ []) (h : ∀ a ∈ as, ∃ text, Spelled a text) :
    ∃ text, SpellsJoined Spelled word as text := by
  induction as with
  | nil => exact absurd rfl hne
  | cons a as ih =>
    obtain ⟨⟨text, htext⟩, has⟩ := List.forall_mem_cons.mp h
    by_cases hlast : as = []
    · subst hlast
      exact ⟨text, .single htext⟩
    · obtain ⟨rest, hrest⟩ := ih hlast has
      exact ⟨_, .cons htext hrest⟩

lemma exists_spellsGroups {groups : List (List Condition)} (h : [] ∉ groups) :
    ∃ text, SpellsGroups groups text := by
  by_cases hne : groups = []
  · exact ⟨[], .inl ⟨hne, rfl⟩⟩
  · obtain ⟨text, htext⟩ := exists_spellsJoined "Or" hne fun group hgroup =>
      exists_spellsJoined "And" (ne_of_mem_of_not_mem hgroup h) fun c _ => exists_spellsCondition c
    exact ⟨text, .inr htext⟩

lemma exists_spellsEverywhere {conditions : List Condition}
    (h : (∃ c ∈ conditions, c.letterCase = .ignoredWherePossible) →
      ∀ c ∈ conditions, c.letterCase ≠ .exact) : ∃ text, SpellsEverywhere conditions text := by
  by_cases hsome : ∃ c ∈ conditions, c.letterCase = .ignoredWherePossible
  · exact ⟨_, .inl ⟨h hsome, List.mem_cons_self⟩⟩
  · exact ⟨[], .inr ⟨fun c hc hcase => hsome ⟨c, hc, hcase⟩, rfl⟩⟩

lemma exists_spellsOrders {sort : List Order} (hne : sort ≠ [])
    (h : ∀ o ∈ sort, o.ignoreCase = false) : ∃ text, SpellsOrders sort text := by
  induction sort with
  | nil => exact absurd rfl hne
  | cons o sort ih =>
    obtain ⟨property, d, ignoreCase⟩ := o
    obtain ⟨hcase, hsort⟩ := List.forall_mem_cons.mp h
    obtain rfl : ignoreCase = false := hcase
    by_cases hlast : sort = []
    · subst hlast
      exact ⟨_, .single property d⟩
    · obtain ⟨rest, hrest⟩ := ih hlast hsort
      exact ⟨_, .cons property d hrest⟩

lemma exists_spellsSort {sort : List Order} (h : ∀ o ∈ sort, o.ignoreCase = false) :
    ∃ text, SpellsSort sort text := by
  by_cases hne : sort = []
  · exact ⟨[], .inl ⟨hne, rfl⟩⟩
  · obtain ⟨rest, hrest⟩ := exists_spellsOrders hne h
    exact ⟨_, .inr ⟨rest, hrest, rfl⟩⟩

lemma exists_spellsModifiers (distinct : Bool) (limit : Option UInt64) :
    ∃ text, SpellsModifiers distinct limit text := by
  have hlimit : ∀ n : UInt64, ∃ text, SpellsLimit n text :=
    fun n => ⟨_, "First", List.mem_cons_self, .inl rfl⟩
  match distinct, limit with
  | false, none => exact ⟨_, .none⟩
  | true, none => exact ⟨_, .distinct⟩
  | false, some n =>
    obtain ⟨text, htext⟩ := hlimit n
    exact ⟨_, .limit htext⟩
  | true, some n =>
    obtain ⟨text, htext⟩ := hlimit n
    exact ⟨_, .distinctLimit htext⟩

lemma exists_verb (projection : Projection) : ∃ verb, (verb, projection) ∈ verbs := by
  cases projection
  · exact ⟨"find", by decide⟩
  · exact ⟨"count", by decide⟩
  · exact ⟨"exists", by decide⟩
  · exact ⟨"delete", by decide⟩

/-- The subject needs no name. -/
lemma isSubjectName_nil : IsSubjectName [] := ⟨by simp, by simp, by decide⟩

lemma exists_spellsRest (hm : IsSpellable m) : ∃ text, SpellsRest m text := by
  unfold SpellsRest
  split
  · exact ⟨[], rfl⟩
  · obtain ⟨conditions, hconditions⟩ := exists_spellsGroups hm.groups
    obtain ⟨everywhere, heverywhere⟩ := exists_spellsEverywhere hm.letterCase
    obtain ⟨order, horder⟩ := exists_spellsSort fun o ho => (hm.sort o ho).2
    exact ⟨_, _, ⟨conditions, everywhere, order, hconditions, heverywhere, horder, rfl⟩, rfl⟩

lemma exists_spells (hm : IsSpellable m) : ∃ name, Spells m name := by
  obtain ⟨verb, hverb⟩ := exists_verb m.projection
  obtain ⟨modifiers, hmodifiers⟩ := exists_spellsModifiers m.distinct m.limit
  obtain ⟨rest, hrest⟩ := exists_spellsRest hm
  exact ⟨String.ofList _, verb, modifiers, [], rest, hverb, hmodifiers, isSubjectName_nil, hrest,
    String.toList_ofList⟩

/-- What a name can spell has a spelling, and each of its spellings is decoded to it. -/
theorem decode_of_spells (m : MethodName) (hm : IsSpellable m) :
    (∃ name, Spells m name) ∧ ∀ name, Spells m name → decode name = .ok m :=
  ⟨exists_spells hm, fun _ h => decode_eq_ok hm h⟩

/-- A method that asks for three different documents in an order. -/
def threePeople : MethodName where
  projection := .entity
  distinct := true
  limit := some 3
  groups :=
    [[⟨.startingWith, "address.zipCode", .ignored⟩, ⟨.between, "age", .ignoredWherePossible⟩],
      [⟨.is, "age", .ignoredWherePossible⟩]]
  sort := [⟨"age", .desc, false⟩, ⟨"address.zipCode", .asc, false⟩]

set_option maxRecDepth 4000 in
lemma isSpellable_threePeople : IsSpellable threePeople := by
  have hfree : ∀ w ∈ ["Address".toList, "Zip".toList, "Code".toList, "Age".toList],
      w ∉ reservedWords := by
    decide
  have haddress : IsSegment ["Address".toList] :=
    ⟨by decide, fun w hw => hfree w (List.mem_append_left _ hw), ⟨_, rfl, by decide⟩, by decide⟩
  have hzip : IsSegment ["Zip".toList, "Code".toList] :=
    ⟨by decide, fun w hw => hfree w (List.mem_cons_of_mem _ (List.mem_append_left _ hw)),
      ⟨_, rfl, by decide⟩, by decide⟩
  have hage : IsSegment ["Age".toList] := by
    refine ⟨by decide, fun w hw => hfree w ?_, ⟨_, rfl, by decide⟩, by decide⟩
    exact List.mem_append_right ["Address".toList, "Zip".toList, "Code".toList] hw
  have hzipCode : IsSpellableProperty "address.zipCode" :=
    isSpellableProperty_of_splitOn [["Address".toList], ["Zip".toList, "Code".toList]]
      (List.forall_mem_cons.mpr ⟨haddress, List.forall_mem_singleton.mpr hzip⟩) rfl
  have hageProperty : IsSpellableProperty "age" :=
    isSpellableProperty_of_splitOn [["Age".toList]] (List.forall_mem_singleton.mpr hage) rfl
  refine ⟨by decide, ?_, fun _ => by decide, ?_⟩
  · simp [threePeople, conditions, hzipCode, hageProperty]
  · simp [threePeople, hzipCode, hageProperty]

/-- One of its spellings. -/
def threePeopleName : String :=
  "findDistinctTop3PeopleByAddress_ZipCodeStartingWithIgnoreCaseAndAgeBetweenOrAge" ++
    "AllIgnoringCaseOrderByAgeDescAddress_ZipCode"

set_option maxRecDepth 4000 in
lemma spells_threePeopleName : Spells threePeople threePeopleName := by
  have hgroups : ∃ text, SpellsGroups threePeople.groups text ∧
      text = "Address_ZipCodeStartingWithIgnoreCaseAndAgeBetweenOrAge".toList :=
    ⟨_, .inr (.cons (.cons ⟨"StartingWith", by decide, "IgnoreCase", by decide, rfl⟩
      (.single ⟨"Between", by decide, "", by decide, rfl⟩))
      (.single (.single ⟨"", by decide, "", by decide, rfl⟩))), rfl⟩
  have hsort : ∃ text, SpellsSort threePeople.sort text ∧
      text = "OrderByAgeDescAddress_ZipCode".toList :=
    ⟨_, .inr ⟨_, .cons "age" .desc (.ascending "address.zipCode"), rfl⟩, rfl⟩
  obtain ⟨_, hgroups, rfl⟩ := hgroups
  obtain ⟨_, hsort, rfl⟩ := hsort
  have heverywhere : SpellsEverywhere threePeople.conditions "AllIgnoringCase".toList :=
    .inl ⟨by decide, by decide⟩
  have hrest : SpellsRest threePeople _ := ⟨_, ⟨_, _, _, hgroups, heverywhere, hsort, rfl⟩, rfl⟩
  exact ⟨"find", _, ["People".toList], _, by decide, .distinctLimit ⟨"Top", by decide, .inl rfl⟩,
    ⟨by decide, by decide, by decide⟩, hrest, rfl⟩

theorem threePeopleName_is_decoded :
    IsSpellable threePeople ∧ Spells threePeople threePeopleName ∧
      decode threePeopleName = .ok threePeople :=
  ⟨isSpellable_threePeople, spells_threePeopleName,
    (decode_of_spells threePeople isSpellable_threePeople).2 _ spells_threePeopleName⟩

end DocQuery.MethodName
