import DocQuery.Proofs.MethodName.Partition
/-!
# No part of a name is lost

A name that is decoded is its verb, its subject and the texts of its conditions and of its order,
each of them once and in their order (`decode_loses_nothing`).
-/

namespace DocQuery.MethodName

/-! ### What texts say -/

/-- The text says the condition, given whether all conditions ignore letter case. -/
def SaysCondition (all : Bool) (c : Condition) (text : List Char) : Prop :=
  text ≠ [] ∧ condition all text = .ok c

/-- The text of the groups, if there are any: the texts of the conditions with `And` between those
of one group and `Or` between groups. -/
def SaysGroups (all : Bool) (groups : List (List Condition)) (text : List Char) : Prop :=
  groups = [] ∧ text = [] ∨
    SpellsJoined (SpellsJoined (SaysCondition all) "And") "Or" groups text

/-- The order is that of the property, in the given direction. -/
structure IsOrderOf (piece : List Char × Direction) (o : Order) : Prop where
  property : propertyPath piece.1 = .ok o.property
  direction : o.direction = piece.2
  ignoreCase : o.ignoreCase = false

/-- The text of the order, if there is one. -/
def SaysSort (sort : List Order) (text : List Char) : Prop :=
  sort = [] ∧ text = [] ∨ ∃ pieces rest, JoinsOrders pieces rest ∧
    List.Forall₂ IsOrderOf pieces sort ∧ text = "OrderBy".toList ++ rest

/-- The text behind `By`: without the word that ignores letter case everywhere it is the text of the
conditions and that of the order. -/
def SaysPredicate (groups : List (List Condition)) (sort : List Order) (rest : List Char) : Prop :=
  ∃ all conditions order, Strips all rest (conditions ++ order) ∧ SaysGroups all groups conditions ∧
    SaysSort sort order

/-! ### Conditions -/

variable {groups : List (List Condition)} {sort : List Order} {text : List Char} {all : Bool}

/-- The items of a text are what its pieces say. -/
lemma spellsJoined_of_mapM {α : Type} {f : List Char → Except Fault α} {word : String}
    (hword : word.toList ≠ []) (htext : text ≠ []) {as : List α}
    (h : (splitAtWord word text).mapM f = .ok as) :
    SpellsJoined (fun a text => text ≠ [] ∧ f text = .ok a) word as text := by
  apply (joined_splitAtWord hword htext).forall₂ (forall₂_of_mapM_eq_ok h)
  rintro piece a text ⟨rfl, hne⟩ ha
  exact ⟨hne, ha⟩

lemma saysGroups_of_conditionGroups (h : conditionGroups all text = .ok groups) :
    SaysGroups all groups text := by
  rw [conditionGroups] at h
  split at h
  · next hempty =>
    obtain rfl := Except.ok.inj h
    exact .inl ⟨rfl, by simpa using hempty⟩
  · next hempty =>
    have hgroups := spellsJoined_of_mapM (by decide) (by simpa using hempty) h
    refine .inr (hgroups.forall₂ (List.forall₂_same.mpr fun _ _ => rfl) ?_)
    rintro group _ text ⟨hne, hgroup⟩ rfl
    exact spellsJoined_of_mapM (by decide) hne hgroup

lemma SaysGroups.ne_nil (h : SaysGroups all groups text) : ∀ group ∈ groups, group ≠ [] := by
  rcases h with ⟨rfl, -⟩ | h
  · simp
  · exact h.forall_mem fun group text hgroup => hgroup.ne_nil

/-! ### Order -/

lemma JoinsOrders.ne_nil {pieces : List (List Char × Direction)} (h : JoinsOrders pieces text) :
    pieces ≠ [] := by
  cases h <;> simp

lemma exists_of_orders (h : orders text = .ok sort) :
    ∃ pieces, JoinsOrders pieces text ∧ List.Forall₂ IsOrderOf pieces sort := by
  rw [orders] at h
  split at h
  · simp at h
  · next hpieces =>
    refine ⟨orderPieces 0 [] text, joinsOrders_orderPieces [] text ?_, ?_⟩
    · rintro rfl
      exact hpieces rfl
    · refine (forall₂_of_mapM_eq_ok h).imp ?_
      rintro ⟨property, d⟩ o ho
      obtain ⟨path, hpath, ho⟩ := exists_of_bind_eq_ok ho
      obtain rfl := Except.ok.inj ho
      exact ⟨hpath, rfl, rfl⟩

/-! ### The whole name -/

/-- Something stands behind `By`, and all of it says something. -/
lemma saysPredicate_of_predicateOf {method : String} {rest : List Char}
    (h : predicateOf method (some rest) = .ok (groups, sort)) :
    SaysPredicate groups sort rest ∧ (groups ≠ [] ∨ sort ≠ []) := by
  have hstrips := strips_withoutAllIgnoreCase? rest
  simp only [predicateOf] at h
  split at h
  · next before order hcut =>
    obtain ⟨groups', hgroups, h⟩ := exists_of_bind_eq_ok h
    obtain ⟨sort', hsort, h⟩ := exists_of_bind_eq_ok h
    obtain ⟨rfl, rfl⟩ := Prod.mk.inj (Except.ok.inj h)
    obtain ⟨pieces, hpieces, horders⟩ := exists_of_orders hsort
    rw [append_of_cutAt? hcut] at hstrips
    refine ⟨⟨_, before, _, hstrips, saysGroups_of_conditionGroups hgroups,
      .inr ⟨pieces, order, hpieces, horders, rfl⟩⟩, .inr ?_⟩
    rintro rfl
    cases horders
    exact hpieces.ne_nil rfl
  · split at h
    · exact absurd h throw_bind_ne_ok
    · next hempty =>
      obtain ⟨groups', hgroups, h⟩ := exists_of_bind_eq_ok h
      obtain ⟨rfl, rfl⟩ := Prod.mk.inj (Except.ok.inj h)
      have htexts := saysGroups_of_conditionGroups hgroups
      refine ⟨⟨_, _, [], by rwa [List.append_nil], htexts, .inl ⟨rfl, rfl⟩⟩, .inl ?_⟩
      rcases htexts with ⟨-, hnil⟩ | hjoined
      · simp [hnil] at hempty
      · exact hjoined.ne_nil

lemma conditions_ne_nil {m : MethodName} (hgroups : ∀ group ∈ m.groups, group ≠ [])
    (hne : m.groups ≠ []) : m.conditions ≠ [] := by
  obtain ⟨group, hgroup⟩ := List.exists_mem_of_ne_nil _ hne
  intro hnil
  exact hgroups group hgroup (List.flatten_eq_nil_iff.mp hnil group hgroup)

/-- A name that is decoded is a verb and a subject without `By`, which may be followed by `By` and a
text of which every part is read once and in its order: conditions in their groups, and orders with
their directions. If a `By` stands anywhere behind the verb, there is a condition or an order. -/
theorem decode_loses_nothing {name : String} {m : MethodName} (h : decode name = .ok m) :
    ∃ (verb : String) (subject behind : List Char), (verb, m.projection) ∈ verbs ∧
      name.toList = verb.toList ++ (subject ++ behind) ∧ ¬ "By".toList <:+: subject ∧
      isDistinct subject = m.distinct ∧ limitOf subject = .ok m.limit ∧
      (behind = [] ∧ m.groups = [] ∧ m.sort = [] ∨
        ∃ rest, behind = "By".toList ++ rest ∧ SaysPredicate m.groups m.sort rest) ∧
      (∀ group ∈ m.groups, group ≠ []) ∧
      ("By".toList <:+: subject ++ behind → m.conditions ≠ [] ∨ m.sort ≠ []) := by
  unfold decode at h
  split at h
  · next projection rest hverb =>
    split at h
    · next subject predicate hsubject =>
      obtain ⟨limit, hlimit, h⟩ := exists_of_bind_eq_ok h
      obtain ⟨⟨groups, sort⟩, hpredicate, h⟩ := exists_of_bind_eq_ok h
      obtain rfl := Except.ok.inj h
      obtain ⟨verb, hmem, hname⟩ := mem_of_verb? hverb
      obtain ⟨rfl, hfree⟩ := append_of_subject? hsubject
      refine ⟨verb, subject, behindSubject predicate, hmem, hname, hfree, rfl, hlimit, ?_⟩
      cases predicate with
      | none =>
        obtain ⟨rfl, rfl⟩ := Prod.mk.inj (Except.ok.inj hpredicate)
        refine ⟨.inl ⟨rfl, rfl, rfl⟩, by simp, ?_⟩
        intro hby
        rw [behindSubject, List.append_nil] at hby
        exact absurd hby hfree
      | some rest =>
        obtain ⟨htexts, hne⟩ := saysPredicate_of_predicateOf hpredicate
        obtain ⟨all, conditions, order, hstrips, hgroups, hsort⟩ := htexts
        refine ⟨.inr ⟨rest, rfl, all, conditions, order, hstrips, hgroups, hsort⟩,
          hgroups.ne_nil, ?_⟩
        intro _
        rcases hne with hne | hne
        · exact .inl (conditions_ne_nil hgroups.ne_nil hne)
        · exact .inr hne
    · cases h
  · cases h

/-- Deletes by a name and an age, or by an age, in any letter case. -/
def deleteTwoGroups : String := "deleteByNameAndAgeBetweenOrAgeAllIgnoreCaseOrderByNameDescAge"

set_option maxRecDepth 4000 in
theorem deleteTwoGroups_loses_nothing :
    ∃ m, decode deleteTwoGroups = .ok m ∧
      ∃ (verb : String) (subject behind : List Char), (verb, m.projection) ∈ verbs ∧
        deleteTwoGroups.toList = verb.toList ++ (subject ++ behind) ∧
        (∀ group ∈ m.groups, group ≠ []) ∧
        ("By".toList <:+: subject ++ behind → m.conditions ≠ [] ∨ m.sort ≠ []) := by
  obtain ⟨m, hm⟩ := exists_of_isOk (x := decode deleteTwoGroups) (by decide)
  obtain ⟨verb, subject, behind, hverb, hname, -, -, -, -, hgroups, hby⟩ := decode_loses_nothing hm
  exact ⟨m, hm, verb, subject, behind, hverb, hname, hgroups, hby⟩

end DocQuery.MethodName
