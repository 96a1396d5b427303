import DocQuery.Proofs.MethodName.Conditions
/-!
# Conditions and orders in method names

Behind `By` stand groups of conditions, words that ignore letter case in all of them, and an order.
The decoder takes this text apart where it was put together (`predicateOf_of_spells`).
-/

namespace DocQuery.MethodName

/-! ### Joined items -/

section Joined

variable {α : Type} {Spelled : α → List Char → Prop} {word : String} {words words' : List (List Char)}
  {as : List α} {text rest : List Char}

/-- Joined rows are a row without the words that neither the items nor the joining word contain. -/
lemma SpellsJoined.isRow (h : SpellsJoined Spelled word as text) (hword : IsTail words word.toList)
    (hne : word.toList ≠ []) (horder : ¬ "Order".toList <:+ word.toList)
    (hrow : ∀ a ∈ as, ∀ text, Spelled a text → IsRow words text) : IsRow words text := by
  induction h with
  | single h => exact hrow _ (List.mem_singleton_self _) _ h
  | cons h _ ih =>
    obtain ⟨ha, has⟩ := List.forall_mem_cons.mp hrow
    exact (ha _ h).append (hword.append_row hne horder (ih has))

lemma splitAtWord_row (hword : IsPiece word.toList) (hmem : word.toList ∈ words)
    (hrow : IsRow words text) : splitAtWord word text = [text] := by
  have hne := hrow.ne_nil
  obtain ⟨ps, hps, hfree, rfl⟩ := hrow.free
  refine splitAtWord_last hword hps (hfree _ hmem) fun h => hne ?_
  rw [h, List.flatten_nil]

lemma splitAtWord_row_append (hword : IsPiece word.toList) (hmem : word.toList ∈ words)
    (hrow : IsRow words text) (hrest : ∃ c cs, rest = c :: cs ∧ c.isUpper = true) :
    splitAtWord word (text ++ (word.toList ++ rest)) = text :: splitAtWord word rest := by
  have hne := hrow.ne_nil
  obtain ⟨ps, hps, hfree, rfl⟩ := hrow.free
  obtain ⟨c, cs, rfl, hc⟩ := hrest
  refine splitAtWord_cons hword hps (hfree _ hmem) (fun h => hne ?_) (isUppercase_of_isUpper hc)
  rw [h, List.flatten_nil]

/-- Joined rows start with a capital letter. -/
lemma SpellsJoined.starts (h : SpellsJoined Spelled word as text)
    (hrow : ∀ a ∈ as, ∀ text, Spelled a text → IsRow words text) :
    ∃ c cs, text = c :: cs ∧ c.isUpper = true := by
  cases h with
  | single h => exact (hrow _ (List.mem_singleton_self _) _ h).starts
  | cons h _ =>
    obtain ⟨c, cs, rfl, hc⟩ := (hrow _ List.mem_cons_self _ h).starts
    exact ⟨c, _, rfl, hc⟩

/-- What can be read of each item can be read of all of them between the joining words. -/
lemma SpellsJoined.mapM_splitAtWord {f : List Char → Except Fault α}
    (h : SpellsJoined Spelled word as text) (hword : IsPiece word.toList)
    (hmem : word.toList ∈ words) (hrow : ∀ a ∈ as, ∀ text, Spelled a text → IsRow words text)
    (hread : ∀ a ∈ as, ∀ text, Spelled a text → f text = .ok a) :
    (splitAtWord word text).mapM f = .ok as := by
  induction h with
  | single h =>
    obtain ⟨hrow, -⟩ := List.forall_mem_cons.mp hrow
    obtain ⟨hread, -⟩ := List.forall_mem_cons.mp hread
    rw [splitAtWord_row hword hmem (hrow _ h), List.mapM_cons, hread _ h]
    rfl
  | cons h hrest ih =>
    obtain ⟨hrow, hrows⟩ := List.forall_mem_cons.mp hrow
    obtain ⟨hread, hreads⟩ := List.forall_mem_cons.mp hread
    rw [splitAtWord_row_append hword hmem (hrow _ h) (hrest.starts hrows), List.mapM_cons,
      hread _ h, ih hrows hreads]
    rfl

end Joined

/-! ### Groups of conditions -/

lemma isTail_and : IsTail ["Or".toList, "All".toList] "And".toList :=
  isTail_toList (by decide) (by decide) (by decide) (by decide)

lemma isTail_or : IsTail ["All".toList] "Or".toList :=
  isTail_toList (by decide) (by decide) (by decide) (by decide)

lemma isPiece_and : IsPiece "And".toList := by
  have hword : IsWord "And".toList := by decide
  exact hword.isPiece

lemma isPiece_or : IsPiece "Or".toList := by
  have hword : IsWord "Or".toList := by decide
  exact hword.isPiece

variable {groups : List (List Condition)} {group : List Condition} {text : List Char}

lemma isRow_of_spellsGroup (h : SpellsJoined SpellsCondition "And" group text)
    (hgroup : ∀ c ∈ group, IsSpellableProperty c.property) :
    IsRow ["Or".toList, "All".toList] text := by
  refine h.isRow isTail_and (by decide) (by decide) fun c hc text hspells => ?_
  exact (isRow_of_spellsCondition hspells (hgroup c hc)).mono (by decide)

/-- The text of some conditions is a row. -/
lemma SpellsGroups.isRow (h : SpellsGroups groups text) (hne : groups ≠ [])
    (hgroups : ∀ c ∈ groups.flatten, IsSpellableProperty c.property) : IsRow ["All".toList] text := by
  rcases h with ⟨hnil, -⟩ | h
  · exact absurd hnil hne
  · refine h.isRow isTail_or (by decide) (by decide) fun group hgroup text hspells => ?_
    refine (isRow_of_spellsGroup hspells fun c hc => ?_).mono (by decide)
    exact hgroups c (List.mem_flatten.mpr ⟨group, hgroup, hc⟩)

lemma SpellsGroups.eq_nil (h : SpellsGroups [] text) : text = [] := by
  rcases h with ⟨-, rfl⟩ | h
  · rfl
  · cases h

lemma SpellsGroups.free (h : SpellsGroups groups text)
    (hgroups : ∀ c ∈ groups.flatten, IsSpellableProperty c.property) :
    IsFree ["All".toList] text := by
  by_cases hne : groups = []
  · subst hne
    rw [h.eq_nil]
    exact IsFree.nil
  · exact (h.isRow hne hgroups).free

lemma SpellsGroups.noOrder (h : SpellsGroups groups text)
    (hgroups : ∀ c ∈ groups.flatten, IsSpellableProperty c.property) :
    ¬ "OrderBy".toList <:+: text := by
  by_cases hne : groups = []
  · subst hne
    rw [h.eq_nil]
    decide
  · exact (h.isRow hne hgroups).noOrder

/-- The decoder reads the text of groups of conditions as these groups. -/
lemma conditionGroups_of_spells {all : Bool} (h : SpellsGroups groups text)
    (hgroups : ∀ c ∈ groups.flatten, IsSpellableProperty c.property)
    (hcase : ∀ c ∈ groups.flatten, c.letterCase ≠ .ignored →
      c.letterCase = if all then .ignoredWherePossible else .exact) :
    conditionGroups all text = .ok groups := by
  have hrow := h.isRow
  rcases h with ⟨rfl, rfl⟩ | h
  · rfl
  · have hproperty : ∀ group ∈ groups, ∀ c ∈ group, IsSpellableProperty c.property :=
      fun group hgroup c hc => hgroups c (List.mem_flatten.mpr ⟨group, hgroup, hc⟩)
    have hne : text.isEmpty = false := by
      simpa using (hrow (by cases h <;> simp) hgroups).ne_nil
    rw [conditionGroups, hne]
    refine h.mapM_splitAtWord isPiece_or (List.mem_cons_self)
      (fun group hgroup text hspells => isRow_of_spellsGroup hspells (hproperty group hgroup))
      fun group hgroup text hspells => ?_
    refine hspells.mapM_splitAtWord isPiece_and List.mem_cons_self
      (fun c hc text hspells => isRow_of_spellsCondition hspells (hproperty group hgroup c hc))
      fun c hc text hspells => ?_
    exact condition_of_spells hspells (hproperty group hgroup c hc)
      (hcase c (List.mem_flatten.mpr ⟨group, hgroup, hc⟩))

/-! ### Orders -/

variable {sort : List Order}

lemma isTail_directionWord (d : Direction) : IsTail ["All".toList] (directionWord d).toList := by
  cases d
  · exact isTail_toList (by decide) (by decide) (by decide) (by decide)
  · exact isTail_toList (by decide) (by decide) (by decide) (by decide)

lemma isRow_of_spellsOrders (h : SpellsOrders sort text)
    (hsort : ∀ o ∈ sort, IsSpellableProperty o.property) : IsRow ["All".toList] text := by
  have hplain : ["All".toList] ⊆ plainWords := by decide
  have hsub : ["All".toList] ⊆ reservedWords := fun _ h => plainWords_subset (hplain h)
  induction h with
  | ascending property =>
    exact (isRow_propertyText (hsort _ List.mem_cons_self)).mono hsub
  | single property d =>
    exact ((isRow_propertyText (hsort _ List.mem_cons_self)).mono hsub).append
      (isTail_directionWord d)
  | cons property d _ ih =>
    obtain ⟨hproperty, horders⟩ := List.forall_mem_cons.mp hsort
    have horder : ¬ "Order".toList <:+ (directionWord d).toList := by cases d <;> decide
    have htail := (isTail_directionWord d).append_row (isPiece_directionWord d).ne_nil horder
      (ih horders)
    exact ((isRow_propertyText hproperty).mono hsub).append htail

/-- A property stands in front of the direction that ends it. -/
lemma orderPieces_propertyText {property : String} (h : IsSpellableProperty property)
    {rest : List Char} (hrest : StartsPiece rest) :
    orderPieces 0 [] (propertyText property ++ rest) =
      orderPieces 0 (propertyText property) rest := by
  have hmem : ∀ d, (directionWord d).toList ∈ reservedWords := by
    intro d
    refine plainWords_subset ?_
    cases d <;> decide
  obtain ⟨ps, hps, hfree, htext⟩ := (isRow_propertyText h).free
  rw [← htext]
  exact orderPieces_pieces hps (fun d => hfree _ (hmem d)) hrest

/-- The decoder finds the properties of an order and their directions. -/
lemma orderPieces_of_spells (h : SpellsOrders sort text)
    (hsort : ∀ o ∈ sort, IsSpellableProperty o.property) :
    orderPieces 0 [] text = sort.map fun o => (propertyText o.property, o.direction) := by
  induction h with
  | ascending property =>
    have hproperty := hsort _ List.mem_cons_self
    have hpieces := orderPieces_propertyText hproperty startsPiece_nil
    rw [List.append_nil] at hpieces
    rw [hpieces, orderPieces_nil (isRow_propertyText hproperty).ne_nil]
    rfl
  | single property d =>
    have hproperty := hsort _ List.mem_cons_self
    have hends : endsDirection (some []) = true := rfl
    have hlast := orderPieces_direction d (isRow_propertyText hproperty).ne_nil hends
    rw [List.append_nil] at hlast
    rw [orderPieces_propertyText hproperty (isTail_directionWord d).free.startsPiece, hlast]
    rfl
  | cons property d hrest ih =>
    obtain ⟨hproperty, horders⟩ := List.forall_mem_cons.mp hsort
    have hdirection := (isPiece_directionWord d).startsPiece
    obtain ⟨c, cs, rfl, hc⟩ := (isRow_of_spellsOrders hrest horders).starts
    have hends : endsDirection (some (c :: cs)) = true := isUppercase_of_isUpper hc
    rw [orderPieces_propertyText hproperty (hdirection _),
      orderPieces_direction d (isRow_propertyText hproperty).ne_nil hends, ih horders]
    rfl

lemma mapM_map_eq_ok {α β : Type} {f : β → Except Fault α} {g : α → β} {as : List α}
    (h : ∀ a ∈ as, f (g a) = .ok a) : (as.map g).mapM f = .ok as := by
  induction as with
  | nil => rfl
  | cons a as ih =>
    obtain ⟨ha, has⟩ := List.forall_mem_cons.mp h
    rw [List.map_cons, List.mapM_cons, ha, ih has]
    rfl

/-- The decoder reads the text of an order as this order. -/
lemma orders_of_spells (h : SpellsOrders sort text)
    (hsort : ∀ o ∈ sort, IsSpellableProperty o.property ∧ o.ignoreCase = false) :
    orders text = .ok sort := by
  have hpieces := orderPieces_of_spells h fun o ho => (hsort o ho).1
  have hread : (sort.map fun o => (propertyText o.property, o.direction)).mapM
      (fun piece => do
        return (⟨← propertyPath piece.1, piece.2, false⟩ : Order)) = Except.ok sort := by
    refine mapM_map_eq_ok fun o ho => ?_
    obtain ⟨hproperty, hcase⟩ := hsort o ho
    simp only [propertyPath_propertyText hproperty]
    rw [← hcase]
    rfl
  unfold orders
  rw [hpieces]
  cases h <;> exact hread

/-! ### Behind `By` -/

variable {m : MethodName} {everywhere : List Char}

/-- Words that ignore letter case everywhere say so for all conditions that do not say it
themselves. -/
lemma SpellsEverywhere.letterCase_eq {conditions : List Condition}
    (h : SpellsEverywhere conditions everywhere) :
    ∀ c ∈ conditions, c.letterCase ≠ .ignored →
      c.letterCase = if !everywhere.isEmpty then .ignoredWherePossible else .exact := by
  intro c hc hignored
  rcases h with ⟨hexact, hmem⟩ | ⟨hwhere, rfl⟩
  · have hne : everywhere.isEmpty = false := by
      rcases List.mem_pair.mp hmem with rfl | rfl <;> rfl
    rw [hne]
    cases hcase : c.letterCase with
    | exact => exact absurd hcase (hexact c hc)
    | ignoredWherePossible => rfl
    | ignored => exact absurd hcase hignored
  · cases hcase : c.letterCase with
    | exact => rfl
    | ignoredWherePossible => exact absurd hcase (hwhere c hc)
    | ignored => exact absurd hcase hignored

lemma withoutAllIgnoreCase?_of_spells {conditions : List Condition} {before after : List Char}
    (hbefore : IsFree ["All".toList] before) (hafter : IsFree ["All".toList] after)
    (h : SpellsEverywhere conditions everywhere) :
    withoutAllIgnoreCase? (before ++ (everywhere ++ after)) =
      if everywhere.isEmpty then none else some (before ++ after) := by
  obtain ⟨ps, hps, hpsfree, rfl⟩ := hbefore
  obtain ⟨qs, hqs, hqsfree, rfl⟩ := hafter
  have hbeforeAll := hpsfree _ (List.mem_singleton_self _)
  have hafterAll := hqsfree _ (List.mem_singleton_self _)
  rcases h with ⟨-, hmem⟩ | ⟨-, rfl⟩
  · have hstart : StartsPiece (everywhere ++ qs.flatten) := by
      rcases List.mem_pair.mp hmem with rfl | rfl <;> simp [StartsPiece]
    have hfound : withoutAllIgnoreCase? (everywhere ++ qs.flatten) = some qs.flatten := by
      rcases List.mem_pair.mp hmem with rfl | rfl <;> rfl
    have hne : everywhere.isEmpty = false := by
      rcases List.mem_pair.mp hmem with rfl | rfl <;> rfl
    rw [withoutAllIgnoreCase?_pieces hps hbeforeAll hstart, hfound, hne]
    rfl
  · have hnone : withoutAllIgnoreCase? qs.flatten = none := by
      have hrest := withoutAllIgnoreCase?_pieces hqs hafterAll startsPiece_nil
      rwa [List.append_nil] at hrest
    rw [List.nil_append, withoutAllIgnoreCase?_pieces hps hbeforeAll (startsPiece_flatten hqs), hnone]
    rfl

lemma isFree_orderBy : IsFree ["All".toList] "OrderBy".toList :=
  ⟨["Order".toList, "By".toList], by simpa using ⟨isPiece_order, isPiece_by⟩, by decide, rfl⟩

lemma SpellsSort.free (h : SpellsSort sort text)
    (hsort : ∀ o ∈ sort, IsSpellableProperty o.property) : IsFree ["All".toList] text := by
  rcases h with ⟨-, rfl⟩ | ⟨rest, hrest, rfl⟩
  · exact IsFree.nil
  · exact isFree_orderBy.append (isRow_of_spellsOrders hrest hsort).free

/-- The decoder reads the text behind `By` as what it spells. -/
theorem predicateOf_of_spells (hm : IsSpellable m) (hne : ¬ (m.groups = [] ∧ m.sort = []))
    (h : SpellsPredicate m text) (method : String) :
    predicateOf method (some text) = .ok (m.groups, m.sort) := by
  obtain ⟨conditions, everywhere, order, hgroups, heverywhere, hsort, rfl⟩ := h
  have hread := conditionGroups_of_spells hgroups hm.conditions heverywhere.letterCase_eq
  have hstripped := withoutAllIgnoreCase?_of_spells (hgroups.free hm.conditions)
    (hsort.free fun o ho => (hm.sort o ho).1) heverywhere
  have hsource : (withoutAllIgnoreCase? (conditions ++ (everywhere ++ order))).getD
      (conditions ++ (everywhere ++ order)) = conditions ++ order := by
    rw [hstripped]
    cases everywhere <;> rfl
  have hsome : (withoutAllIgnoreCase? (conditions ++ (everywhere ++ order))).isSome =
      !everywhere.isEmpty := by
    rw [hstripped]
    cases everywhere <;> rfl
  have hnoOrder := hgroups.noOrder hm.conditions
  simp only [predicateOf, hsource, hsome]
  rcases hsort with ⟨hnil, rfl⟩ | ⟨rest, hrest, rfl⟩
  · have hrow := hgroups.isRow (fun hgroups => hne ⟨hgroups, hnil⟩) hm.conditions
    have hsourceNe : conditions.isEmpty = false := by simpa using hrow.ne_nil
    rw [List.append_nil, cutAt?_eq_none hnoOrder, hsourceNe, hread, hnil]
    rfl
  · have hcut : cutAt? "OrderBy".toList (conditions ++ ("OrderBy".toList ++ rest)) =
        some (conditions, rest) := cutAt?_eq_some (by decide) hnoOrder
    simp only [hcut, hread, orders_of_spells hrest hm.sort]
    rfl

end DocQuery.MethodName
