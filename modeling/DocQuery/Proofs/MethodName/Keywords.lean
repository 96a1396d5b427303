import DocQuery.Proofs.MethodName.Conditions
import Mathlib.Data.List.MinMax
import Mathlib.Data.List.Nodup
/-!
# Keywords at the end of a condition

One keyword can end with another, as `IsNotNull` does with `NotNull` and `Null`. The kind of a
condition is the one that the longest keyword at its end names, if there is a property in front of
it (`detectKind_is_longest`). The decoder takes the first keyword of a table that it finds there.
This is the longest one, whatever the text is, exactly if no keyword of the table stands behind a
shorter one that it ends with (`firstIn_eq_detectKind_iff`).
-/

namespace DocQuery.MethodName

variable {source property property' : List Char} {kind kind' : Condition.Kind}
  {keyword keyword' : String} {found found' : Condition.Kind × List Char}
  {table : List (Condition.Kind × String)}

/-! ### Tables of keywords -/

/-- The table has the keywords of each kind, in any order. -/
def HasKeywords (table : List (Condition.Kind × String)) : Prop :=
  ∀ kind keyword, (kind, keyword) ∈ table ↔ keyword ∈ kind.keywords

/-- No keyword of the table stands behind a shorter one that it ends with. -/
def LongestFirst (table : List (Condition.Kind × String)) : Prop :=
  table.Pairwise fun entry later => entry.2.toList <:+ later.2.toList → entry.2 = later.2

instance : DecidablePred LongestFirst := fun table =>
  inferInstanceAs <| Decidable <|
    table.Pairwise fun entry later => entry.2.toList <:+ later.2.toList → entry.2 = later.2

/-- The keywords in the order in which the decoder looks for them. -/
def keywordTable : List (Condition.Kind × String) :=
  Condition.Kind.all.flatMap fun kind => kind.keywords.map fun keyword => (kind, keyword)

lemma hasKeywords_keywordTable : HasKeywords keywordTable := by
  intro kind keyword
  simp [keywordTable, mem_all]

lemma longestFirst_keywordTable : LongestFirst keywordTable := by
  decide +kernel

/-- It is enough that the keywords get no longer. -/
lemma longestFirst_of_lengths
    (h : table.Pairwise fun entry later => later.2.length ≤ entry.2.length) :
    LongestFirst table := by
  refine h.imp fun hlength hsuffix => ?_
  rw [← String.length_toList, ← String.length_toList] at hlength
  exact String.toList_inj.mp (hsuffix.eq_of_length_le hlength)

lemma nodup_keywords : (keywordTable.map Prod.snd).Nodup := by
  decide +kernel

/-- A keyword names one kind. -/
lemma kind_eq_of_mem_keywords (h : keyword ∈ kind.keywords) (h' : keyword ∈ kind'.keywords) :
    kind = kind' := by
  have hentry := (hasKeywords_keywordTable kind keyword).mpr h
  have hentry' := (hasKeywords_keywordTable kind' keyword).mpr h'
  exact (Prod.mk.inj (List.inj_on_of_nodup_map nodup_keywords hentry hentry' rfl)).1

/-! ### What the end of a text says -/

/-- The text is a property and a keyword of the kind behind it. -/
structure EndsIn (source : List Char) (kind : Condition.Kind) (keyword : String)
    (property : List Char) : Prop where
  mem : keyword ∈ kind.keywords
  ne_nil : property ≠ []
  text : source = property ++ keyword.toList

/-- The kind and the property of a text: what the longest keyword at its end says, or, without a
keyword behind a property, that all of it is a property that is compared for equality. -/
inductive Detects (source : List Char) : Condition.Kind × List Char → Prop
  | keyword {kind : Condition.Kind} {keyword : String} {property : List Char}
      (h : EndsIn source kind keyword property)
      (hlongest : ∀ kind' keyword' property', EndsIn source kind' keyword' property' →
        keyword'.length ≤ keyword.length) :
      Detects source (kind, property)
  | plain (h : ∀ kind keyword property, ¬ EndsIn source kind keyword property) :
      Detects source (.is, source)

namespace EndsIn

lemma suffix (h : EndsIn source kind keyword property) : keyword.toList <:+ source :=
  ⟨property, h.text.symm⟩

lemma length_eq (h : EndsIn source kind keyword property) :
    source.length = property.length + keyword.length := by
  rw [h.text, List.length_append, String.length_toList]

/-- The shorter the property, the longer the keyword. -/
lemma length_le (h : EndsIn source kind keyword property)
    (h' : EndsIn source kind' keyword' property') (hproperty : property.length ≤ property'.length) :
    keyword'.length ≤ keyword.length := by
  have hlength := h.length_eq
  have hlength' := h'.length_eq
  omega

/-- Of two keywords at the end of a text, the longer one ends with the shorter one. -/
lemma suffix_of_length_le (h : EndsIn source kind keyword property)
    (h' : EndsIn source kind' keyword' property') (hlength : keyword.length ≤ keyword'.length) :
    keyword.toList <:+ keyword'.toList := by
  rw [← String.length_toList, ← String.length_toList] at hlength
  exact List.suffix_of_suffix_length_le h.suffix h'.suffix hlength

/-- Keywords of one length at the end of a text are the same, and so is what they say. -/
lemma eq_of_length_eq (h : EndsIn source kind keyword property)
    (h' : EndsIn source kind' keyword' property') (hlength : keyword.length = keyword'.length) :
    kind = kind' ∧ keyword = keyword' ∧ property = property' := by
  have hkeyword : keyword.toList = keyword'.toList :=
    (h.suffix_of_length_le h' hlength.le).sublist.antisymm
      (h'.suffix_of_length_le h hlength.ge).sublist
  obtain rfl := String.toList_inj.mp hkeyword
  have hproperty := List.append_cancel_right (h.text.symm.trans h'.text)
  exact ⟨kind_eq_of_mem_keywords h.mem h'.mem, rfl, hproperty⟩

end EndsIn

/-- A text says one thing. -/
lemma Detects.unique (h : Detects source found) (h' : Detects source found') : found = found' := by
  cases h with
  | keyword h hlongest =>
    cases h' with
    | keyword h' hlongest' =>
      have hlength := Nat.le_antisymm (hlongest' _ _ _ h) (hlongest _ _ _ h')
      obtain ⟨rfl, -, rfl⟩ := h.eq_of_length_eq h' hlength
      rfl
    | plain hnone => exact absurd h (hnone _ _ _)
  | plain hnone =>
    cases h' with
    | keyword h' _ => exact absurd h' (hnone _ _ _)
    | plain _ => rfl

/-! ### Looking a text up -/

/-- What an entry of a table says about a text: its kind, and the property before its keyword. -/
def foundBy? (source : List Char) (entry : Condition.Kind × String) :
    Option (Condition.Kind × List Char) :=
  match entry.2.toList.isSuffixOf? source with
  | some (c :: cs) => some (entry.1, c :: cs)
  | _ => none

/-- What the first entry that says something says about a text. -/
def firstIn (table : List (Condition.Kind × String)) (source : List Char) :
    Condition.Kind × List Char :=
  (table.findSome? (foundBy? source)).getD (.is, source)

/-- What the entry that leaves the shortest property says about a text. -/
def longestIn (table : List (Condition.Kind × String)) (source : List Char) :
    Condition.Kind × List Char :=
  ((table.filterMap (foundBy? source)).argmin fun found => found.2.length).getD (.is, source)

lemma foundBy?_eq_some_iff {entry : Condition.Kind × String} :
    foundBy? source entry = some found ↔
      found.1 = entry.1 ∧ found.2 ≠ [] ∧ source = found.2 ++ entry.2.toList := by
  obtain ⟨kind, property⟩ := found
  constructor
  · intro h
    unfold foundBy? at h
    split at h
    · next c cs hsuffix =>
      obtain ⟨rfl, rfl⟩ := Prod.mk.inj (Option.some.inj h)
      exact ⟨rfl, by simp, (List.isSuffixOf?_eq_some_iff_append_eq.mp hsuffix).symm⟩
    · simp at h
  · rintro ⟨rfl, hne, rfl⟩
    obtain ⟨c, cs, rfl⟩ := List.exists_cons_of_ne_nil hne
    rw [foundBy?, List.isSuffixOf?_eq_some_iff_append_eq.mpr rfl]

/-- An entry of a table says what its keyword says. -/
lemma HasKeywords.endsIn (htable : HasKeywords table) {entry : Condition.Kind × String}
    (hentry : entry ∈ table) (h : foundBy? source entry = some (kind, property)) :
    EndsIn source kind entry.2 property := by
  obtain ⟨rfl, hne, htext⟩ := foundBy?_eq_some_iff.mp h
  exact ⟨(htable _ _).mp hentry, hne, htext⟩

/-- A table has an entry for each keyword at the end of a text. -/
lemma EndsIn.exists_entry (h : EndsIn source kind keyword property) (htable : HasKeywords table) :
    ∃ entry ∈ table, entry = (kind, keyword) ∧ foundBy? source entry = some (kind, property) :=
  ⟨_, (htable kind keyword).mpr h.mem, rfl, foundBy?_eq_some_iff.mpr ⟨rfl, h.ne_nil, h.text⟩⟩

/-- A text about which no entry says something ends in no keyword. -/
lemma HasKeywords.detects_plain (htable : HasKeywords table)
    (h : ∀ entry ∈ table, foundBy? source entry = none) : Detects source (.is, source) := by
  refine .plain fun kind keyword property hends => ?_
  obtain ⟨entry, hentry, -, hfound⟩ := hends.exists_entry htable
  rw [h entry hentry] at hfound
  simp at hfound

/-- The shortest property is what the longest keyword leaves, wherever the keyword stands. -/
lemma HasKeywords.detects_longestIn (htable : HasKeywords table) (source : List Char) :
    Detects source (longestIn table source) := by
  unfold longestIn
  cases hmin : (table.filterMap (foundBy? source)).argmin fun found => found.2.length with
  | none =>
    rw [List.argmin_eq_none, List.filterMap_eq_nil_iff] at hmin
    exact htable.detects_plain hmin
  | some found =>
    obtain ⟨kind, property⟩ := found
    obtain ⟨entry, hentry, hfound⟩ := List.mem_filterMap.mp (List.argmin_mem hmin)
    have hends := htable.endsIn hentry hfound
    refine .keyword hends fun kind' keyword' property' hends' => ?_
    obtain ⟨entry', hentry', -, hfound'⟩ := hends'.exists_entry htable
    have hmem' : (kind', property') ∈ table.filterMap (foundBy? source) :=
      List.mem_filterMap.mpr ⟨entry', hentry', hfound'⟩
    have hshortest := List.le_of_mem_argmin hmem' hmin
    exact hends.length_le hends' hshortest

/-- Behind the first entry that says something stands none with a longer keyword: the keyword of
the first one would be a suffix of it. -/
lemma HasKeywords.detects_firstIn (htable : HasKeywords table) (hfirst : LongestFirst table)
    (source : List Char) : Detects source (firstIn table source) := by
  unfold firstIn
  cases hfind : table.findSome? (foundBy? source) with
  | none => exact htable.detects_plain (List.findSome?_eq_none_iff.mp hfind)
  | some found =>
    obtain ⟨kind, property⟩ := found
    obtain ⟨before, entry, behind, rfl, hfound, hbefore⟩ := List.findSome?_eq_some_iff.mp hfind
    have hends := htable.endsIn (by simp) hfound
    refine .keyword hends fun kind' keyword' property' hends' => ?_
    obtain ⟨entry', hentry', rfl, hfound'⟩ := hends'.exists_entry htable
    rcases List.mem_append.mp hentry' with hmem | hmem
    · rw [hbefore _ hmem] at hfound'
      simp at hfound'
    · rcases List.mem_cons.mp hmem with rfl | hmem
      · exact le_rfl
      · rcases Nat.le_total keyword'.length entry.2.length with hle | hle
        · exact hle
        · have hlater := (List.pairwise_cons.mp (List.pairwise_append.mp hfirst).2.1).1
          have heq : entry.2 = keyword' := hlater _ hmem (hends.suffix_of_length_le hends' hle)
          exact (congrArg String.length heq).ge

/-! ### The search -/

lemma findSome?_flatMap {α β γ : Type} (as : List α) (f : α → List β) (g : β → Option γ) :
    (as.flatMap f).findSome? g = as.findSome? fun a => (f a).findSome? g := by
  induction as with
  | nil => rfl
  | cons a as ih =>
    rw [List.flatMap_cons, List.findSome?_append, List.findSome?_cons, ih]
    cases (f a).findSome? g <;> rfl

lemma detectKind_eq_firstIn (source : List Char) :
    detectKind source = firstIn keywordTable source := by
  rw [detectKind, firstIn, keywordTable, findSome?_flatMap]
  simp only [List.findSome?_map]
  rfl

/-- The decoder finds what the text says. -/
lemma detectKind_eq_iff : detectKind source = found ↔ Detects source found := by
  have hdetects : Detects source (detectKind source) := by
    rw [detectKind_eq_firstIn]
    exact hasKeywords_keywordTable.detects_firstIn longestFirst_keywordTable source
  constructor
  · rintro rfl
    exact hdetects
  · exact hdetects.unique

/-- The kind of a condition is the one that the longest keyword at its end names, if there is a
property in front of it, and the property is what stands there. Without such a keyword the text is a
property that is compared for equality. The order of the keywords has no part in this: the longest
one is the same in any table that has the keywords of each kind, and the first one is the same in
each of these tables that has no keyword behind a shorter one that it ends with. -/
theorem detectKind_is_longest (htable : HasKeywords table) (source : List Char)
    (found : Condition.Kind × List Char) :
    (detectKind source = found ↔ Detects source found) ∧
      longestIn table source = detectKind source ∧
      (LongestFirst table → firstIn table source = detectKind source) := by
  have hdetects : Detects source (detectKind source) := detectKind_eq_iff.mp rfl
  refine ⟨detectKind_eq_iff, ?_, ?_⟩
  · exact (htable.detects_longestIn source).unique hdetects
  · intro hfirst
    exact (htable.detects_firstIn hfirst source).unique hdetects

/-- The keywords by their length, the longest ones first. -/
def keywordsByLength : List (Condition.Kind × String) :=
  keywordTable.mergeSort fun entry later => later.2.length ≤ entry.2.length

lemma hasKeywords_keywordsByLength : HasKeywords keywordsByLength := by
  intro kind keyword
  rw [keywordsByLength, List.mem_mergeSort]
  exact hasKeywords_keywordTable kind keyword

lemma longestFirst_keywordsByLength : LongestFirst keywordsByLength := by
  have hsorted : keywordsByLength.Pairwise fun entry later =>
      decide (later.2.length ≤ entry.2.length) = true := by
    apply List.pairwise_mergeSort
    · simp only [decide_eq_true_eq]
      omega
    · simp only [Bool.or_eq_true, decide_eq_true_eq]
      omega
  exact longestFirst_of_lengths (hsorted.imp of_decide_eq_true)

theorem detectKind_of_nameIsNotNull :
    HasKeywords keywordsByLength ∧ LongestFirst keywordsByLength ∧
      Detects "NameIsNotNull".toList (.isNotNull, "Name".toList) ∧
      longestIn keywordsByLength "NameIsNotNull".toList = (.isNotNull, "Name".toList) ∧
      firstIn keywordsByLength "NameIsNotNull".toList = (.isNotNull, "Name".toList) := by
  have hkind : detectKind "NameIsNotNull".toList = (.isNotNull, "Name".toList) := by decide
  obtain ⟨hdetects, hlongest, hfirst⟩ := detectKind_is_longest hasKeywords_keywordsByLength
    "NameIsNotNull".toList (.isNotNull, "Name".toList)
  exact ⟨hasKeywords_keywordsByLength, longestFirst_keywordsByLength, hdetects.mp hkind,
    hlongest.trans hkind, (hfirst longestFirst_keywordsByLength).trans hkind⟩

/-- A keyword without a property in front of it is a property. -/
example : detectKind "Null".toList = (.is, "Null".toList) := by decide

/-! ### Other orders of the table -/

lemma mem_of_pair_sublist {α : Type} {a b : α} {before behind : List α}
    (h : [a, b].Sublist (before ++ b :: behind)) (hne : a ≠ b) (hb : b ∉ behind) : a ∈ before := by
  obtain ⟨ps, qs, heq, hps, hqs⟩ := List.sublist_append_iff.mp h
  cases ps with
  | nil =>
    rw [List.nil_append] at heq
    subst heq
    rcases List.cons_sublist_cons'.mp hqs with hbehind | ⟨hab, -⟩
    · exact absurd (hbehind.subset (by simp)) hb
    · exact absurd hab hne
  | cons p ps =>
    obtain ⟨rfl, -⟩ := List.cons.inj heq
    exact hps.subset List.mem_cons_self

/-- A keyword behind a single character is the longest one. -/
lemma EndsIn.detects_singleton {c : Char} (h : EndsIn source kind keyword [c]) :
    Detects source (kind, [c]) := by
  refine .keyword h fun kind' keyword' property' h' => h.length_le h' ?_
  exact List.length_pos_iff.mpr h'.ne_nil

/-- What a keyword says is found at its entry: each other keyword leaves another property. -/
lemma EndsIn.exists_of_firstIn (hends : EndsIn source kind keyword property)
    (htable : HasKeywords table) (h : firstIn table source = (kind, property)) :
    ∃ before behind, table = before ++ (kind, keyword) :: behind ∧
      ∀ entry ∈ before, foundBy? source entry = none := by
  unfold firstIn at h
  cases hfind : table.findSome? (foundBy? source) with
  | none =>
    obtain ⟨entry, hentry, -, hfound⟩ := hends.exists_entry htable
    rw [List.findSome?_eq_none_iff.mp hfind entry hentry] at hfound
    simp at hfound
  | some found =>
    rw [hfind, Option.getD_some] at h
    subst h
    obtain ⟨before, entry, behind, rfl, hfound, hbefore⟩ := List.findSome?_eq_some_iff.mp hfind
    obtain ⟨hkind, -, htext⟩ := foundBy?_eq_some_iff.mp hfound
    have hkeyword := List.append_cancel_left (htext.symm.trans hends.text)
    have hentry : entry = (kind, keyword) := Prod.ext hkind.symm (String.toList_inj.mp hkeyword)
    exact ⟨before, behind, by rw [hentry], hbefore⟩

/-- In another order of the table the first keyword is the longest one in every text exactly if no
keyword stands behind a shorter one that it ends with. -/
theorem firstIn_eq_detectKind_iff (hperm : table.Perm keywordTable) :
    (∀ source, firstIn table source = detectKind source) ↔ LongestFirst table := by
  have htable : HasKeywords table := fun kind keyword =>
    hperm.mem_iff.trans (hasKeywords_keywordTable kind keyword)
  constructor
  · intro hsame
    refine List.pairwise_iff_forall_sublist.mpr fun {entry later} hpair hsuffix => ?_
    by_contra hne
    have hlater : later.2 ∈ later.1.keywords := (htable _ _).mp (hpair.subset (by simp))
    have hends : EndsIn ('_' :: later.2.toList) later.1 later.2 ['_'] := ⟨hlater, by simp, rfl⟩
    have hfirst : firstIn table ('_' :: later.2.toList) = (later.1, ['_']) := by
      rw [hsame, detectKind_eq_iff.mpr hends.detects_singleton]
    obtain ⟨before, behind, rfl, hbefore⟩ := hends.exists_of_firstIn htable hfirst
    have hnodup : (before ++ later :: behind).Nodup := hperm.nodup_iff.mpr nodup_keywords.of_map
    have hbehind : later ∉ behind := (List.nodup_cons.mp (List.nodup_append.mp hnodup).2.1).1
    have hmem : entry ∈ before := mem_of_pair_sublist hpair (fun h => hne (by rw [h])) hbehind
    -- the shorter keyword stands in front, and says something else
    obtain ⟨front, hfront⟩ := hsuffix
    have hfound : foundBy? ('_' :: later.2.toList) entry = some (entry.1, '_' :: front) :=
      foundBy?_eq_some_iff.mpr ⟨rfl, by simp, by rw [← hfront, List.cons_append]⟩
    rw [hbefore entry hmem] at hfound
    simp at hfound
  · intro hfirst source
    exact (htable.detects_firstIn hfirst source).unique (detectKind_eq_iff.mp rfl)

/-- Turned round, the table finds a test for null where the text says the contrary. -/
example : firstIn keywordTable.reverse "NameIsNotNull".toList = (.isNull, "NameIsNot".toList) := by
  decide

end DocQuery.MethodName
