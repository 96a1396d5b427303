import DocQuery.Proofs.MethodName.Properties
/-!
# Conditions in method names

The decoder looks at the end of a condition for the words for letter case and for a keyword. As the
words of a property take no part in them, it finds what was spelled there (`condition_of_spells`).
-/

namespace DocQuery.MethodName

open Condition (LetterCase)

/-! ### The tables of keywords -/

lemma mem_all (kind : Condition.Kind) : kind ∈ Condition.Kind.all := by
  cases kind <;> decide

set_option maxRecDepth 4000 in
/-- A keyword may follow a property: none of its words joins conditions, and no order starts in it. -/
lemma isTail_keyword {kind : Condition.Kind} {keyword : String} (h : keyword ∈ kindSpellings kind) :
    IsTail joiningWords keyword.toList := by
  have htable : ∀ kind ∈ Condition.Kind.all, ∀ keyword ∈ kindSpellings kind,
      (∀ w ∈ wordsOf keyword, IsWord w) ∧ (∀ w ∈ joiningWords, w ∉ wordsOf keyword) ∧
        ¬ "OrderBy".toList <:+: keyword.toList ∧ ¬ "By".toList <+: keyword.toList := by
    decide
  obtain ⟨hwords, hfree, horder, hby⟩ := htable kind (mem_all kind) keyword h
  exact isTail_toList hwords hfree horder hby

lemma isTail_suffix {letterCase : LetterCase} {suffix : String}
    (h : suffix ∈ letterCaseSpellings letterCase) : IsTail joiningWords suffix.toList := by
  have hmem : suffix = "" ∨ suffix = "IgnoreCase" ∨ suffix = "IgnoringCase" := by
    cases letterCase <;> simp_all [letterCaseSpellings]
  rcases hmem with rfl | rfl | rfl
  · exact isTail_toList (by decide) (by decide) (by decide) (by decide)
  · exact isTail_toList (by decide) (by decide) (by decide) (by decide)
  · exact isTail_toList (by decide) (by decide) (by decide) (by decide)

/-- The words for letter case at the end of a text, and what comes before them. -/
def withoutSuffix? (source : List Char) : Option (List Char) :=
  ["IgnoreCase", "IgnoringCase"].findSome? fun word => word.toList.isSuffixOf? source

/-- The keyword at the end of a text, and what comes before it. -/
def suffixKind? (source : List Char) : Option (Condition.Kind × List Char) :=
  Condition.Kind.all.findSome? fun kind =>
    kind.keywords.findSome? fun keyword =>
      (keyword.toList.isSuffixOf? source).map fun rest => (kind, rest)

set_option maxRecDepth 4000 in
/-- The words for letter case are found behind each keyword. -/
lemma withoutSuffix?_append {kind : Condition.Kind} {keyword suffix : String}
    {letterCase : LetterCase} (hkeyword : keyword ∈ kindSpellings kind)
    (hsuffix : suffix ∈ letterCaseSpellings letterCase) :
    withoutSuffix? (keyword.toList ++ suffix.toList) =
      if letterCase = .ignored then some keyword.toList else none := by
  have htable : ∀ kind ∈ Condition.Kind.all, ∀ keyword ∈ kindSpellings kind,
      ∀ letterCase ∈ [LetterCase.exact, .ignoredWherePossible, .ignored],
        ∀ suffix ∈ letterCaseSpellings letterCase,
          withoutSuffix? (keyword.toList ++ suffix.toList) =
            if letterCase = .ignored then some keyword.toList else none := by
    decide
  exact htable kind (mem_all kind) keyword hkeyword letterCase (by cases letterCase <;> decide)
    suffix hsuffix

set_option maxRecDepth 4000 in
/-- The first keyword that a spelled keyword ends with is the keyword itself. -/
lemma suffixKind?_keyword {kind : Condition.Kind} {keyword : String}
    (h : keyword ∈ kindSpellings kind) :
    (suffixKind? keyword.toList).getD (.is, keyword.toList) = (kind, []) := by
  have htable : ∀ kind ∈ Condition.Kind.all, ∀ keyword ∈ kindSpellings kind,
      (suffixKind? keyword.toList).getD (.is, keyword.toList) = (kind, []) := by
    decide
  exact htable kind (mem_all kind) keyword h

/-! ### The end of a condition -/

lemma findSome?_congr {α β : Type} {as : List α} {f g : α → Option β} (h : ∀ a ∈ as, f a = g a) :
    as.findSome? f = as.findSome? g := by
  induction as with
  | nil => rfl
  | cons a as ih =>
    obtain ⟨ha, has⟩ := List.forall_mem_cons.mp h
    rw [List.findSome?_cons, List.findSome?_cons, ha, ih has]

variable {words words' : List (List Char)} {row tail : List Char}

/-- No word of a row takes part in a keyword that the row is free of. -/
lemma IsRow.isSuffixOf?_append {keyword : String} (hrow : IsRow words row)
    (htail : IsFree words' tail)
    (hkeyword : ∀ w ∈ wordsOf keyword, IsPiece w ∧ w ∈ words) :
    keyword.toList.isSuffixOf? (row ++ tail) =
      (keyword.toList.isSuffixOf? tail).map (row ++ ·) := by
  obtain ⟨ps, hps, hfree, rfl⟩ := hrow.free
  obtain ⟨qs, hqs, -, rfl⟩ := htail
  cases hsuffix : keyword.toList.isSuffixOf? qs.flatten with
  | some rest =>
    have hrest := List.isSuffixOf?_eq_some_iff_append_eq.mp hsuffix
    exact List.isSuffixOf?_eq_some_iff_append_eq.mpr (by rw [List.append_assoc, hrest])
  | none =>
    rw [Option.map_none, Option.eq_none_iff_forall_ne_some]
    intro rest hrest
    have hend : (wordsOf keyword).flatten <:+ (ps ++ qs).flatten := by
      rw [flatten_wordsOf, List.flatten_append]
      exact ⟨rest, List.isSuffixOf?_eq_some_iff_append_eq.mp hrest⟩
    have hpieces : ∀ p ∈ ps ++ qs, IsPiece p := List.forall_mem_append.mpr ⟨hps, hqs⟩
    have hwords : wordsOf keyword <:+ ps ++ qs :=
      isSuffix_of_flatten hpieces (fun w hw => (hkeyword w hw).1) hend
    have hlonger : ¬ wordsOf keyword <:+ qs := by
      rintro ⟨before, rfl⟩
      rw [List.flatten_append, flatten_wordsOf,
        List.isSuffixOf?_eq_some_iff_append_eq.mpr rfl] at hsuffix
      exact Option.some_ne_none _ hsuffix
    rcases List.suffix_or_suffix_of_suffix hwords (List.suffix_append ps qs) with h | ⟨ws, hws⟩
    · exact hlonger h
    · cases ws with
      | nil => exact hlonger (by rw [← hws]; exact List.suffix_rfl)
      | cons w ws =>
        -- the word `w` would have to be the end of the row
        have hw : w ∈ ps := by
          rw [← hws, List.suffix_append_self_iff] at hwords
          exact hwords.subset (by simp)
        exact hfree w (hkeyword w (by rw [← hws]; simp)).2 hw

/-- The words of a keyword are reserved. -/
lemma isPiece_of_mem_keywords {kind : Condition.Kind} {keyword : String}
    (h : keyword ∈ kind.keywords) : ∀ w ∈ wordsOf keyword, IsPiece w ∧ w ∈ reservedWords := by
  intro w hw
  have hkeyword : keyword ∈ Condition.Kind.all.flatMap Condition.Kind.keywords :=
    List.mem_flatMap.mpr ⟨kind, mem_all kind, h⟩
  have hmem : w ∈ reservedWords :=
    List.mem_append_left _ (List.mem_flatMap.mpr ⟨keyword, hkeyword, hw⟩)
  exact ⟨(isWord_of_mem_reservedWords w hmem).isPiece, hmem⟩

lemma withoutSuffix?_row (hrow : IsRow reservedWords row)
    (htail : IsFree words' tail) :
    withoutSuffix? (row ++ tail) = (withoutSuffix? tail).map (row ++ ·) := by
  have hwords : ∀ word ∈ ["IgnoreCase", "IgnoringCase"], ∀ w ∈ wordsOf word,
      w ∈ plainWords := by
    decide
  rw [withoutSuffix?, withoutSuffix?, List.map_findSome?]
  refine findSome?_congr fun word hword => hrow.isSuffixOf?_append htail fun w hw => ?_
  have hmem : w ∈ reservedWords := plainWords_subset (hwords word hword w hw)
  exact ⟨(isWord_of_mem_reservedWords w hmem).isPiece, hmem⟩

lemma suffixKind?_row (hrow : IsRow reservedWords row)
    (htail : IsFree words' tail) :
    suffixKind? (row ++ tail) = (suffixKind? tail).map fun (kind, rest) => (kind, row ++ rest) := by
  rw [suffixKind?, suffixKind?, List.map_findSome?]
  refine findSome?_congr fun kind _ => ?_
  rw [Function.comp_apply, List.map_findSome?]
  refine findSome?_congr fun keyword hkeyword => ?_
  rw [hrow.isSuffixOf?_append htail (isPiece_of_mem_keywords hkeyword), Function.comp_apply,
    Option.map_map, Option.map_map]
  rfl

/-- Behind a property, that is behind some text, each keyword counts. -/
lemma detectKind_row (hrow : IsRow reservedWords row)
    (htail : IsFree words' tail) :
    detectKind (row ++ tail) =
      Prod.map id (row ++ ·) ((suffixKind? tail).getD (.is, tail)) := by
  have hfound : detectKind (row ++ tail) = (suffixKind? (row ++ tail)).getD (.is, row ++ tail) := by
    rw [detectKind, suffixKind?]
    congr 1
    refine findSome?_congr fun kind _ => findSome?_congr fun keyword hkeyword => ?_
    rw [hrow.isSuffixOf?_append htail (isPiece_of_mem_keywords hkeyword)]
    obtain ⟨c, cs, rfl, -⟩ := hrow.starts
    cases keyword.toList.isSuffixOf? tail <;> rfl
  rw [hfound, suffixKind?_row hrow htail]
  cases suffixKind? tail <;> rfl

/-! ### Conditions -/

variable {c : Condition} {text : List Char}

/-- The text of a condition has no words that join conditions. -/
lemma isRow_of_spellsCondition (hspells : SpellsCondition c text)
    (hc : IsSpellableProperty c.property) : IsRow joiningWords text := by
  obtain ⟨keyword, hkeyword, suffix, hsuffix, rfl⟩ := hspells
  have hplain : joiningWords ⊆ plainWords := by decide
  have hsub : joiningWords ⊆ reservedWords := fun _ h => plainWords_subset (hplain h)
  exact ((isRow_propertyText hc).mono hsub).append
    ((isTail_keyword hkeyword).append (isTail_suffix hsuffix))

/-- The decoder reads the text of a condition as the condition, if it takes the right letter case for
those that do not say it themselves. -/
theorem condition_of_spells {all : Bool} (hspells : SpellsCondition c text)
    (hc : IsSpellableProperty c.property)
    (hcase : c.letterCase ≠ .ignored →
      c.letterCase = if all then .ignoredWherePossible else .exact) :
    condition all text = .ok c := by
  obtain ⟨keyword, hkeyword, suffix, hsuffix, rfl⟩ := hspells
  have hrow := isRow_propertyText hc
  have hkeywordTail := isTail_keyword hkeyword
  have hstripped := withoutSuffix?_row hrow (hkeywordTail.append (isTail_suffix hsuffix)).free
  rw [withoutSuffix?_append hkeyword hsuffix, withoutSuffix?] at hstripped
  have hkind : detectKind (propertyText c.property ++ keyword.toList) =
      (c.kind, propertyText c.property) := by
    rw [detectKind_row hrow hkeywordTail.free, suffixKind?_keyword hkeyword, Prod.map_apply,
      List.append_nil]
    rfl
  by_cases hignored : c.letterCase = .ignored
  · rw [if_pos hignored, Option.map_some] at hstripped
    simp only [condition, hstripped, Option.getD_some, hkind, propertyPath_propertyText hc]
    rw [← hignored]
    rfl
  · have hsuffixNil : suffix = "" := by
      cases hletter : c.letterCase <;> simp_all [letterCaseSpellings]
    rw [if_neg hignored, Option.map_none] at hstripped
    rw [hsuffixNil, String.toList_empty, List.append_nil] at hstripped ⊢
    simp only [condition, hstripped, Option.getD_none, hkind, propertyPath_propertyText hc]
    rw [← hcase hignored]
    rfl

end DocQuery.MethodName
