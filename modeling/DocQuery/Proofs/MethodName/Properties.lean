import DocQuery.Proofs.FieldPath
import DocQuery.Proofs.MethodName.Rows
import Mathlib.Tactic.IntervalCases
/-!
# Properties in method names

A property that can be spelled is found again in its text (`propertyPath_propertyText`), and its text
is a row without words that mean something in a name (`isRow_propertyText`).
-/

namespace DocQuery

lemma splitOn_eq (c : Char) (cs : List Char) : splitOn c cs = cs.splitOn c := by
  induction cs with
  | nil => rfl
  | cons d cs ih =>
    have hcons : (d :: cs).splitOn c =
        if d == c then [] :: cs.splitOn c else (cs.splitOn c).modifyHead (d :: ·) :=
      List.splitOnP_cons_eq_if_modifyHead d cs
    rw [splitOn, ih, hcons]
    by_cases h : d = c
    · simp [h]
    · rw [if_neg h, if_neg (by simpa using h)]
      obtain ⟨piece, pieces, hpieces⟩ := List.exists_cons_of_ne_nil (List.splitOn_ne_nil c cs)
      rw [hpieces]
      rfl

namespace MethodName

/-! ### Letters -/

lemma toUpper_toLower {c : Char} (h : c.isUpper = true) : c.toLower.toUpper = c := by
  obtain ⟨hlow, hhigh⟩ := isUpper_iff.mp h
  rw [← Char.ofNat_toNat c]
  generalize c.toNat = n at hlow hhigh
  interval_cases n <;> rfl

lemma lower_of_isUpper {c : Char} (h : c.isUpper = true) : Letter.lower c = [c.toLower] := by
  have hascii := isUpper_iff.mp h
  rw [Letter.lower, if_pos (by omega)]

lemma isUppercase_of_isLower {c : Char} (h : c.isLower = true) : Letter.isUppercase c = false := by
  rw [Bool.eq_false_iff]
  intro hupper
  rw [isLower_of_isUppercase hupper] at h
  exact Bool.false_ne_true h

/-! ### Segments -/

variable {words : List (List Char)}

/-- A segment starts with a capital letter, and the next one is a small letter. -/
lemma IsSegment.exists_cons (h : IsSegment words) :
    ∃ c d cs, words.flatten = c :: d :: cs ∧ c.isUpper = true ∧ d.isLower = true := by
  obtain ⟨w, hhead, hlength⟩ := h.first
  obtain ⟨ws, rfl⟩ := List.head?_eq_some_iff.mp hhead
  have hw := h.isWord w (by simp)
  match w with
  | c :: d :: cs => exact ⟨c, d, cs ++ ws.flatten, rfl, hw.1, hw.2 d (by simp)⟩

lemma IsSegment.isRow (h : IsSegment words) : IsRow reservedWords words.flatten where
  free := ⟨words, fun w hw => (h.isWord w hw).isPiece, fun w hw hmem => h.free w hmem hw, rfl⟩
  starts := by
    obtain ⟨c, d, cs, heq, hc, -⟩ := h.exists_cons
    exact ⟨c, d :: cs, heq, hc⟩
  noOrder := h.order

lemma IsWord.underscore_notMem {w : List Char} (h : IsWord w) : '_' ∉ w := by
  cases w with
  | nil => exact List.not_mem_nil
  | cons c cs =>
    rw [List.mem_cons, not_or]
    refine ⟨?_, fun hmem => absurd (h.2 _ hmem) (by decide)⟩
    rintro rfl
    exact absurd h.1 (by decide)

lemma IsSegment.upperFirst (h : IsSegment words) :
    upperFirst (lowerFirst words.flatten) = words.flatten := by
  obtain ⟨c, d, cs, heq, hc, -⟩ := h.exists_cons
  rw [heq, lowerFirst, MethodName.upperFirst, toUpper_toLower hc]

lemma IsSegment.decapitalize (h : IsSegment words) :
    decapitalize words.flatten = lowerFirst words.flatten := by
  obtain ⟨c, d, cs, heq, hc, hd⟩ := h.exists_cons
  rw [heq, MethodName.decapitalize, isUppercase_of_isLower hd, Bool.and_false, lower_of_isUpper hc]
  rfl

variable {segment : List Char}

lemma IsSpellableSegment.isRow (h : IsSpellableSegment segment) :
    IsRow reservedWords (upperFirst segment) := by
  obtain ⟨words, hwords, rfl⟩ := h
  rw [hwords.upperFirst]
  exact hwords.isRow

lemma IsSpellableSegment.decapitalize (h : IsSpellableSegment segment) :
    decapitalize (upperFirst segment) = segment := by
  obtain ⟨words, hwords, rfl⟩ := h
  rw [hwords.upperFirst, hwords.decapitalize]

lemma IsSpellableSegment.underscore_notMem (h : IsSpellableSegment segment) :
    '_' ∉ upperFirst segment := by
  obtain ⟨words, hwords, rfl⟩ := h
  rw [hwords.upperFirst, List.mem_flatten]
  rintro ⟨w, hw, hmem⟩
  exact (hwords.isWord w hw).underscore_notMem hmem

/-! ### Properties -/

lemma isTail_underscore : IsTail reservedWords ['_'] where
  free := by
    have hword : ¬ IsWord ['_'] := by decide
    have hfree : ['_'] ∉ reservedWords := fun h => hword (isWord_of_mem_reservedWords _ h)
    refine ⟨[['_']], List.forall_mem_singleton.mpr ⟨rfl, by simp⟩, fun w hw hmem => ?_, rfl⟩
    exact hfree (List.mem_singleton.mp hmem ▸ hw)
  noOrder := by decide
  noBy := by decide

/-- Rows with an underscore between them are a row. -/
lemma isRow_intercalate {texts : List (List Char)} (hne : texts ≠ [])
    (h : ∀ text ∈ texts, IsRow reservedWords text) :
    IsRow reservedWords (['_'].intercalate texts) := by
  induction texts with
  | nil => exact absurd rfl hne
  | cons text texts ih =>
    obtain ⟨htext, htexts⟩ := List.forall_mem_cons.mp h
    by_cases hlast : texts = []
    · rw [hlast, List.intercalate_singleton]
      exact htext
    · rw [List.intercalate_cons_of_ne_nil hlast, List.append_assoc]
      have htail : IsTail reservedWords (['_'] ++ ['_'].intercalate texts) :=
        isTail_underscore.append_row (by simp) (by decide) (ih hlast htexts)
      exact htext.append htail

variable {property : String}

lemma isSpellableProperty_of_splitOn (segments : List (List (List Char)))
    (h : ∀ words ∈ segments, IsSegment words)
    (heq : splitOn '.' property.toList = segments.map fun words => lowerFirst words.flatten) :
    IsSpellableProperty property := by
  intro segment hsegment
  rw [heq] at hsegment
  obtain ⟨words, hwords, rfl⟩ := List.mem_map.mp hsegment
  exact ⟨words, h words hwords, rfl⟩

lemma isRow_propertyText (h : IsSpellableProperty property) :
    IsRow reservedWords (propertyText property) := by
  refine isRow_intercalate (by simpa using splitOn_ne_nil '.' property.toList) ?_
  exact List.forall_mem_map.mpr fun segment hsegment => (h segment hsegment).isRow

lemma splitOn_propertyText (h : IsSpellableProperty property) :
    splitOn '_' (propertyText property) = (splitOn '.' property.toList).map upperFirst := by
  rw [splitOn_eq '_', propertyText]
  refine List.splitOn_intercalate '_' ?_ (by simpa using splitOn_ne_nil '.' property.toList)
  exact List.forall_mem_map.mpr fun segment hsegment => (h segment hsegment).underscore_notMem

lemma intercalate_splitOn (property : String) :
    String.intercalate "." ((splitOn '.' property.toList).map String.ofList) = property := by
  apply String.toList_injective
  rw [String.toList_intercalate, List.map_map, splitOn_eq]
  simp [Function.comp_def]

/-- A property is found again in its text. -/
theorem propertyPath_propertyText (h : IsSpellableProperty property) :
    propertyPath (propertyText property) = .ok property := by
  have hsegments : ((splitOn '.' property.toList).map upperFirst).any (·.isEmpty) = false := by
    rw [List.any_eq_false]
    intro text htext
    obtain ⟨segment, hsegment, rfl⟩ := List.mem_map.mp htext
    simpa using (h segment hsegment).isRow.ne_nil
  have hpath : (splitOn '.' property.toList).map (fun s => String.ofList (decapitalize (upperFirst s)))
      = (splitOn '.' property.toList).map String.ofList :=
    List.map_congr_left fun segment hsegment =>
      congrArg String.ofList (h segment hsegment).decapitalize
  simp only [propertyPath]
  rw [splitOn_propertyText h, hsegments, List.map_map]
  exact congrArg Except.ok ((congrArg (String.intercalate ".") hpath).trans
    (intercalate_splitOn property))

end MethodName

end DocQuery
