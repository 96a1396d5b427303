import DocQuery.Proofs.FieldPath
/-!
# Paths of keys

The path of a key is a row of quoted segments, outside which nothing of the key stands but dots. A
key that begins and ends with one kind of quote is kept as it is, so that its path is such a row if
the key is one itself (`isSegmented_ofKey_iff`).
-/

namespace DocQuery.FieldPath

variable {key : String}

/-- A key that does not look quoted is quoted segment by segment. -/
lemma isQuoted_ofKey (hcall : '(' ∉ key.toList) (hquoted : Quoted.isQuoted key = false) :
    (ofKey key).IsQuoted := by
  rw [ofKey, if_neg (by simp [hquoted, hcall]), dottedSegments]
  obtain ⟨segment, segments, hsplit⟩ := List.exists_cons_of_ne_nil (splitOn_ne_nil '.' key.toList)
  exact ⟨String.ofList segment, segments.map String.ofList, by rw [hsplit, List.map_cons]⟩

/-- The path of a key that calls no function is a row of quoted segments, if the key does not look
quoted or is such a row itself. Then the runs of the path are closed, and nothing stands outside
them but dots. -/
theorem isSegmented_ofKey_iff (hcall : '(' ∉ key.toList) :
    (IsSegmented (ofKey key).text.toList ↔
      (Quoted.isQuoted key = true → IsSegmented key.toList)) ∧
    (IsSegmented (ofKey key).text.toList →
      Closed (ofKey key).text.toList ∧ ∀ c ∈ bare (ofKey key).text.toList, c = '.') := by
  refine ⟨?_, fun h => ⟨h.closed, h.eq_of_mem_bare⟩⟩
  cases hquoted : Quoted.isQuoted key with
  | false => simp [(isQuoted_ofKey hcall hquoted).isSegmented]
  | true => simp [ofKey, hquoted]

/-- Quotes, blanks and operators of a key end up in a segment, and dots between segments. -/
theorem isSegmented_ofKey_of_operators :
    let key := "a` = 1 or `b.\"c\""
    '(' ∉ key.toList ∧ IsSegmented (ofKey key).text.toList ∧
      ∀ c ∈ bare (ofKey key).text.toList, c = '.' := by
  intro key
  have hcall : '(' ∉ key.toList := by decide
  obtain ⟨hiff, hbare⟩ := isSegmented_ofKey_iff hcall
  have hsegmented : IsSegmented (ofKey key).text.toList := hiff.mpr fun h => absurd h (by decide)
  exact ⟨hcall, hsegmented, (hbare hsegmented).2⟩

/-- Between two quoted names, an operator gets out of its quotes. -/
theorem not_isSegmented_ofKey :
    let key := "`a` = 1 or `b`"
    '(' ∉ key.toList ∧ (ofKey key).text = key ∧
      bare (ofKey key).text.toList = " = 1 or ".toList ∧
      ¬ IsSegmented (ofKey key).text.toList := by
  intro key
  have hbare : bare (ofKey key).text.toList = " = 1 or ".toList := by decide
  refine ⟨by decide, by decide, hbare, fun h => ?_⟩
  exact absurd (h.eq_of_mem_bare ' ' (by rw [hbare]; decide)) (by decide)

end DocQuery.FieldPath
