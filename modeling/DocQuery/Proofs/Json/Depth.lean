import DocQuery.Proofs.Json.Reading
/-!
# How deep values nest that are read

A text is read as a value that nests no deeper than is read (`depth_of_parse?`): what nests deeper is
flawed, and a flawed value does not nest.
-/

namespace DocQuery.Json

lemma depth_le_of_mem {js : List Json} {j : Json} (h : j ∈ js) : j.depth ≤ depths js := by
  induction js with
  | nil => exact absurd h (by simp)
  | cons k js ih =>
    rw [depths]
    rcases List.mem_cons.mp h with rfl | h
    · exact Nat.le_max_left ..
    · exact Nat.le_trans (ih h) (Nat.le_max_right ..)

lemma depth_le_of_mem_fields {fields : List (String × Json)} {field : String × Json}
    (h : field ∈ fields) : field.2.depth ≤ fieldDepths fields := by
  induction fields with
  | nil => exact absurd h (by simp)
  | cons next fields ih =>
    rw [fieldDepths]
    rcases List.mem_cons.mp h with rfl | h
    · exact Nat.le_max_left ..
    · exact Nat.le_trans (ih h) (Nat.le_max_right ..)

lemma fieldDepths_le {fields : List (String × Json)} {d : Nat}
    (h : ∀ field ∈ fields, field.2.depth ≤ d) : fieldDepths fields ≤ d := by
  induction fields with
  | nil => exact Nat.zero_le d
  | cons field fields ih =>
    obtain ⟨hfield, hfields⟩ := List.forall_mem_cons.mp h
    exact Nat.max_le.mpr ⟨hfield, ih hfields⟩

/-! ### Reading -/

lemma depth_of_named {fields : List (Option String × Json)} {named : List (String × Json)} {d : Nat}
    (hnamed : (fields.mapM fun (name, j) => name.map (·, j)) = some named)
    (h : ∀ field ∈ fields, field.2.depth ≤ d) : ∀ field ∈ named, field.2.depth ≤ d := by
  induction fields generalizing named with
  | nil =>
    obtain rfl := Option.some.inj hnamed
    simp
  | cons field fields ih =>
    obtain ⟨hfield, hfields⟩ := List.forall_mem_cons.mp h
    rw [List.mapM_cons] at hnamed
    obtain ⟨first, hfirst, hnamed⟩ := Option.bind_eq_some_iff.mp hnamed
    obtain ⟨rest, hrest, hnamed⟩ := Option.bind_eq_some_iff.mp hnamed
    obtain rfl := Option.some.inj hnamed
    obtain ⟨name, -, rfl⟩ := Option.map_eq_some_iff.mp hfirst
    exact List.forall_mem_cons.mpr ⟨hfield, ih hrest hfields⟩

lemma depth_ofFields {fields : List (Option String × Json)} {d : Nat}
    (h : ∀ field ∈ fields, field.2.depth ≤ d) : (ofFields fields).depth ≤ d + 1 := by
  rw [ofFields]
  split
  · next hnamed => exact Nat.succ_le_succ (fieldDepths_le (depth_of_named hnamed h))
  · exact Nat.zero_le _

lemma depth_numeral (n : Numeral) : n.toJson.depth = 0 := by
  rw [Numeral.toJson]
  split
  · rfl
  · split <;> rfl

mutual

/-- A value is read no deeper than it may be. -/
theorem depth_of_readValue : ∀ (fuel : Nat) {d : Nat} {cs rest : List Char} {j : Json},
    readValue fuel d cs = some (j, rest) → j.depth ≤ d
  | 0, _, _, _, _, h => by simp [readValue] at h
  | fuel + 1, d, cs, rest, j, h => by
    rw [readValue] at h
    split at h
    -- null and the truth values
    iterate 3
      · cases h
        exact Nat.zero_le d
    · obtain ⟨⟨s, _⟩, -, h⟩ := Option.map_eq_some_iff.mp h
      cases h
      cases s <;> exact Nat.zero_le d
    · split at h
      · cases h
        split
        · exact Nat.zero_le d
        · simp only [depth, depths]
          omega
      · obtain ⟨⟨items, _⟩, hitems, h⟩ := Option.map_eq_some_iff.mp h
        have hdepths := depth_of_readItems fuel hitems
        cases h
        split
        · exact Nat.zero_le d
        · rw [depth]
          omega
    · split at h
      · cases h
        split
        · exact Nat.zero_le d
        · simp only [depth, fieldDepths]
          omega
      · obtain ⟨⟨fields, _⟩, hfields, h⟩ := Option.map_eq_some_iff.mp h
        have hdepths := depth_ofFields (depth_of_readFields fuel hfields)
        cases h
        split
        · exact Nat.zero_le d
        · omega
    · obtain ⟨⟨n, _⟩, -, h⟩ := Option.map_eq_some_iff.mp h
      cases h
      rw [depth_numeral]
      exact Nat.zero_le d

theorem depth_of_readItems : ∀ (fuel : Nat) {d : Nat} {cs rest : List Char} {js : List Json},
    readItems fuel d cs = some (js, rest) → depths js ≤ d
  | 0, _, _, _, _, h => by simp [readItems] at h
  | fuel + 1, d, cs, rest, js, h => by
    rw [readItems] at h
    obtain ⟨⟨item, _⟩, hitem, h⟩ := Option.bind_eq_some_iff.mp h
    have hdepth := depth_of_readValue fuel hitem
    simp only at h
    split at h
    · obtain ⟨⟨items, _⟩, hitems, h⟩ := Option.bind_eq_some_iff.mp h
      have hdepths := depth_of_readItems fuel hitems
      cases h
      exact Nat.max_le.mpr ⟨hdepth, hdepths⟩
    · cases h
      exact Nat.max_le.mpr ⟨hdepth, Nat.zero_le d⟩
    · exact absurd h (by simp)

theorem depth_of_readFields : ∀ (fuel : Nat) {d : Nat} {cs rest : List Char}
    {fields : List (Option String × Json)},
    readFields fuel d cs = some (fields, rest) → ∀ field ∈ fields, field.2.depth ≤ d
  | 0, _, _, _, _, h => by simp [readFields] at h
  | fuel + 1, d, cs, rest, fields, h => by
    rw [readFields] at h
    split at h
    · obtain ⟨⟨name, _⟩, -, h⟩ := Option.bind_eq_some_iff.mp h
      simp only at h
      split at h
      · obtain ⟨⟨j, _⟩, hj, h⟩ := Option.bind_eq_some_iff.mp h
        have hdepth := depth_of_readValue fuel hj
        simp only at h
        split at h
        · obtain ⟨⟨fields, _⟩, hfields, h⟩ := Option.bind_eq_some_iff.mp h
          have hdepths := depth_of_readFields fuel hfields
          cases h
          exact List.forall_mem_cons.mpr ⟨hdepth, hdepths⟩
        · cases h
          simpa using hdepth
        · exact absurd h (by simp)
      · exact absurd h (by simp)
    · exact absurd h (by simp)

end

/-- A text is read as a value that does not nest too deep. -/
theorem depth_of_parse? {text : String} {j : Json} (h : parse? text = some j) :
    j.depth ≤ maxDepth := by
  obtain ⟨⟨k, rest⟩, hread, h⟩ := Option.bind_eq_some_iff.mp h
  have hdepth := depth_of_readValue _ hread
  simp only at h
  split at h
  · obtain rfl := Option.some.inj h
    exact hdepth
  · exact absurd h (by simp)

end DocQuery.Json
