import DocQuery.Placeholders
import DocQuery.Proofs.FieldPath
import Mathlib.Data.List.Nodup
/-!
# Placeholders that are issued

A fresh name is new (`freshName_not_mem`): the search for a numbered name looks at one name more
than there are taken. Placeholders that are issued one after another are `$1`, `$2`, … in
positional style and pairwise distinct in named style, and what is finished binds them to their
values (`finish_issue`).
-/

namespace DocQuery

namespace Placeholders

variable {taken : List String} {hint : String}

/-! ### Numbered names -/

lemma numbered_injective (hint : String) :
    Function.Injective fun m : Nat => hint ++ "_" ++ toString m := by
  intro m n h
  have hdigits : Nat.toDigits 10 m = Nat.toDigits 10 n := by
    simpa using congrArg String.toList h
  rw [← Nat.ofDigitChars_ten_toDigits (n := m), hdigits, Nat.ofDigitChars_ten_toDigits]

/-- If the search ends with a name that is taken, all names on its way are. -/
lemma mem_of_numberedName_mem {fuel m : Nat} (h : numberedName taken hint fuel m ∈ taken) {i : Nat}
    (hi : i ≤ fuel) : hint ++ "_" ++ toString (m + i) ∈ taken := by
  induction fuel generalizing m i with
  | zero =>
    obtain rfl : i = 0 := by omega
    exact h
  | succ fuel ih =>
    rw [numberedName] at h
    split at h
    · next hm =>
      cases i with
      | zero => exact hm
      | succ i =>
        rw [show m + (i + 1) = m + 1 + i by omega]
        exact ih h (by omega)
    · next hm => exact absurd h hm

lemma numberedName_not_mem (taken : List String) (hint : String) (m : Nat) :
    numberedName taken hint taken.length m ∉ taken := by
  intro h
  -- all names that were tried are taken and differ, which are more than there are
  have hnodup :
      ((List.range (taken.length + 1)).map fun i => hint ++ "_" ++ toString (m + i)).Nodup := by
    apply List.nodup_range.map
    intro i j hij
    have := numbered_injective hint hij
    omega
  have hsubset : ((List.range (taken.length + 1)).map fun i => hint ++ "_" ++ toString (m + i)) ⊆
      taken := by
    intro name hname
    obtain ⟨i, hi, rfl⟩ := List.mem_map.mp hname
    exact mem_of_numberedName_mem h (by simpa [Nat.lt_succ_iff] using hi)
  have hlength := hnodup.length_le_of_subset hsubset
  simp only [List.length_map, List.length_range] at hlength
  omega

/-- A fresh name is not taken. -/
theorem freshName_not_mem (taken : List String) (hint : String) : freshName taken hint ∉ taken := by
  rw [freshName]
  split
  · exact numberedName_not_mem taken hint 2
  · assumption

/-! ### Characters of names -/

lemma isNameChar_of_mem_numberedName {fuel m : Nat}
    (hhint : ∀ c ∈ hint.toList, FieldPath.isNameChar c = true) {c : Char}
    (h : c ∈ (numberedName taken hint fuel m).toList) : FieldPath.isNameChar c = true := by
  have hnumbered : ∀ n : Nat, c ∈ (hint ++ "_" ++ toString n).toList →
      FieldPath.isNameChar c = true := by
    intro n hc
    rw [String.toList_append, String.toList_append, List.mem_append, List.mem_append] at hc
    rcases hc with (hc | hc) | hc
    · exact hhint c hc
    · obtain rfl : c = '_' := by simpa using hc
      rfl
    · exact FieldPath.isNameChar_of_mem_toString hc
  induction fuel generalizing m with
  | zero => exact hnumbered m h
  | succ fuel ih =>
    rw [numberedName] at h
    split at h
    · exact ih h
    · exact hnumbered m h

/-- The next name is made of name characters if its hint is. -/
lemma isNameChar_of_mem_nextName {p : Placeholders}
    (hhint : ∀ c ∈ hint.toList, FieldPath.isNameChar c = true) {c : Char}
    (h : c ∈ (p.nextName hint).toList) : FieldPath.isNameChar c = true := by
  rw [nextName] at h
  split at h
  · exact FieldPath.isNameChar_of_mem_toString h
  · rw [freshName] at h
    split at h
    · exact isNameChar_of_mem_numberedName hhint h
    · exact hhint c h

/-! ### One after another -/

/-- Issues placeholders for values with their hints. -/
def issue (p : Placeholders) : List (String × Value) → Placeholders
  | [] => p
  | (hint, v) :: slots => (p.push hint v).2.issue slots

/-- The names that are issued for values with their hints. -/
def issuedNames (p : Placeholders) : List (String × Value) → List String
  | [] => []
  | (hint, v) :: slots => p.nextName hint :: (p.push hint v).2.issuedNames slots

variable (p : Placeholders) (slots : List (String × Value))

lemma names_issue : (p.issue slots).names = p.names ++ p.issuedNames slots := by
  induction slots generalizing p with
  | nil => simp [issue, issuedNames]
  | cons slot slots ih => simp [issue, issuedNames, ih, push, next, bind]

lemma values_issue : (p.issue slots).values = p.values ++ slots.map (·.2) := by
  induction slots generalizing p with
  | nil => simp [issue]
  | cons slot slots ih => simp [issue, ih, push, next, bind]

lemma style_issue : (p.issue slots).style = p.style := by
  induction slots generalizing p with
  | nil => rfl
  | cons slot slots ih => rw [issue, ih]; rfl

lemma length_issuedNames : (p.issuedNames slots).length = slots.length := by
  induction slots generalizing p with
  | nil => rfl
  | cons slot slots ih => simp [issuedNames, ih]

/-- Positional names count on. -/
lemma issuedNames_of_positional (h : p.style = .positional) :
    p.issuedNames slots = (List.range' (p.names.length + 1) slots.length).map toString := by
  induction slots generalizing p with
  | nil => rfl
  | cons slot slots ih =>
    have hnext : p.nextName slot.1 = toString (p.names.length + 1) := by rw [nextName, h]
    have hrest := ih (p.push slot.1 slot.2).2 h
    have hlength : (p.push slot.1 slot.2).2.names.length = p.names.length + 1 := by
      simp [push, next, bind]
    rw [issuedNames, hrest, hlength, hnext, List.length_cons, List.range'_succ, List.map_cons]

/-- Named ones stay distinct. -/
lemma nodup_names_issue (h : p.style = .named) (hnodup : p.names.Nodup) :
    (p.issue slots).names.Nodup := by
  induction slots generalizing p with
  | nil => exact hnodup
  | cons slot slots ih =>
    refine ih _ h ?_
    have hnext : p.nextName slot.1 = freshName p.names slot.1 := by rw [nextName, h]
    have hnew : p.nextName slot.1 ∉ p.names := hnext ▸ freshName_not_mem p.names slot.1
    simpa [push, next, bind] using hnodup.concat hnew

/-- Names that are issued are made of name characters if their hints are. -/
lemma isNameChar_of_mem_issuedNames
    (hslots : ∀ slot ∈ slots, ∀ c ∈ slot.1.toList, FieldPath.isNameChar c = true) :
    ∀ name ∈ p.issuedNames slots, ∀ c ∈ name.toList, FieldPath.isNameChar c = true := by
  induction slots generalizing p with
  | nil => simp [issuedNames]
  | cons slot slots ih =>
    obtain ⟨hslot, hslots⟩ := List.forall_mem_cons.mp hslots
    exact List.forall_mem_cons.mpr ⟨fun c => isNameChar_of_mem_nextName hslot, ih _ hslots⟩

end Placeholders

/-! ### Bindings -/

namespace Bindings

lemma insert_perm {name : String} (v : Value) {entries : List (String × Value)}
    (h : name ∉ entries.map Prod.fst) : (insert name v entries).Perm ((name, v) :: entries) := by
  induction entries with
  | nil => exact .refl _
  | cons entry entries ih =>
    obtain ⟨hne, hnot⟩ : name ≠ entry.1 ∧ name ∉ entries.map Prod.fst := by simpa using h
    rw [insert, if_neg hne]
    split
    · exact .refl _
    · exact ((ih hnot).cons entry).trans (.swap (name, v) entry entries)

lemma foldl_insert_perm (sorted : List (String × Value)) {entries : List (String × Value)}
    (h : ((sorted ++ entries).map Prod.fst).Nodup) :
    (entries.foldl (fun sorted (name, v) => insert name v sorted) sorted).Perm
      (sorted ++ entries) := by
  induction entries generalizing sorted with
  | nil => simp
  | cons entry entries ih =>
    have hperm : (insert entry.1 entry.2 sorted ++ entries).Perm (sorted ++ entry :: entries) := by
      have hnot : entry.1 ∉ sorted.map Prod.fst := by
        intro hmem
        simp only [List.map_append, List.map_cons] at h
        exact (List.nodup_append.mp h).2.2 _ hmem _ (by simp) rfl
      exact ((insert_perm entry.2 hnot).append_right entries).trans List.perm_middle.symm
    rw [List.foldl_cons]
    exact (ih _ ((hperm.map Prod.fst).nodup_iff.mpr h)).trans hperm

/-- Entries with distinct names are all in their dictionary. -/
lemma ofEntries_perm {entries : List (String × Value)} (h : (entries.map Prod.fst).Nodup) :
    (ofEntries entries).Perm entries :=
  foldl_insert_perm [] h

/-- The style of the placeholders that the values are bound to. -/
def style : Bindings → PlaceholderStyle
  | .positional _ => .positional
  | .named _ => .named

/-- The tokens are bound to the values, and nothing else is. -/
def Binds : Bindings → List String → List Value → Prop
  | .positional bound, tokens, values =>
    bound = values ∧ tokens = (List.range' 1 values.length).map fun i => "$" ++ toString i
  | .named entries, tokens, values =>
    ∃ names : List String, tokens = names.map ("$" ++ ·) ∧ names.Nodup ∧
      names.length = values.length ∧ entries.Perm (names.zip values)

lemma Binds.length_eq {bindings : Bindings} {tokens : List String} {values : List Value}
    (h : bindings.Binds tokens values) : tokens.length = values.length := by
  cases bindings with
  | positional bound =>
    obtain ⟨-, rfl⟩ := h
    rw [List.length_map, List.length_range']
  | named entries =>
    obtain ⟨names, rfl, -, hlength, -⟩ := h
    rw [List.length_map, hlength]

end Bindings

namespace Placeholders

variable (style : PlaceholderStyle) (slots : List (String × Value))

lemma names_issue_empty : ((empty style).issue slots).names = (empty style).issuedNames slots := by
  rw [names_issue]
  rfl

lemma values_issue_empty : ((empty style).issue slots).values = slots.map (·.2) := by
  rw [values_issue]
  rfl

/-- What is issued from the start is bound to its values. -/
theorem finish_issue :
    ∃ bindings, ((empty style).issue slots).finish = .ok bindings ∧ bindings.style = style ∧
      bindings.Binds (((empty style).issue slots).names.map ("$" ++ ·)) (slots.map (·.2)) := by
  have hlength : ((empty style).issuedNames slots).length = (slots.map (·.2)).length := by
    rw [length_issuedNames, List.length_map]
  rw [finish, names_issue_empty, values_issue_empty, if_neg (by simpa using hlength), style_issue]
  cases style with
  | positional =>
    refine ⟨_, rfl, rfl, rfl, ?_⟩
    rw [issuedNames_of_positional _ _ rfl, List.map_map, List.length_map]
    rfl
  | named =>
    have hnodup := nodup_names_issue (empty .named) slots rfl .nil
    rw [names_issue_empty] at hnodup
    refine ⟨_, rfl, rfl, _, rfl, hnodup, hlength, Bindings.ofEntries_perm ?_⟩
    rwa [List.map_fst_zip (Nat.le_of_eq hlength)]

end Placeholders

end DocQuery
