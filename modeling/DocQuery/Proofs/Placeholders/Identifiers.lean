import DocQuery.Proofs.Criteria.Exports
import DocQuery.Proofs.MethodName.Words
import DocQuery.Proofs.Placeholders.Calls
/-!
# Placeholders that are identifiers

The name of a parameter has the characters of an identifier, but it may start with a digit. A number
behind it does not change how it starts, so that a named placeholder is an identifier if the first
character that its field gives to the name is no digit (`token_isNamed_iff`).
-/

namespace DocQuery

/-- A letter or an underscore, and letters, digits and underscores behind it. -/
def IsIdentifier (name : String) : Prop :=
  ∃ first rest, name.toList = first :: rest ∧ (first.isAlpha = true ∨ first = '_') ∧
    ∀ c ∈ rest, FieldPath.isNameChar c = true

/-- The token of a named placeholder: a `$` and an identifier. -/
def IsNamedToken (token : String) : Prop := ∃ name, token = "$" ++ name ∧ IsIdentifier name

/-- The token of a positional placeholder: a `$` and a number. -/
def IsNumberedToken (token : String) : Prop := ∃ n : Nat, token = "$" ++ toString n

lemma isNamedToken_iff {name : String} : IsNamedToken ("$" ++ name) ↔ IsIdentifier name := by
  constructor
  · rintro ⟨name', heq, hname⟩
    obtain rfl : name = name' := by simpa [← String.toList_inj] using heq
    exact hname
  · intro h
    exact ⟨name, rfl, h⟩

/-! ### How names start -/

lemma isDigit_eq_false_of_isAlpha {c : Char} (h : c.isAlpha = true) : c.isDigit = false := by
  have hletter : c.isUpper = true ∨ c.isLower = true := Bool.or_eq_true_iff.mp h
  rw [MethodName.isUpper_iff, MethodName.isLower_iff] at hletter
  have hrange : ¬ (48 ≤ c.toNat ∧ c.toNat ≤ 57) := by omega
  rwa [Bool.eq_false_iff, ne_eq, Char.isDigit_iff_toNat]

/-- A name character that is no digit may start an identifier. -/
lemma isAlpha_or_eq_iff {c : Char} (h : FieldPath.isNameChar c = true) :
    (c.isAlpha = true ∨ c = '_') ↔ c.isDigit = false := by
  constructor
  · rintro (halpha | rfl)
    · exact isDigit_eq_false_of_isAlpha halpha
    · rfl
  · intro hdigit
    simpa [FieldPath.isNameChar, Char.isAlphanum, hdigit] using h

lemma isIdentifier_iff {name : String} (h : ∀ c ∈ name.toList, FieldPath.isNameChar c = true) :
    IsIdentifier name ↔ ∃ c ∈ name.toList.head?, c.isDigit = false := by
  constructor
  · rintro ⟨first, rest, htext, hfirst, -⟩
    rw [htext] at h ⊢
    exact ⟨first, rfl, (isAlpha_or_eq_iff (h first List.mem_cons_self)).mp hfirst⟩
  · rintro ⟨first, hhead, hdigit⟩
    obtain ⟨rest, htext⟩ := List.head?_eq_some_iff.mp hhead
    rw [htext] at h
    obtain ⟨hfirst, hrest⟩ := List.forall_mem_cons.mp h
    exact ⟨first, rest, htext, (isAlpha_or_eq_iff hfirst).mpr hdigit, hrest⟩

/-- A number starts with a digit, so that no identifier is one. -/
lemma IsNamedToken.not_isNumberedToken {token : String} (h : IsNamedToken token) :
    ¬ IsNumberedToken token := by
  rintro ⟨n, hn⟩
  obtain ⟨name, rfl, first, rest, htext, hfirst, -⟩ := h
  obtain rfl : name = toString n := by simpa [← String.toList_inj] using hn
  have hmem : first ∈ (toString n).toList := htext ▸ List.mem_cons_self
  have hname := FieldPath.isNameChar_of_mem_toString hmem
  have hdigit : first.isDigit = false := (isAlpha_or_eq_iff hname).mp hfirst
  simp [isDigit_of_mem_toString hmem] at hdigit

namespace FieldPath

/-- The first character of the path that goes into the name of a parameter is a digit. -/
def StartsWithDigit (p : FieldPath) : Prop := ∃ c ∈ p.text.toList.find? isNameChar, c.isDigit = true

lemma head?_nameChars (cs : List Char) : (nameChars none cs).head? = cs.find? isNameChar := by
  induction cs with
  | nil => rfl
  | cons c cs ih =>
    by_cases hc : isNameChar c
    · simp [nameChars, hc]
    · simp [nameChars, hc, ih]

lemma parameterName_ne_empty (p : FieldPath) : p.parameterName.toList ≠ [] := by
  rw [parameterName]
  split
  · simp
  · next hne => simpa using hne

/-- A parameter name is an identifier if its field does not give it a digit to start with. -/
lemma isIdentifier_parameterName_iff (p : FieldPath) :
    IsIdentifier p.parameterName ↔ ¬ p.StartsWithDigit := by
  rw [isIdentifier_iff fun _ => isNameChar_of_mem_parameterName, StartsWithDigit, ← head?_nameChars,
    parameterName]
  cases nameChars none p.text.toList with
  | nil => simp
  | cons c cs => simp

end FieldPath

/-! ### Names that are issued -/

namespace Placeholders

/-- A number behind a name does not change whether it is an identifier. -/
lemma isIdentifier_numbered_iff {hint : String} (hne : hint.toList ≠ []) (m : Nat) :
    IsIdentifier (hint ++ "_" ++ toString m) ↔ IsIdentifier hint := by
  obtain ⟨first, rest, htext⟩ := List.exists_cons_of_ne_nil hne
  have hnumber : ∀ c ∈ '_' :: (toString m).toList, FieldPath.isNameChar c = true :=
    List.forall_mem_cons.mpr ⟨rfl, fun _ => FieldPath.isNameChar_of_mem_toString⟩
  constructor
  · rintro ⟨first', rest', htext', hfirst, hrest⟩
    simp only [String.toList_append, htext, List.cons_append, List.cons.injEq] at htext'
    obtain ⟨rfl, rfl⟩ := htext'
    exact ⟨first, rest, htext, hfirst, fun c hc => hrest c (by simp [hc])⟩
  · rintro ⟨first', rest', htext', hfirst, hrest⟩
    refine ⟨first', rest' ++ '_' :: (toString m).toList, by simp [htext'], hfirst, ?_⟩
    exact List.forall_mem_append.mpr ⟨hrest, hnumber⟩

lemma isIdentifier_freshName_iff {hint : String} (hne : hint.toList ≠ []) (taken : List String) :
    IsIdentifier (freshName taken hint) ↔ IsIdentifier hint := by
  obtain ⟨-, heq⟩ | ⟨-, m, -, heq, -⟩ := isFirstFree_freshName taken hint
  · rw [heq]
  · rw [heq, isIdentifier_numbered_iff hne]

/-- In named style, the names that are issued for fields are identifiers as far as the fields do not
start with a digit. -/
lemma forall₂_issuedNames {slots : List (String × Value)} {fields : List FieldPath}
    {p : Placeholders} (hp : p.style = .named)
    (hslots : slots.map Prod.fst = fields.map FieldPath.parameterName) :
    List.Forall₂ (fun field name => IsIdentifier name ↔ ¬ field.StartsWithDigit) fields
      (p.issuedNames slots) := by
  induction slots generalizing p fields with
  | nil =>
    obtain rfl : fields = [] := List.map_eq_nil_iff.mp hslots.symm
    exact .nil
  | cons slot slots ih =>
    cases fields with
    | nil => simp at hslots
    | cons field fields =>
      obtain ⟨hslot, hslots⟩ := List.cons.inj hslots
      have hname : p.nextName slot.1 = freshName p.names slot.1 := by rw [nextName, hp]
      refine .cons ?_ (ih hp hslots)
      rw [hname, hslot, isIdentifier_freshName_iff field.parameterName_ne_empty,
        field.isIdentifier_parameterName_iff]

end Placeholders

/-! ### Placeholders of criteria -/

namespace Criteria

/-- The fields that the known values are compared with, value by value. -/
def valueFields (c : Criteria) : List FieldPath :=
  c.comparisons.flatMap fun k => (k.test.operands.filterMap Operand.value?).map fun _ => k.field

lemma map_fst_slots (c : Criteria) :
    c.slots.map Prod.fst = c.valueFields.map FieldPath.parameterName := by
  have hslots : ∀ k : Comparison, k.slots.map Prod.fst =
      ((k.test.operands.filterMap Operand.value?).map fun _ => k.field).map
        FieldPath.parameterName := by
    intro k
    rw [Comparison.slots, List.map_filterMap, List.map_map, List.map_filterMap]
    simp [Function.comp_def]
  rw [slots, valueFields, List.map_flatMap, List.map_flatMap]
  exact congrArg (List.flatMap · c.comparisons) (funext hslots)

/-- The values that an export reaches are named after their fields. -/
lemma exists_fields_in_front (c : Criteria) :
    ∃ fields, fields <+: c.valueFields ∧ (c.deferredCount = 0 → fields = c.valueFields) ∧
      c.slotsInFront.map Prod.fst = fields.map FieldPath.parameterName := by
  have hfront := List.prefix_iff_eq_take.mp c.slotsInFront_isPrefix
  refine ⟨c.valueFields.take c.slotsInFront.length, List.take_prefix _ _, ?_, ?_⟩
  · intro hknown
    have hlength : c.slots.length = c.valueFields.length := by
      simpa using congrArg List.length c.map_fst_slots
    rw [slotsInFront_eq_slots hknown, hlength, List.take_length]
  · rw [hfront, List.map_take, map_fst_slots, ← List.map_take, ← hfront]

/-- The placeholders that named style issues for a criteria, one after another for its values, are
identifiers behind their `$` if their fields do not start with a digit, and then none of them is a
number. If all operands are known, there is one for each of them. -/
theorem token_isNamed_iff (c : Criteria) (taken : List String) (values : List Value) :
    ∃ fields names, fields <+: c.valueFields ∧ (c.deferredCount = 0 → fields = c.valueFields) ∧
      (c.bound ⟨.named, taken, values⟩).2.names = taken ++ names ∧
      List.Forall₂ (fun (field : FieldPath) (name : String) =>
        (IsNamedToken ("$" ++ name) ↔ ¬ field.StartsWithDigit) ∧
        (¬ field.StartsWithDigit → ¬ IsNumberedToken ("$" ++ name))) fields names := by
  obtain ⟨fields, hfront, hall, hhints⟩ := c.exists_fields_in_front
  let p : Placeholders := ⟨.named, taken, values⟩
  refine ⟨fields, p.issuedNames c.slotsInFront, hfront, hall, ?_, ?_⟩
  · rw [snd_bound, Placeholders.names_issue]
  · have hnames := Placeholders.forall₂_issuedNames (p := p) rfl hhints
    refine hnames.imp fun field name hname => ?_
    have htoken : IsNamedToken ("$" ++ name) ↔ ¬ field.StartsWithDigit := by
      rw [isNamedToken_iff, hname]
    exact ⟨htoken, fun hfield => (htoken.mpr hfield).not_isNumberedToken⟩

/-- A field whose name is a number. -/
def secondIsFive : Criteria := (Criterion.on (.ofKey "2")).relate .eq (.int 5)

/-- The placeholder of such a field is that of a second value. -/
theorem token_of_secondIsFive :
    secondIsFive.bound (.empty .named) = (.ok "`2` = $2", ⟨.named, ["2"], [.int 5]⟩) ∧
      ¬ IsNamedToken "$2" ∧ IsNumberedToken "$2" := by
  have hnumber : IsNumberedToken "$2" := ⟨2, rfl⟩
  exact ⟨rfl, fun hnamed => hnamed.not_isNumberedToken hnumber, hnumber⟩

end Criteria

end DocQuery
