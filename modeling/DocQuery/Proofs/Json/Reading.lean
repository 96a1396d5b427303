import DocQuery.Proofs.Json.Numbers
import DocQuery.Proofs.Json.Strings
import Mathlib.Data.List.Forall2
import Mathlib.Tactic.ByContra
/-!
# Reading what was written

The compact text of a value is read as the value again, down to the depth at which the reader gives
up (`parse?_compact`). For the numbers of a value this needs that their texts are read back.
-/

namespace DocQuery.Json

/-! ### Nesting -/

mutual

/-- How deep arrays and objects nest in a value. -/
def depth : Json → Nat
  | .array items => depths items + 1
  | .object fields => fieldDepths fields + 1
  | _ => 0

/-- How deep arrays and objects nest in the items of an array. -/
def depths : List Json → Nat
  | [] => 0
  | j :: js => max (depth j) (depths js)

/-- How deep arrays and objects nest in the fields of an object. -/
def fieldDepths : List (String × Json) → Nat
  | [] => 0
  | (_, j) :: fields => max (depth j) (fieldDepths fields)

end

mutual

/-- The value as it is read when nesting has a value for `d` more levels. -/
def cut (d : Nat) : Json → Json
  | .array items => if d = 0 then .flawed else .array (cuts (d - 1) items)
  | .object fields => if d = 0 then .flawed else .object (cutFields (d - 1) fields)
  | j => j

/-- The items of an array as they are read. -/
def cuts (d : Nat) : List Json → List Json
  | [] => []
  | j :: js => cut d j :: cuts d js

/-- The fields of an object as they are read. -/
def cutFields (d : Nat) : List (String × Json) → List (String × Json)
  | [] => []
  | (name, j) :: fields => (name, cut d j) :: cutFields d fields

end

mutual

/-- Nothing is lost of a value that does not nest too deep. -/
lemma cut_eq_self : ∀ (j : Json) {d : Nat}, j.depth ≤ d → j.cut d = j
  | .array items, d, h => by
    rw [depth] at h
    rw [cut, if_neg (by omega), cuts_eq_self items (by omega)]
  | .object fields, d, h => by
    rw [depth] at h
    rw [cut, if_neg (by omega), cutFields_eq_self fields (by omega)]
  | .null, d, _ => rfl
  | .bool _, d, _ => rfl
  | .int _, d, _ => rfl
  | .float _, d, _ => rfl
  | .string _, d, _ => rfl
  | .flawed, d, _ => rfl

lemma cuts_eq_self : ∀ (js : List Json) {d : Nat}, depths js ≤ d → cuts d js = js
  | [], d, _ => rfl
  | j :: js, d, h => by
    rw [depths] at h
    rw [cuts, cut_eq_self j (by omega), cuts_eq_self js (by omega)]

lemma cutFields_eq_self :
    ∀ (fields : List (String × Json)) {d : Nat}, fieldDepths fields ≤ d → cutFields d fields = fields
  | [], d, _ => rfl
  | (name, j) :: fields, d, h => by
    rw [fieldDepths] at h
    rw [cutFields, cut_eq_self j (by omega), cutFields_eq_self fields (by omega)]

end

/-! ### Values that can be written -/

mutual

/-- The value has a text to be read from: no part is flawed, whole numbers have 64 bits, and the
texts of doubles are read back. -/
def ReadsBack : Json → Prop
  | .int n => Int64.minValue.toInt ≤ n ∧ n < UInt64.size
  | .float x => parse? (floatText x) = some (.float x)
  | .array items => AllReadBack items
  | .object fields => FieldsReadBack fields
  | .flawed => False
  | _ => True

/-- `ReadsBack` for all items of an array. -/
def AllReadBack : List Json → Prop
  | [] => True
  | j :: js => ReadsBack j ∧ AllReadBack js

/-- `ReadsBack` for all fields of an object. -/
def FieldsReadBack : List (String × Json) → Prop
  | [] => True
  | (_, j) :: fields => ReadsBack j ∧ FieldsReadBack fields

end

/-! ### Scalars -/

variable {fuel depth : Nat}

lemma skipBlanks_cons {c : Char} (h : isJsonBlank c = false) (cs : List Char) :
    skipBlanks (c :: cs) = c :: cs := by
  rw [skipBlanks, List.dropWhile_cons_of_neg (by simp [h])]

/-- What a numeral starts with. -/
def startsNumeral (c : Char) : Bool := c == '-' || c.isDigit

lemma isJsonBlank_of_startsNumeral {c : Char} (h : startsNumeral c = true) :
    isJsonBlank c = false := by
  by_contra hblank
  simp only [isJsonBlank, Bool.not_eq_false, Bool.or_eq_true, beq_iff_eq] at hblank
  rcases hblank with ((rfl | rfl) | rfl) | rfl <;> exact absurd h (by decide)

lemma exists_cons_of_readNumeral {cs : List Char} {r : Numeral × List Char}
    (h : readNumeral cs = some r) : ∃ c cs', cs = c :: cs' ∧ startsNumeral c = true := by
  unfold readNumeral at h
  split at h
  · next cs' => exact ⟨'-', cs', rfl, rfl⟩
  · next hminus =>
    cases cs with
    | nil => exact absurd h (by simp [readUnsigned, readWhole, readDigits])
    | cons c cs =>
      refine ⟨c, cs, rfl, ?_⟩
      by_contra hc
      have hdigit : c.isDigit = false := by simp_all [startsNumeral]
      exact absurd h (by simp [readUnsigned, readWhole, readDigits, hdigit])

lemma readValue_numeral {c : Char} (h : startsNumeral c = true) (cs : List Char) :
    readValue (fuel + 1) depth (c :: cs) =
      (readNumeral (c :: cs)).map fun (n, rest) => (n.toJson, rest) := by
  have hne : ∀ d, startsNumeral d = false → c ≠ d := by
    rintro d hd rfl
    rw [h] at hd
    exact absurd hd (by simp)
  rw [readValue, skipBlanks_cons (isJsonBlank_of_startsNumeral h)]
  split
  all_goals first
    | rfl
    | next heq => exact absurd (List.cons.inj heq).1 (hne _ rfl)

/-- A numeral is a value. -/
lemma readValue_of_isNumeral (fuel depth : Nat) {cs : List Char} {n : Numeral} (h : IsNumeral cs n)
    (rest : List Char) (hrest : endsNumeral rest = true) :
    readValue (fuel + 1) depth (cs ++ rest) = some (n.toJson, rest) := by
  obtain ⟨c, cs', heq, hc⟩ := exists_cons_of_readNumeral (h rest hrest)
  rw [heq, readValue_numeral hc, ← heq, h rest hrest]
  rfl

lemma parse?_of_isNumeral {text : String} {n : Numeral} (h : IsNumeral text.toList n) :
    parse? text = some n.toJson := by
  have hread := readValue_of_isNumeral (2 * text.toList.length + 1) maxDepth h [] rfl
  rw [List.append_nil] at hread
  rw [parse?]
  simp [hread]
  rfl

/-! ### Texts of arrays and objects -/

/-- The text of the items of an array, without its brackets. -/
def itemsText (js : List Json) : List Char := (String.intercalate "," (compactItems js)).toList

/-- The text of the fields of an object, without its braces. -/
def fieldsText (fields : List (String × Json)) : List Char :=
  (String.intercalate "," (compactFields fields)).toList

lemma toList_compact_array (items : List Json) :
    (compact (.array items)).toList = '[' :: (itemsText items ++ [']']) := by
  rw [compact, String.toList_append, String.toList_append]
  rfl

lemma toList_compact_object (fields : List (String × Json)) :
    (compact (.object fields)).toList = '\x7b' :: (fieldsText fields ++ ['\x7d']) := by
  rw [compact, String.toList_append, String.toList_append]
  rfl

lemma itemsText_singleton (j : Json) : itemsText [j] = (compact j).toList := by
  simp [itemsText, compactItems]

lemma itemsText_cons_cons (j k : Json) (js : List Json) :
    itemsText (j :: k :: js) = (compact j).toList ++ ',' :: itemsText (k :: js) := by
  simp [itemsText, compactItems, String.intercalate_cons_cons]

/-- The text of an array starts with its first item. -/
lemma exists_itemsText_eq (j : Json) (js : List Json) :
    ∃ cs, itemsText (j :: js) = (compact j).toList ++ cs := by
  cases js with
  | nil => exact ⟨[], by rw [itemsText_singleton, List.append_nil]⟩
  | cons k js => exact ⟨_, itemsText_cons_cons j k js⟩

/-- The text of one field. -/
def fieldText (name : String) (j : Json) : List Char :=
  '"' :: (name.toList.flatMap escape ++ '"' :: ':' :: (compact j).toList)

lemma fieldsText_singleton (name : String) (j : Json) :
    fieldsText [(name, j)] = fieldText name j := by
  simp [fieldsText, fieldText, compactFields, toList_stringText]

lemma fieldsText_cons_cons (name : String) (j : Json) (field : String × Json)
    (fields : List (String × Json)) :
    fieldsText ((name, j) :: field :: fields) =
      fieldText name j ++ ',' :: fieldsText (field :: fields) := by
  simp [fieldsText, fieldText, compactFields, toList_stringText, String.intercalate_cons_cons]

/-- The text of an object starts with the name of its first field. -/
lemma exists_fieldsText_eq (field : String × Json) (fields : List (String × Json)) :
    ∃ cs, fieldsText (field :: fields) = '"' :: cs := by
  cases fields with
  | nil => exact ⟨_, fieldsText_singleton field.1 field.2⟩
  | cons next fields => exact ⟨_, fieldsText_cons_cons field.1 field.2 next fields⟩

/-- The fields of an object are all readable if their names are. -/
lemma ofFields_map (fields : List (String × Json)) :
    ofFields (fields.map fun field => (some field.1, field.2)) = .object fields := by
  have hmap : (fields.map fun field => (some field.1, field.2)).mapM
      (fun field : Option String × Json => field.1.map (·, field.2)) = some fields := by
    induction fields with
    | nil => rfl
    | cons field fields ih => simp [List.mapM_cons, ih]
  rw [ofFields, hmap]

/-! ### Reading values -/

/-- The compact text of the first value is read as the second in front of any other text, as far as
it does not nest too deep. -/
structure IsRead (j k : Json) : Prop where
  starts : ∃ c cs, (compact j).toList = c :: cs ∧ isJsonBlank c = false ∧ c ≠ ']'
  reads (fuel depth : Nat) (rest : List Char) : (compact j).toList.length ≤ fuel →
    endsNumeral rest = true →
    readValue (fuel + 1) depth ((compact j).toList ++ rest) = some (k.cut depth, rest)

/-- `IsRead` for the value of a field, which keeps its name. -/
def FieldIsRead (field field' : String × Json) : Prop :=
  field.1 = field'.1 ∧ field.2.IsRead field'.2

lemma readItems_of_isRead (fuel depth : Nat) (rest : List Char) {js ks : List Json} (hne : js ≠ [])
    (h : List.Forall₂ IsRead js ks) (hfuel : (itemsText js).length < fuel) :
    readItems (fuel + 1) depth (itemsText js ++ ']' :: rest) = some (cuts depth ks, rest) := by
  induction h generalizing fuel with
  | nil => exact absurd rfl hne
  | cons hj hjs ih =>
    obtain ⟨fuel, rfl⟩ : ∃ n, fuel = n + 1 := ⟨fuel - 1, by omega⟩
    cases hjs with
    | nil =>
      rw [itemsText_singleton] at hfuel ⊢
      have hread := hj.reads fuel depth (']' :: rest) (by omega) rfl
      rw [readItems, hread]
      simp [skipBlanks_cons, isJsonBlank, cuts]
    | @cons next _ js =>
      rw [itemsText_cons_cons] at hfuel ⊢
      rw [List.length_append, List.length_cons] at hfuel
      have hread := hj.reads fuel depth (',' :: (itemsText (next :: js) ++ ']' :: rest))
        (by omega) rfl
      have htail := ih fuel (by simp) (by omega)
      rw [List.append_assoc, List.cons_append, readItems, hread]
      simp [skipBlanks_cons, isJsonBlank, htail, cuts]

lemma readFields_of_isRead (fuel depth : Nat) (rest : List Char)
    {fields fields' : List (String × Json)} (hne : fields ≠ [])
    (h : List.Forall₂ FieldIsRead fields fields') (hfuel : (fieldsText fields).length < fuel) :
    readFields (fuel + 1) depth (fieldsText fields ++ '\x7d' :: rest) =
      some ((cutFields depth fields').map fun field => (some field.1, field.2), rest) := by
  induction h generalizing fuel with
  | nil => exact absurd rfl hne
  | @cons field field' _ _ hfield hfields ih =>
    obtain ⟨fuel, rfl⟩ : ∃ n, fuel = n + 1 := ⟨fuel - 1, by omega⟩
    obtain ⟨name, j⟩ := field
    obtain ⟨_, k⟩ := field'
    obtain ⟨rfl, hj⟩ : name = _ ∧ j.IsRead k := hfield
    cases hfields with
    | nil =>
      rw [fieldsText_singleton] at hfuel ⊢
      simp only [fieldText, List.length_cons, List.length_append] at hfuel
      have hread := hj.reads fuel depth ('\x7d' :: rest) (by omega) rfl
      rw [fieldText, List.cons_append, List.append_assoc, readFields, skipBlanks_cons rfl]
      simp [readString_escaped, skipBlanks_cons, isJsonBlank, hread, cutFields]
    | @cons next _ fields =>
      rw [fieldsText_cons_cons] at hfuel ⊢
      simp only [fieldText, List.length_cons, List.length_append] at hfuel
      have hread := hj.reads fuel depth (',' :: (fieldsText (next :: fields) ++ '\x7d' :: rest))
        (by omega) rfl
      have htail := ih fuel (by simp) (by omega)
      rw [fieldText, List.append_assoc, List.cons_append, List.append_assoc, readFields,
        skipBlanks_cons rfl]
      simp [readString_escaped, skipBlanks_cons, isJsonBlank, hread, htail, cutFields]

lemma isRead_null : IsRead .null .null where
  starts := ⟨'n', ['u', 'l', 'l'], rfl, rfl, by decide⟩
  reads _ _ _ _ _ := by simp [compact, readValue, skipBlanks_cons, isJsonBlank, cut]

lemma isRead_bool (b : Bool) : IsRead (.bool b) (.bool b) where
  starts := by cases b <;> exact ⟨_, _, rfl, rfl, by decide⟩
  reads _ _ _ _ _ := by cases b <;> simp [compact, readValue, skipBlanks_cons, isJsonBlank, cut]

/-- A number is read as what its text stands for, if that is a numeral. -/
lemma isRead_of_isNumeral {j k : Json} {n : Numeral} (hcut : ∀ d, k.cut d = k)
    (h : IsNumeral (compact j).toList n) (hk : n.toJson = k) : IsRead j k where
  starts := by
    have hempty := h [] rfl
    rw [List.append_nil] at hempty
    obtain ⟨c, cs, heq, hc⟩ := exists_cons_of_readNumeral hempty
    refine ⟨c, cs, heq, isJsonBlank_of_startsNumeral hc, ?_⟩
    rintro rfl
    exact absurd hc (by decide)
  reads fuel depth rest _ hrest := by rw [readValue_of_isNumeral fuel depth h rest hrest, hk, hcut]

lemma isRead_int {n : Int} (hlow : Int64.minValue.toInt ≤ n) (hhigh : n < UInt64.size) :
    IsRead (.int n) (.int n) := by
  obtain ⟨m, hm, hvalue⟩ := isNumeral_int hlow hhigh
  exact isRead_of_isNumeral (fun _ => rfl) hm hvalue

/-- The text of a double is a numeral, so that it is read alike in front of any other text too. -/
lemma isRead_float {x y : Float} (h : parse? (floatText x) = some (.float y)) :
    IsRead (.float x) (.float y) := by
  rcases isNumeral_float x with hnull | ⟨n, hn⟩
  · rw [hnull] at h
    exact absurd h (by simp [parse?, readValue, skipBlanks, isJsonBlank])
  · rw [parse?_of_isNumeral hn] at h
    exact isRead_of_isNumeral (fun _ => rfl) hn (Option.some.inj h)

lemma isRead_string (s : String) : IsRead (.string s) (.string s) where
  starts := ⟨'"', _, toList_stringText s, rfl, by decide⟩
  reads _ _ _ _ _ := by
    rw [compact, toList_stringText, List.cons_append, List.append_assoc, List.singleton_append,
      readValue, skipBlanks_cons rfl]
    simp [readString_escaped, cut]

lemma isRead_array {items items' : List Json} (h : List.Forall₂ IsRead items items') :
    IsRead (.array items) (.array items') where
  starts := ⟨'[', _, toList_compact_array items, rfl, by decide⟩
  reads fuel depth rest hfuel _ := by
    rw [toList_compact_array] at hfuel ⊢
    rw [List.cons_append, List.append_assoc, List.singleton_append, readValue, skipBlanks_cons rfl]
    cases h with
    | nil => simp [itemsText, compactItems, skipBlanks_cons, isJsonBlank, cut, cuts]
    | @cons j _ js _ hj hjs =>
      obtain ⟨fuel, rfl⟩ : ∃ n, fuel = n + 1 := ⟨fuel - 1, by simp at hfuel; omega⟩
      have hread := readItems_of_isRead fuel (depth - 1) rest (by simp) (.cons hj hjs)
        (by simp at hfuel; omega)
      obtain ⟨c, cs, hc, hblank, hbracket⟩ := hj.starts
      obtain ⟨cs', hcs'⟩ := exists_itemsText_eq j js
      rw [hcs', hc, List.cons_append, List.cons_append] at hread ⊢
      simp only [skipBlanks_cons hblank]
      split
      · next heq => exact absurd (List.cons.inj heq).1 hbracket
      · rw [hread, cut]
        split <;> rfl

lemma isRead_object {fields fields' : List (String × Json)}
    (h : List.Forall₂ FieldIsRead fields fields') : IsRead (.object fields) (.object fields') where
  starts := ⟨'\x7b', _, toList_compact_object fields, rfl, by decide⟩
  reads fuel depth rest hfuel _ := by
    rw [toList_compact_object] at hfuel ⊢
    rw [List.cons_append, List.append_assoc, List.singleton_append, readValue, skipBlanks_cons rfl]
    cases h with
    | nil => simp [fieldsText, compactFields, skipBlanks_cons, isJsonBlank, cut, cutFields]
    | @cons field _ fields _ hfield hfields =>
      obtain ⟨fuel, rfl⟩ : ∃ n, fuel = n + 1 := ⟨fuel - 1, by simp at hfuel; omega⟩
      have hread := readFields_of_isRead fuel (depth - 1) rest (by simp) (.cons hfield hfields)
        (by simp at hfuel; omega)
      obtain ⟨cs, hcs⟩ := exists_fieldsText_eq field fields
      rw [hcs, List.cons_append] at hread ⊢
      simp only [skipBlanks_cons (show isJsonBlank '"' = false from rfl)]
      split
      · next heq => exact absurd (List.cons.inj heq).1 (by decide)
      · simp only [hread, Option.map_some, ofFields_map, cut]

mutual

/-- Every value that has a text is read from it. -/
theorem isRead : ∀ {j : Json}, j.ReadsBack → j.IsRead j
  | .null, _ => isRead_null
  | .bool b, _ => isRead_bool b
  | .int _, h => isRead_int h.1 h.2
  | .float _, h => isRead_float h
  | .string s, _ => isRead_string s
  | .array _, h => isRead_array (isRead_items h)
  | .object _, h => isRead_object (isRead_fields h)
  | .flawed, h => False.elim h

theorem isRead_items : ∀ {js : List Json}, AllReadBack js → List.Forall₂ IsRead js js
  | [], _ => .nil
  | _ :: _, h => .cons (isRead h.1) (isRead_items h.2)

theorem isRead_fields : ∀ {fields : List (String × Json)}, FieldsReadBack fields →
    List.Forall₂ FieldIsRead fields fields
  | [], _ => .nil
  | (_, _) :: _, h => .cons ⟨rfl, isRead h.1⟩ (isRead_fields h.2)

end

lemma parse?_of_isRead {j k : Json} (h : j.IsRead k) : parse? j.compact = some (k.cut maxDepth) := by
  have hread := h.reads (2 * j.compact.toList.length + 1) maxDepth [] (by omega) rfl
  rw [List.append_nil] at hread
  rw [parse?]
  simp [hread]
  rfl

/-- The compact text of a value is read as the value, as far as it does not nest too deep. -/
theorem parse?_compact {j : Json} (h : j.ReadsBack) : parse? j.compact = some (j.cut maxDepth) :=
  parse?_of_isRead (isRead h)

end DocQuery.Json
