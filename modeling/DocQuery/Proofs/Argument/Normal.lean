import DocQuery.Argument
import DocQuery.Proofs.Fault
import DocQuery.Proofs.Json.Written
/-!
# Arguments in normal form

JSON writes an array of values and a collection of arguments alike, so that an array is read back as
the collection of its elements (`ofSoundJson?_toJson`). This normal form is converted to the same
values (`toValue_normal`, `toSet_normal`) or refused for the same reason (`toPattern_normal`).
-/

namespace DocQuery

/-! ### Values -/

lemma Value.ofInt_toInt (n : Int64) : Value.ofInt n.toInt = .int n := by
  rw [ofInt, if_pos ⟨n.minValue_le_toInt, n.toInt_le⟩, Int64.ofInt_toInt]

lemma Value.hasText_int (n : Int64) : (Json.int n.toInt).HasText := by
  have hhigh : n.toInt < 2 ^ 63 := n.toInt_lt
  have hsize : (UInt64.size : Int) = 2 ^ 64 := rfl
  exact .int n.minValue_le_toInt (by omega)

mutual

lemma Value.hasText_toJson : ∀ v : Value, v.toJson.HasText
  | .null => .null
  | .bool b => .bool b
  | .int n => hasText_int n
  | .float x => .float x
  | .string s => .string s
  | .array items => .array (hasText_toJsons items)

lemma Value.hasText_toJsons : ∀ vs : List Value, ∀ j ∈ toJsons vs, j.HasText
  | [] => by simp [toJsons]
  | v :: vs => List.forall_mem_cons.mpr ⟨hasText_toJson v, hasText_toJsons vs⟩

end

namespace Argument

mutual

lemma hasText_toJson : ∀ a : Argument, a.toJson.HasText
  | .enum name => .object (by simpa using Json.HasText.string name)
  | .collection items => .array (hasText_toJsons items)
  | .value v => v.hasText_toJson

lemma hasText_toJsons : ∀ as : List Argument, ∀ j ∈ toJsons as, j.HasText
  | [] => by simp [toJsons]
  | a :: as => List.forall_mem_cons.mpr ⟨hasText_toJson a, hasText_toJsons as⟩

end

/-! ### Normal forms -/

mutual

/-- A value as an argument: an array is a collection. -/
def ofValue : Value → Argument
  | .array items => .collection (ofValues items)
  | v => .value v

/-- The elements of an array as arguments. -/
def ofValues : List Value → List Argument
  | [] => []
  | v :: vs => ofValue v :: ofValues vs

end

mutual

/-- The argument with a collection in place of every array. -/
def normal : Argument → Argument
  | .enum name => .enum name
  | .collection items => .collection (normals items)
  | .value v => ofValue v

/-- The items of a collection with collections in place of their arrays. -/
def normals : List Argument → List Argument
  | [] => []
  | a :: as => normal a :: normals as

end

/-! ### Conversions -/

mutual

lemma toValue_ofValue : ∀ v : Value, (ofValue v).toValue = v
  | .array items => by rw [ofValue, toValue, toValues_ofValues items]
  | .null => rfl
  | .bool _ => rfl
  | .int _ => rfl
  | .float _ => rfl
  | .string _ => rfl

lemma toValues_ofValues : ∀ vs : List Value, toValues (ofValues vs) = vs
  | [] => rfl
  | v :: vs => by rw [ofValues, toValues, toValue_ofValue v, toValues_ofValues vs]

end

mutual

@[simp] lemma toValue_normal : ∀ a : Argument, a.normal.toValue = a.toValue
  | .enum _ => rfl
  | .collection items => by rw [normal, toValue, toValues_normals items, toValue]
  | .value v => toValue_ofValue v

lemma toValues_normals : ∀ as : List Argument, toValues (normals as) = toValues as
  | [] => rfl
  | a :: as => by rw [normals, toValues, toValue_normal a, toValues_normals as, toValues]

end

@[simp] lemma toSet_normal (a : Argument) : a.normal.toSet = a.toSet := by
  cases a with
  | enum name => rfl
  | collection items => rw [normal, toSet, toValues_normals, toSet]
  | value v =>
    cases v with
    | array items => rw [normal, ofValue, toSet, toValues_ofValues, toSet]
    | _ => rfl

/-- Neither form of an array is a pattern. -/
lemma toPattern_normal (a : Argument) : SameOutcome a.normal.toPattern a.toPattern := by
  cases a with
  | enum name => rfl
  | collection items => rfl
  | value v => cases v <;> rfl

/-! ### JSON -/

mutual

lemma ofSoundJson?_toJson_value : ∀ v : Value, ofSoundJson? v.toJson = some (ofValue v)
  | .array items => by
    rw [Value.toJson, ofSoundJson?, ofSoundJsons?_toJsons_values items, ofValue]
    rfl
  | .int n => by rw [Value.toJson, ofSoundJson?, Value.ofInt_toInt, ofValue]; simp
  | .null => rfl
  | .bool _ => rfl
  | .float _ => rfl
  | .string _ => rfl

lemma ofSoundJsons?_toJsons_values :
    ∀ vs : List Value, ofSoundJsons? (Value.toJsons vs) = some (ofValues vs)
  | [] => rfl
  | v :: vs => by
    rw [Value.toJsons, ofSoundJsons?, ofSoundJson?_toJson_value v, ofSoundJsons?_toJsons_values vs,
      ofValues]
    rfl

end

mutual

/-- An argument is read back in normal form. -/
theorem ofSoundJson?_toJson : ∀ a : Argument, ofSoundJson? a.toJson = some a.normal
  | .enum name => rfl
  | .collection items => by
    rw [toJson, ofSoundJson?, ofSoundJsons?_toJsons items, normal]
    rfl
  | .value v => ofSoundJson?_toJson_value v

theorem ofSoundJsons?_toJsons :
    ∀ as : List Argument, ofSoundJsons? (toJsons as) = some (normals as)
  | [] => rfl
  | a :: as => by
    rw [toJsons, ofSoundJsons?, ofSoundJson?_toJson a, ofSoundJsons?_toJsons as, normals]
    rfl

end

lemma ofJson?_toJson (a : Argument) : ofJson? a.toJson = some a.normal := by
  rw [ofJson?, if_pos a.hasText_toJson.isSound, ofSoundJson?_toJson]

lemma normal_value_ofInt (n : Int) : (value (.ofInt n)).normal = .value (.ofInt n) := by
  rw [Value.ofInt]
  split <;> rfl

mutual

/-- What is read is in normal form. -/
theorem normal_of_ofSoundJson? :
    ∀ {j : Json} {a : Argument}, ofSoundJson? j = some a → a.normal = a
  | .object fields, a, h => by
    obtain ⟨variant, -, h⟩ := Option.bind_eq_some_iff.mp h
    split at h
    · obtain rfl := Option.some.inj h
      rfl
    · exact absurd h (by simp)
  | .array items, a, h => by
    obtain ⟨as, has, rfl⟩ := Option.map_eq_some_iff.mp h
    rw [normal, normals_of_ofSoundJsons? has]
  | .int n, a, h => by
    obtain rfl := Option.some.inj h
    exact normal_value_ofInt n
  | .null, a, h => by obtain rfl := Option.some.inj h; rfl
  | .bool _, a, h => by obtain rfl := Option.some.inj h; rfl
  | .float _, a, h => by obtain rfl := Option.some.inj h; rfl
  | .string _, a, h => by obtain rfl := Option.some.inj h; rfl
  | .flawed, a, h => by simp [ofSoundJson?] at h

theorem normals_of_ofSoundJsons? :
    ∀ {js : List Json} {as : List Argument}, ofSoundJsons? js = some as → normals as = as
  | [], as, h => by obtain rfl := Option.some.inj h; rfl
  | j :: js, as, h => by
    obtain ⟨a, ha, h⟩ := Option.bind_eq_some_iff.mp h
    obtain ⟨as', has, h⟩ := Option.bind_eq_some_iff.mp h
    obtain rfl := Option.some.inj h
    rw [normals, normal_of_ofSoundJson? ha, normals_of_ofSoundJsons? has]

end

lemma normal_of_ofJson? {j : Json} {a : Argument} (h : ofJson? j = some a) : a.normal = a := by
  rw [ofJson?] at h
  split at h
  · exact normal_of_ofSoundJson? h
  · exact absurd h (by simp)

end Argument

end DocQuery
