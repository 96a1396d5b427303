import DocQuery.Proofs.Json.Written
/-!
# Doubles that are read

The text of a double may be read as a neighbour of the double. Whatever it is read as does not depend
on where it stands: the compact text of a value is read as the value with every double replaced by
what its text alone is read as (`parse?_compact_of_doublesAreRead`). That is the value itself if the
texts of its doubles are read back (`parse?_compact_of_hasText`).
-/

namespace DocQuery.Json

/-- The double that the text of a double is read as. -/
def readDouble (x : Float) : Float :=
  match parse? (floatText x) with
  | some (.float y) => y
  | _ => x

/-- The texts of the doubles are read as doubles, not necessarily the same ones. This excludes what
is not finite, which is written as null. -/
def DoublesAreRead (xs : List Float) : Prop := ∀ x ∈ xs, ∃ y, parse? (floatText x) = some (.float y)

lemma parse?_floatText {x y : Float} (h : parse? (floatText x) = some (.float y)) :
    parse? (floatText x) = some (.float (readDouble x)) := by
  simp [readDouble, h]

/-! ### Values -/

mutual

/-- The value with the doubles that are read in place of those that are written. -/
def reread : Json → Json
  | .float x => .float (readDouble x)
  | .array items => .array (rereadItems items)
  | .object fields => .object (rereadFields fields)
  | j => j

/-- The items of an array with the doubles that are read. -/
def rereadItems : List Json → List Json
  | [] => []
  | j :: js => reread j :: rereadItems js

/-- The fields of an object with the doubles that are read. -/
def rereadFields : List (String × Json) → List (String × Json)
  | [] => []
  | (name, j) :: fields => (name, reread j) :: rereadFields fields

end

mutual

lemma depth_reread : ∀ j : Json, j.reread.depth = j.depth
  | .array items => by rw [reread, depth, depths_rereadItems items, depth]
  | .object fields => by rw [reread, depth, fieldDepths_rereadFields fields, depth]
  | .float _ | .null | .bool _ | .int _ | .string _ | .flawed => rfl

lemma depths_rereadItems : ∀ js : List Json, depths (rereadItems js) = depths js
  | [] => rfl
  | j :: js => by rw [rereadItems, depths, depth_reread j, depths_rereadItems js, depths]

lemma fieldDepths_rereadFields :
    ∀ fields : List (String × Json), fieldDepths (rereadFields fields) = fieldDepths fields
  | [] => rfl
  | (_, j) :: fields => by
    rw [rereadFields, fieldDepths, depth_reread j, fieldDepths_rereadFields fields, fieldDepths]

end

mutual

/-- Nothing changes where every double is read as itself. -/
lemma reread_eq_self : ∀ {j : Json}, DoublesReadBack j.doubles → j.reread = j
  | .float x, h => by
    have hx := h x (by simp [doubles])
    rw [reread, readDouble, hx]
  | .array items, h => by rw [reread, rereadItems_eq_self h]
  | .object fields, h => by rw [reread, rereadFields_eq_self h]
  | .null, _ | .bool _, _ | .int _, _ | .string _, _ | .flawed, _ => rfl

lemma rereadItems_eq_self : ∀ {js : List Json}, DoublesReadBack (itemDoubles js) →
    rereadItems js = js
  | [], _ => rfl
  | j :: js, h => by
    obtain ⟨hj, hjs⟩ := List.forall_mem_append.mp h
    rw [rereadItems, reread_eq_self hj, rereadItems_eq_self hjs]

lemma rereadFields_eq_self : ∀ {fields : List (String × Json)},
    DoublesReadBack (fieldDoubles fields) → rereadFields fields = fields
  | [], _ => rfl
  | (name, j) :: fields, h => by
    obtain ⟨hj, hfields⟩ := List.forall_mem_append.mp h
    rw [rereadFields, reread_eq_self hj, rereadFields_eq_self hfields]

end

/-! ### Reading -/

lemma isRead_rereadItems {js : List Json}
    (h : ∀ j ∈ js, DoublesAreRead j.doubles → j.IsRead j.reread)
    (hx : DoublesAreRead (itemDoubles js)) : List.Forall₂ IsRead js (rereadItems js) := by
  induction js with
  | nil => exact .nil
  | cons j js ih =>
    obtain ⟨hj, hjs⟩ := List.forall_mem_cons.mp h
    obtain ⟨hxj, hxjs⟩ := List.forall_mem_append.mp hx
    exact .cons (hj hxj) (ih hjs hxjs)

lemma isRead_rereadFields {fields : List (String × Json)}
    (h : ∀ field ∈ fields, DoublesAreRead field.2.doubles → field.2.IsRead field.2.reread)
    (hx : DoublesAreRead (fieldDoubles fields)) :
    List.Forall₂ FieldIsRead fields (rereadFields fields) := by
  induction fields with
  | nil => exact .nil
  | cons field fields ih =>
    obtain ⟨hj, hfields⟩ := List.forall_mem_cons.mp h
    obtain ⟨hxj, hxfields⟩ := List.forall_mem_append.mp hx
    exact .cons ⟨rfl, hj hxj⟩ (ih hfields hxfields)

lemma HasText.isRead_reread {j : Json} (h : j.HasText) (hx : DoublesAreRead j.doubles) :
    j.IsRead j.reread := by
  induction h with
  | null => exact isRead_null
  | bool b => exact isRead_bool b
  | int low high => exact isRead_int low high
  | float x =>
    obtain ⟨y, hy⟩ := hx x (by simp [doubles])
    exact isRead_float (parse?_floatText hy)
  | string s => exact isRead_string s
  | array _ ih => exact isRead_array (isRead_rereadItems ih hx)
  | object _ ih => exact isRead_object (isRead_rereadFields ih hx)

/-- A value that does not nest too deep is read from its compact text, but for its doubles, which
are read as by themselves. -/
theorem parse?_compact_of_doublesAreRead {j : Json} (h : j.HasText) (hx : DoublesAreRead j.doubles)
    (hdepth : j.depth ≤ maxDepth) : parse? j.compact = some j.reread := by
  rw [parse?_of_isRead (h.isRead_reread hx), cut_eq_self]
  rwa [depth_reread]

/-- A value that does not nest too deep is read from its compact text. -/
theorem parse?_compact_of_hasText {j : Json} (h : j.HasText) (hx : DoublesReadBack j.doubles)
    (hdepth : j.depth ≤ maxDepth) : parse? j.compact = some j := by
  have hread : DoublesAreRead j.doubles := fun x hmem => ⟨x, hx x hmem⟩
  rw [parse?_compact_of_doublesAreRead h hread hdepth, reread_eq_self hx]

end DocQuery.Json
