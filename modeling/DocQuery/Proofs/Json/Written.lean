import DocQuery.Json.Record
import DocQuery.Proofs.Json.Reading
/-!
# Values that are written

What the types of a request or a configuration write as JSON has a text: nothing in it is flawed,
and its whole numbers have 64 bits. What is read from the text is up to its doubles (`doubles`).
-/

namespace DocQuery.Json

/-- The value has a text of its own: no part is flawed, and whole numbers have 64 bits. -/
inductive HasText : Json → Prop where
  | null : HasText .null
  | bool (b : Bool) : HasText (.bool b)
  | int {n : Int} (low : Int64.minValue.toInt ≤ n) (high : n < UInt64.size) : HasText (.int n)
  | float (x : Float) : HasText (.float x)
  | string (s : String) : HasText (.string s)
  | array {items : List Json} (h : ∀ j ∈ items, HasText j) : HasText (.array items)
  | object {fields : List (String × Json)} (h : ∀ field ∈ fields, HasText field.2) :
    HasText (.object fields)

/-! ### Soundness -/

lemma areSound_iff {js : List Json} : areSound js = true ↔ ∀ j ∈ js, j.isSound = true := by
  induction js with
  | nil => simp [areSound]
  | cons j js ih => rw [areSound, Bool.and_eq_true, ih, List.forall_mem_cons]

lemma areSoundFields_iff {fields : List (String × Json)} :
    areSoundFields fields = true ↔ ∀ field ∈ fields, field.2.isSound = true := by
  induction fields with
  | nil => simp [areSoundFields]
  | cons field fields ih => rw [areSoundFields, Bool.and_eq_true, ih, List.forall_mem_cons]

lemma HasText.isSound {j : Json} (h : j.HasText) : j.isSound = true := by
  induction h with
  | array _ ih => rw [Json.isSound, areSound_iff.mpr ih]
  | object _ ih => rw [Json.isSound, areSoundFields_iff.mpr ih]
  | _ => rfl

/-! ### Doubles -/

mutual

/-- The doubles in a value, in the order of its text. -/
def doubles : Json → List Float
  | .float x => [x]
  | .array items => itemDoubles items
  | .object fields => fieldDoubles fields
  | _ => []

/-- The doubles in the items of an array. -/
def itemDoubles : List Json → List Float
  | [] => []
  | j :: js => doubles j ++ itemDoubles js

/-- The doubles in the fields of an object. -/
def fieldDoubles : List (String × Json) → List Float
  | [] => []
  | (_, j) :: fields => doubles j ++ fieldDoubles fields

end

/-- The text of every double is read as the double. -/
def DoublesReadBack (xs : List Float) : Prop := ∀ x ∈ xs, parse? (floatText x) = some (.float x)

/-! ### Fields -/

variable {α : Type} {toJson : α → Json}

lemma hasText_array_map (h : ∀ a, (toJson a).HasText) (as : List α) :
    (array (as.map toJson)).HasText := by
  refine .array fun j hj => ?_
  obtain ⟨a, -, rfl⟩ := List.mem_map.mp hj
  exact h a

lemma list?_map {read : Json → Option α} (h : ∀ a, read (toJson a) = some a) (as : List α) :
    list? read (.array (as.map toJson)) = some as := by
  have hread : (as.map toJson).mapM read = some as := by
    induction as with
    | nil => rfl
    | cons a as ih => simp [List.mapM_cons, h, ih]
  exact hread

lemma hasText_toNat (n : UInt64) : (int n.toNat).HasText := by
  have hmin : Int64.minValue.toInt ≤ 0 := by decide
  exact .int (by omega) (by exact_mod_cast n.toNat_lt)

lemma uint64?_toNat (n : UInt64) : uint64? (.int n.toNat) = some n := by
  have hlow : (0 : Int) ≤ n.toNat := by omega
  have hhigh : (n.toNat : Int) < UInt64.size := by exact_mod_cast n.toNat_lt
  rw [uint64?, if_pos ⟨hlow, hhigh⟩, Int.toNat_natCast, UInt64.ofNat_toNat]

end DocQuery.Json
