import DocQuery.Argument
import Mathlib.Tactic.Lemma
/-!
# Arguments that can be converted

A set takes every argument but null, and a pattern every argument that is no set itself.
-/

namespace DocQuery.Argument

def isNull : Argument → Bool
  | .value .null => true
  | _ => false

/-- Whether the argument is a collection or an array. -/
def isSet : Argument → Bool
  | .collection _ => true
  | .value (.array _) => true
  | _ => false

/-- Whether the argument is a string or a variant of an enumeration. -/
def isText : Argument → Bool
  | .enum _ => true
  | .value (.string _) => true
  | _ => false

lemma exists_toSet_iff {a : Argument} : (∃ v, a.toSet = .ok v) ↔ a.isNull = false := by
  cases a with
  | enum name => exact ⟨fun _ => rfl, fun _ => ⟨_, rfl⟩⟩
  | collection items => exact ⟨fun _ => rfl, fun _ => ⟨_, rfl⟩⟩
  | value v =>
    cases v with
    | null => exact ⟨fun ⟨_, h⟩ => absurd h (by simp [toSet]), fun h => absurd h (by simp [isNull])⟩
    | _ => exact ⟨fun _ => rfl, fun _ => ⟨_, rfl⟩⟩

lemma exists_toPattern_iff {a : Argument} : (∃ v, a.toPattern = .ok v) ↔ a.isSet = false := by
  cases a with
  | enum name => exact ⟨fun _ => rfl, fun _ => ⟨_, rfl⟩⟩
  | collection items =>
    exact ⟨fun ⟨_, h⟩ => absurd h (by simp [toPattern]), fun h => absurd h (by simp [isSet])⟩
  | value v =>
    cases v with
    | array items =>
      exact ⟨fun ⟨_, h⟩ => absurd h (by simp [toPattern]), fun h => absurd h (by simp [isSet])⟩
    | _ => exact ⟨fun _ => rfl, fun _ => ⟨_, rfl⟩⟩

lemma toSet_of_isSet {a : Argument} (h : a.isSet = true) : a.toSet = .ok a.toValue := by
  cases a with
  | enum name => exact absurd h (by simp [isSet])
  | collection items => rfl
  | value v =>
    cases v with
    | array items => rfl
    | _ => exact absurd h (by simp [isSet])

/-- A text is the same as a pattern and as a scalar. -/
lemma toPattern_of_isText {a : Argument} (h : a.isText = true) : a.toPattern = .ok a.toValue := by
  cases a with
  | enum name => rfl
  | collection items => exact absurd h (by simp [isText])
  | value v =>
    cases v with
    | string s => rfl
    | _ => exact absurd h (by simp [isText])

/-- The argument can be converted: null is no set, and a set is no pattern. -/
def Conversion.Accepts : Conversion → Argument → Prop
  | .scalar, _ => True
  | .set, a => a.isNull = false
  | .pattern, a => a.isSet = false

lemma Conversion.exists_apply_iff {conversion : Conversion} {a : Argument} :
    (∃ v, conversion.apply a = .ok v) ↔ conversion.Accepts a := by
  cases conversion with
  | scalar => exact ⟨fun _ => trivial, fun _ => ⟨_, rfl⟩⟩
  | set => exact exists_toSet_iff
  | pattern => exact exists_toPattern_iff

end DocQuery.Argument
