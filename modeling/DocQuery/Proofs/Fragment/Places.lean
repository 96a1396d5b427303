import DocQuery.Fragment
import Mathlib.Tactic.Lemma
/-!
# The places of a fragment

All pieces of a fragment that are no texts are places, for a value that is known or for one that is
not. The forms of fragments keep the places of their parts, each once and in their order.
-/

namespace DocQuery

/-- Whether a value stands, or will stand, where the piece is. -/
def Piece.isPlace : Piece → Bool
  | .text _ => false
  | .value _ _ => true
  | .deferred => true

/-- Whether the value of the piece is not known yet. -/
def Piece.isDeferred : Piece → Bool
  | .deferred => true
  | _ => false

namespace Fragment

/-- The places of a fragment. -/
def places (a : Fragment) : List Piece := a.filter Piece.isPlace

lemma deferredCount_eq_countP (a : Fragment) :
    a.deferredCount = a.places.countP Piece.isDeferred := by
  induction a with
  | nil => rfl
  | cons piece a ih =>
    cases piece with
    | text t => exact ih
    | value hint v => exact ih
    | deferred =>
      rw [deferredCount, ih]
      exact (List.countP_cons_of_pos rfl).symm

/-! ### The forms of fragments -/

variable (a b : Fragment)

@[simp] lemma places_append : places (a ++ b) = places a ++ places b := by
  simp [places]

@[simp] lemma places_raw (t : String) : places (raw t) = [] := rfl

@[simp] lemma places_string (t : String) : places (string t) = [] := rfl

@[simp] lemma places_boolean (t : Bool) : places (boolean t) = [] := rfl

@[simp] lemma places_suffixed (word : String) : places (suffixed a word) = places a := by
  simp [suffixed]

@[simp] lemma places_binary (operator : String) :
    places (binary a operator b) = places a ++ places b := by
  simp [binary]

@[simp] lemma places_call (f : String) : places (call f [a]) = places a := by
  simp [call, joined]

@[simp] lemma places_call₂ (f : String) : places (call f [a, b]) = places a ++ places b := by
  simp [call, joined]

lemma places_joined (separator : String) (as : List Fragment) :
    places (joined separator as) = as.flatMap places := by
  induction as with
  | nil => rfl
  | cons a as ih =>
    cases as with
    | nil => simp [joined]
    | cons b as => simp [joined, ih]

@[simp] lemma places_concat : places (concat a b) = places a ++ places b := by
  simp [concat]

end Fragment

end DocQuery
