import DocQuery.Proofs.Fragment.Places
import DocQuery.Proofs.Placeholders
import Mathlib.Data.List.TakeWhile
/-!
# Fragments as templates

A fragment whose values are all known is a row of fixed texts with one place for every value between
them. Literals and placeholders fill the same places (`inline_eq_fill`, `bound_eq_fill`).
-/

namespace DocQuery

/-- A text `f₀ t₁ f₁ … tₙ fₙ`, given `f₀` and the pairs of `tᵢ` and `fᵢ`. -/
def interleave (head : String) : List (String × String) → String
  | [] => head
  | (t, f) :: rest => head ++ (t ++ interleave f rest)

lemma append_interleave (s head : String) (rest : List (String × String)) :
    s ++ interleave head rest = interleave (s ++ head) rest := by
  cases rest with
  | nil => rfl
  | cons link rest => simp [interleave, String.append_assoc]

/-- The value of a piece with its hint, if it is known. -/
def Piece.slot? : Piece → Option (String × Value)
  | .value hint v => some (hint, v)
  | _ => none

namespace Fragment

/-- The values of a fragment with their hints, in order. -/
def slots : Fragment → List (String × Value)
  | [] => []
  | .value hint v :: a => (hint, v) :: slots a
  | .text _ :: a => slots a
  | .deferred :: a => slots a

/-- The text in front of the first value. -/
def headText : Fragment → String
  | [] => ""
  | .text t :: a => t ++ headText a
  | .value _ _ :: _ => ""
  | .deferred :: a => headText a

/-- The texts behind the values. -/
def tailTexts : Fragment → List String
  | [] => []
  | .text _ :: a => tailTexts a
  | .value _ _ :: a => headText a :: tailTexts a
  | .deferred :: a => tailTexts a

/-- The text with the given texts in the places of the values. -/
def fill (a : Fragment) (ts : List String) : String := interleave a.headText (ts.zip a.tailTexts)

lemma slots_eq_filterMap (a : Fragment) : a.slots = a.places.filterMap Piece.slot? := by
  induction a with
  | nil => rfl
  | cons piece a ih =>
    cases piece with
    | text t => exact ih
    | value hint v => exact congrArg ((hint, v) :: ·) ih
    | deferred => exact ih

/-- The values in front of the first one that is not known, with their hints. -/
def slotsInFront (a : Fragment) : List (String × Value) :=
  (a.places.takeWhile fun piece => !piece.isDeferred).filterMap Piece.slot?

lemma slotsInFront_isPrefix (a : Fragment) : a.slotsInFront <+: a.slots := by
  rw [slots_eq_filterMap]
  exact (List.takeWhile_prefix _).filterMap _

lemma slotsInFront_eq_slots {a : Fragment} (h : a.deferredCount = 0) :
    a.slotsInFront = a.slots := by
  rw [deferredCount_eq_countP, List.countP_eq_zero] at h
  rw [slots_eq_filterMap, slotsInFront, List.takeWhile_eq_self_iff.mpr]
  intro piece hpiece
  simpa using h piece hpiece

/-- Placeholders are issued for the values in front, whether the text comes out or not. -/
lemma snd_bound (a : Fragment) (p : Placeholders) : (a.bound p).2 = p.issue a.slotsInFront := by
  induction a generalizing p with
  | nil => rfl
  | cons piece a ih =>
    cases piece with
    | text t => exact ih p
    | value hint v => exact ih (p.push hint v).2
    | deferred => rfl

lemma length_tailTexts (a : Fragment) : a.tailTexts.length = a.slots.length := by
  induction a with
  | nil => rfl
  | cons piece a ih => cases piece <;> simp [tailTexts, slots, ih]

lemma fill_text (t : String) (a : Fragment) (ts : List String) :
    fill (.text t :: a) ts = t ++ a.fill ts :=
  (append_interleave t a.headText (ts.zip a.tailTexts)).symm

lemma fill_value (hint : String) (v : Value) (a : Fragment) (t : String) (ts : List String) :
    fill (.value hint v :: a) (t :: ts) = t ++ a.fill ts := by
  rw [fill, headText, tailTexts, List.zip_cons_cons, interleave, String.empty_append]
  rfl

/-- The places are filled with literals. -/
lemma inline_eq_fill {a : Fragment} (h : a.deferredCount = 0) :
    a.inline = .ok (a.fill (a.slots.map fun slot => slot.2.literal)) := by
  induction a with
  | nil => rfl
  | cons piece a ih =>
    cases piece with
    | text t => rw [inline, ih h, slots, fill_text]; rfl
    | value hint v => rw [inline, ih h, slots, List.map_cons, fill_value]; rfl
    | deferred => exact absurd h (by simp [deferredCount])

/-- The places are filled with the placeholders that are issued. -/
lemma bound_eq_fill {a : Fragment} (h : a.deferredCount = 0) (p : Placeholders) :
    a.bound p = (.ok (a.fill ((p.issuedNames a.slots).map ("$" ++ ·))), p.issue a.slots) := by
  induction a generalizing p with
  | nil => rfl
  | cons piece a ih =>
    cases piece with
    | text t => rw [bound, ih h, slots, fill_text]; rfl
    | value hint v =>
      have hrest := ih h (p.push hint v).2
      simp only [bound, hrest, slots, Placeholders.issuedNames, List.map_cons, fill_value]
      rfl
    | deferred => exact absurd h (by simp [deferredCount])

end Fragment

end DocQuery
