import DocQuery.Criteria.Text
import DocQuery.Proofs.Criteria.Formula
import DocQuery.Proofs.Fragment.Places
/-!
# The places of criteria

The fragment of a criteria has one place for every operand of its comparisons, in their order
(`places_fragment`). So it waits for as many arguments as the criteria does.
-/

namespace DocQuery

open Fragment

/-! ### Comparisons -/

lemma places_fold (a : Fragment) (fold : Option CaseFold) :
    places (foldFragment fold a) = places a := by
  rcases fold with _ | _ | _
  · rfl
  · exact places_call a "lower"
  · exact places_call a "upper"

lemma Check.places_fragment (a : Fragment) (k : Check) : places (k.fragment a) = places a := by
  cases k with
  | isTrue => simp [fragment, Fragment.eq]
  | isFalse => simp [fragment, Fragment.eq]
  | _ => exact places_suffixed a _

lemma Relation.places_fragment (a b : Fragment) (r : Relation) :
    places (r.fragment a b) = places a ++ places b := by
  cases r with
  | startsWith => simp [fragment, Fragment.like, Fragment.paren]
  | endsWith => simp [fragment, Fragment.like, Fragment.paren]
  | contains => exact places_call₂ a b "contains"
  | notContains => simp [fragment, Fragment.contains, Fragment.not]
  | regex => exact places_call₂ a b "regexp_like"
  | _ => exact places_binary a b _

/-- Whether an operand waits for an argument. -/
def Operand.isDeferred : Operand → Bool
  | .deferred _ => true
  | .value _ => false

namespace Comparison

variable (c : Comparison)

/-- The place of an operand, named after the field. -/
def place : Operand → Piece
  | .value v => .value c.field.parameterName v
  | .deferred _ => .deferred

lemma isDeferred_place (operand : Operand) : (c.place operand).isDeferred = operand.isDeferred := by
  cases operand <;> rfl

lemma places_subject : places c.subject = [] := by
  rw [subject, places_fold, places_raw]

lemma operandFragment_eq_place (operand : Operand) :
    c.operandFragment operand = foldFragment c.valueFold [c.place operand] := by
  cases operand <;> rfl

lemma places_operandFragment (operand : Operand) :
    places (c.operandFragment operand) = [c.place operand] := by
  rw [operandFragment_eq_place, places_fold]
  cases operand <;> rfl

lemma places_fragment : places c.fragment = c.test.operands.map c.place := by
  rw [fragment]
  cases c.test with
  | check k => simp [Check.places_fragment, places_subject, Test.operands]
  | relation r operand =>
    simp [Relation.places_fragment, places_subject, places_operandFragment, Test.operands]
  | between low high => simp [between, places_subject, places_operandFragment, Test.operands]

end Comparison

/-! ### Criteria -/

namespace Criteria

/-- The places of a criteria, comparison by comparison. -/
def places (c : Criteria) : List Piece := c.comparisons.flatMap fun k => k.test.operands.map k.place

lemma places_markNegated (negated : Bool) (a : Fragment) :
    Fragment.places (markNegated negated a) = a.places := by
  cases negated with
  | false => rfl
  | true => exact places_call a "not"

lemma places_asOperand (c : Criteria) (a : Fragment) :
    Fragment.places (c.asOperand a) = a.places := by
  rw [asOperand]
  split
  · exact places_call a ""
  · rfl

/-- No operand is written twice, out of order or not at all. -/
theorem places_fragment (c : Criteria) : Fragment.places c.fragment = c.places := by
  induction c with
  | comparison k negated grouped =>
    rw [fragment, places_markNegated, k.places_fragment, places, comparisons,
      List.flatMap_singleton]
  | junction j left right negated grouped ihl ihr =>
    have hjunction : ∀ a b, Fragment.places (j.fragment a b) = a.places ++ b.places := by
      intro a b
      cases j <;> exact places_binary a b _
    rw [fragment, places_markNegated, hjunction, places_asOperand, places_asOperand, ihl, ihr,
      places, places, places, comparisons, List.flatMap_append]
  | not child grouped ih =>
    rw [fragment, Fragment.not, places_call, ih]
    rfl

/-! ### Operands that wait -/

lemma deferredCount_comparison (c : Comparison) (negated grouped : Bool) :
    (comparison c negated grouped).deferredCount = c.test.operands.countP Operand.isDeferred := by
  rw [deferredCount, List.countP_eq_length_filter]
  rfl

lemma deferredCount_eq_countP (c : Criteria) :
    c.deferredCount = c.places.countP Piece.isDeferred := by
  induction c with
  | comparison k negated grouped =>
    rw [deferredCount_comparison, places, comparisons, List.flatMap_singleton, List.countP_map]
    exact congrArg (List.countP · _) (funext fun operand => (k.isDeferred_place operand).symm)
  | junction j left right negated grouped ihl ihr =>
    rw [deferredCount, ihl, ihr, places, places, places, comparisons, List.flatMap_append,
      List.countP_append]
  | not child grouped ih => exact ih

/-- The fragment of a criteria waits for the arguments that the criteria waits for. -/
theorem deferredCount_fragment (c : Criteria) :
    Fragment.deferredCount c.fragment = c.deferredCount := by
  rw [Fragment.deferredCount_eq_countP, places_fragment, deferredCount_eq_countP]

end Criteria

end DocQuery
