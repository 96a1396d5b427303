import DocQuery.Proofs.Criteria.Places
import DocQuery.Proofs.Fragment.Template
import DocQuery.Proofs.Fragment.Writing
/-!
# Literals and placeholders in the text of criteria

The values of a criteria are the operands of its comparisons. Its fragment has one place for each,
in their order, and the two exports differ in what they write there (`inline_and_bound_agree`).
-/

namespace DocQuery

open Fragment

/-- The value of an operand, if it is known. -/
def Operand.value? : Operand → Option Value
  | .value v => some v
  | .deferred _ => none

/-- The values of a comparison; a placeholder for one is named after the field. -/
def Comparison.slots (c : Comparison) : List (String × Value) :=
  c.test.operands.filterMap fun operand => operand.value?.map (c.field.parameterName, ·)

/-- The values of a criteria, comparison by comparison. -/
def Criteria.slots (c : Criteria) : List (String × Value) := c.comparisons.flatMap Comparison.slots

/-! ### One place for every operand -/

namespace Comparison

variable (c : Comparison)

lemma slot?_place (operand : Operand) :
    (c.place operand).slot? = operand.value?.map (c.field.parameterName, ·) := by
  cases operand <;> rfl

lemma slots_eq_filterMap : c.slots = (c.test.operands.map c.place).filterMap Piece.slot? := by
  rw [slots, List.filterMap_map]
  exact congrArg (List.filterMap · _) (funext fun operand => (c.slot?_place operand).symm)

end Comparison

namespace Criteria

/-- The known values of a criteria stand in its fragment, comparison by comparison. -/
theorem slots_fragment (c : Criteria) : Fragment.slots c.fragment = c.slots := by
  have hslots : Comparison.slots = fun k => (k.test.operands.map k.place).filterMap Piece.slot? :=
    funext Comparison.slots_eq_filterMap
  rw [Fragment.slots_eq_filterMap, places_fragment, slots, places, hslots, List.filterMap_flatMap]

/-- The values of the operands in front of the first one that waits for its argument, comparison by
comparison; a placeholder for one is named after the field. -/
def slotsInFront (c : Criteria) : List (String × Value) :=
  (c.places.takeWhile fun piece => !piece.isDeferred).filterMap Piece.slot?

lemma slotsInFront_fragment (c : Criteria) : c.fragment.slotsInFront = c.slotsInFront := by
  rw [Fragment.slotsInFront, places_fragment]
  rfl

/-- An export issues placeholders for the operands in front of the first one that waits. -/
lemma snd_bound (c : Criteria) (p : Placeholders) : (c.bound p).2 = p.issue c.slotsInFront := by
  rw [bound, Fragment.snd_bound, slotsInFront_fragment]

lemma slotsInFront_isPrefix (c : Criteria) : c.slotsInFront <+: c.slots := by
  rw [← slotsInFront_fragment, ← slots_fragment]
  exact c.fragment.slotsInFront_isPrefix

lemma slotsInFront_eq_slots {c : Criteria} (h : c.deferredCount = 0) :
    c.slotsInFront = c.slots := by
  rw [← slotsInFront_fragment, ← slots_fragment]
  exact Fragment.slotsInFront_eq_slots (by rw [deferredCount_fragment, h])

/-- The two exports of a criteria fail together, where an operand waits for an argument, or write
one row of texts, with the literals of the operands between them or with the placeholders that are
bound to the operands. -/
theorem inline_and_bound_agree (c : Criteria) (style : PlaceholderStyle) :
    (c.deferredCount ≠ 0 ∧ c.inline = .error .deferredOperand ∧
      (c.bound (.empty style)).1 = .error .deferredOperand) ∨
    (c.deferredCount = 0 ∧
      ∃ (head : String) (tails : List String) (tokens : List String) (p : Placeholders)
        (bindings : Bindings),
        tails.length = c.slots.length ∧ tokens.length = c.slots.length ∧
        c.inline = .ok (interleave head ((c.slots.map fun slot => slot.2.literal).zip tails)) ∧
        c.bound (.empty style) = (.ok (interleave head (tokens.zip tails)), p) ∧
        tokens = p.names.map ("$" ++ ·) ∧
        p.finish = .ok bindings ∧ bindings.style = style ∧
        bindings.Binds tokens (c.slots.map (·.2))) := by
  by_cases hknown : c.deferredCount = 0
  · have hfragment : Fragment.deferredCount c.fragment = 0 := by rw [deferredCount_fragment, hknown]
    obtain ⟨bindings, hfinish, hstyle, hbinds⟩ := Placeholders.finish_issue style c.slots
    rw [Placeholders.names_issue_empty] at hbinds
    refine .inr ⟨hknown, c.fragment.headText, c.fragment.tailTexts, _, _, bindings,
      ?_, ?_, ?_, ?_, ?_, hfinish, hstyle, hbinds⟩
    · rw [length_tailTexts, slots_fragment]
    · rw [List.length_map, Placeholders.length_issuedNames]
    · rw [inline, inline_eq_fill hfragment, slots_fragment]
      rfl
    · rw [bound, bound_eq_fill hfragment, slots_fragment]
      rfl
    · rw [Placeholders.names_issue_empty]
  · have hfragment : Fragment.deferredCount c.fragment ≠ 0 := by rwa [deferredCount_fragment]
    refine .inl ⟨hknown, ?_, ?_⟩
    · rw [inline, inline_eq_write, write_error _ _ hfragment]
    · rw [bound, bound_eq_write c.fragment ⟨.empty style, rfl⟩, write_error _ _ hfragment]

end Criteria

end DocQuery
