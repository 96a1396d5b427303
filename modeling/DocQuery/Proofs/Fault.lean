import DocQuery.Fault
import Mathlib.Tactic.Lemma
/-!
# Kinds of faults

Two computations have the same outcome if they have the same result or fail for reasons of one kind.
-/

namespace DocQuery

/-- The reason for a fault without its particulars. -/
inductive FaultKind where
  | unsupported
  | unknownProperty
  | misuse
  | bindingCount
  | deferredOperand
deriving DecidableEq

def Fault.kind : Fault → FaultKind
  | .unsupported _ _ => .unsupported
  | .unknownProperty _ => .unknownProperty
  | .misuse _ => .misuse
  | .bindingCount _ _ => .bindingCount
  | .deferredOperand => .deferredOperand

variable {α β : Type}

/-- The same result, or faults of one kind. -/
def SameOutcome (x y : Except Fault α) : Prop := x.mapError Fault.kind = y.mapError Fault.kind

namespace SameOutcome

variable {x y : Except Fault α}

lemma refl (x : Except Fault α) : SameOutcome x x := rfl

lemma of_eq (h : x = y) : SameOutcome x y := congrArg _ h

lemma eq_or_faults (h : SameOutcome x y) :
    (∃ a, x = .ok a ∧ y = .ok a) ∨
      ∃ e e', x = .error e ∧ y = .error e' ∧ Fault.kind e = Fault.kind e' := by
  cases x with
  | error e =>
    cases y with
    | error e' => exact .inr ⟨e, e', rfl, rfl, Except.error.inj h⟩
    | ok b => exact absurd (show Except.error e.kind = .ok b from h) (by simp)
  | ok a =>
    cases y with
    | error e' => exact absurd (show Except.ok a = .error e'.kind from h) (by simp)
    | ok b => exact .inl ⟨a, rfl, congrArg Except.ok (Except.ok.inj h).symm⟩

lemma error {e e' : Fault} (h : e.kind = e'.kind) :
    SameOutcome (.error e : Except Fault α) (.error e') :=
  congrArg Except.error h

/-- A first step with the same outcome does not show in the steps behind it. -/
lemma bind {f g : α → Except Fault β} (h : SameOutcome x y) (hf : ∀ a, SameOutcome (f a) (g a)) :
    SameOutcome (x >>= f) (y >>= g) := by
  obtain ⟨a, rfl, rfl⟩ | ⟨e, e', rfl, rfl, hkind⟩ := h.eq_or_faults
  · exact hf a
  · exact error hkind

end SameOutcome

end DocQuery
