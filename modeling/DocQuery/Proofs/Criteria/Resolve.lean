import DocQuery.Criteria.Resolve
import DocQuery.Proofs.Criteria.Places
import Mathlib.Data.List.Forall2
/-!
# Criteria with their arguments

Resolving a criteria keeps its shape: every comparison becomes one on the same field and with the
same operator, whose operands are known.
-/

namespace DocQuery

variable {α β : Type}

/-- A step that fails keeps the state behind it. -/
lemma run_bind {ε σ : Type} (x : ExceptT ε (StateM σ) α) (f : α → ExceptT ε (StateM σ) β) (s : σ) :
    (x >>= f).run.run s = match x.run.run s with
      | (.ok a, mid) => (f a).run.run mid
      | (.error e, mid) => (.error e, mid) := by
  rw [ExceptT.run_bind, StateT.run_bind]
  cases x.run.run s with
  | mk r mid => cases r <;> rfl

lemma run_map {ε σ : Type} (f : α → β) (x : ExceptT ε (StateM σ) α) (s : σ) :
    (f <$> x).run.run s = ((x.run.run s).1.map f, (x.run.run s).2) := by
  rw [map_eq_pure_bind, run_bind]
  cases x.run.run s with
  | mk r mid => cases r <;> rfl

namespace Taking

/-- The step succeeds with `a` and leaves `rest` of the arguments. -/
def Takes (x : Taking α) (args : List Argument) (a : α) (rest : List Argument) : Prop :=
  x.run.run args = (.ok a, rest)

lemma takes_pure {a b : α} {args rest : List Argument} :
    Takes (pure a) args b rest ↔ b = a ∧ rest = args := by
  constructor
  · intro h
    obtain ⟨h₁, h₂⟩ := Prod.mk.inj h
    exact ⟨(Except.ok.inj h₁).symm, h₂.symm⟩
  · rintro ⟨rfl, rfl⟩
    rfl

lemma exists_of_takes_bind {x : Taking α} {f : α → Taking β} {args rest : List Argument} {b : β}
    (h : Takes (x >>= f) args b rest) :
    ∃ a mid, Takes x args a mid ∧ Takes (f a) mid b rest := by
  rw [Takes, run_bind] at h
  split at h
  · next a mid hx => exact ⟨a, mid, hx, h⟩
  · exact absurd (Prod.mk.inj h).1 (by simp)

end Taking

open Taking

/-! ### Comparisons -/

lemma Operand.value_of_takes {operand operand' : Operand} {args rest : List Argument}
    (h : Takes operand.resolve args operand' rest) : operand'.isDeferred = false := by
  cases operand with
  | value v =>
    obtain ⟨rfl, -⟩ := takes_pure.mp h
    rfl
  | deferred conversion =>
    obtain ⟨v, mid, -, h⟩ := exists_of_takes_bind h
    obtain ⟨rfl, -⟩ := takes_pure.mp h
    rfl

lemma Test.operator_of_takes {test test' : Test} {args rest : List Argument}
    (h : Takes test.resolve args test' rest) :
    test'.operator = test.operator ∧ ∀ operand ∈ test'.operands, operand.isDeferred = false := by
  cases test with
  | check k =>
    obtain ⟨rfl, -⟩ := takes_pure.mp h
    exact ⟨rfl, by simp [operands]⟩
  | relation r operand =>
    obtain ⟨operand', mid, hoperand, h⟩ := exists_of_takes_bind h
    obtain ⟨rfl, -⟩ := takes_pure.mp h
    exact ⟨rfl, by simpa [operands] using Operand.value_of_takes hoperand⟩
  | between low high =>
    obtain ⟨low', mid, hlow, h⟩ := exists_of_takes_bind h
    obtain ⟨high', mid', hhigh, h⟩ := exists_of_takes_bind h
    obtain ⟨rfl, -⟩ := takes_pure.mp h
    have hknown := And.intro (Operand.value_of_takes hlow) (Operand.value_of_takes hhigh)
    exact ⟨rfl, by simpa [operands] using hknown⟩

/-- The comparison is `k` with values for its operands. -/
structure Comparison.Fills (k k' : Comparison) : Prop where
  field : k'.field = k.field
  fieldFold : k'.fieldFold = k.fieldFold
  valueFold : k'.valueFold = k.valueFold
  operator : k'.test.operator = k.test.operator
  known : ∀ operand ∈ k'.test.operands, operand.isDeferred = false

/-! ### Criteria -/

namespace Criteria

variable {c c' left right : Criteria} {args rest : List Argument}

lemma takes_comparison {k : Comparison} {negated grouped : Bool}
    (h : Takes (comparison k negated grouped).resolve args c' rest) :
    ∃ k', c' = comparison k' negated grouped ∧ k.Fills k' := by
  obtain ⟨test, mid, htest, h⟩ := exists_of_takes_bind h
  obtain ⟨rfl, -⟩ := takes_pure.mp h
  obtain ⟨hoperator, hknown⟩ := Test.operator_of_takes htest
  exact ⟨_, rfl, rfl, rfl, rfl, hoperator, hknown⟩

lemma takes_junction {j : Junction} {negated grouped : Bool}
    (h : Takes (junction j left right negated grouped).resolve args c' rest) :
    ∃ left' right' mid, c' = junction j left' right' negated grouped ∧
      Takes left.resolve args left' mid ∧ Takes right.resolve mid right' rest := by
  obtain ⟨left', mid, hl, h⟩ := exists_of_takes_bind h
  obtain ⟨right', mid', hr, h⟩ := exists_of_takes_bind h
  obtain ⟨rfl, rfl⟩ := takes_pure.mp h
  exact ⟨left', right', mid, rfl, hl, hr⟩

/-- Every comparison gets its values, and none is lost or added. -/
theorem fills_comparisons (h : Takes c.resolve args c' rest) :
    List.Forall₂ Comparison.Fills c.comparisons c'.comparisons := by
  induction c generalizing c' args rest with
  | comparison k negated grouped =>
    obtain ⟨k', rfl, hk⟩ := takes_comparison h
    exact .cons hk .nil
  | junction j left right negated grouped ihl ihr =>
    obtain ⟨left', right', mid, rfl, hl, hr⟩ := takes_junction h
    exact List.rel_append (ihl hl) (ihr hr)
  | not child grouped ih =>
    obtain ⟨child', mid, hchild, h⟩ := exists_of_takes_bind h
    obtain ⟨rfl, -⟩ := takes_pure.mp h
    have hcomparisons := ih hchild
    exact hcomparisons

end Criteria

end DocQuery
