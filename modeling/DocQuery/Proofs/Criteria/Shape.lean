import DocQuery.Proofs.Criteria.Places
import DocQuery.Proofs.Fragment.Writing
/-!
# Criteria that can be exported

A comparison is built from the operands that are offered for it only if its operator takes just
these (`compare_eq_ok_iff`). An export of a criteria has one reason to fail: an operand that still
waits for its argument (`inline_eq_error_iff`, `bound_eq_error_iff`).
-/

namespace DocQuery

/-! ### Operands that are offered -/

/-- What is offered is operands alone if there are no criteria in it. -/
lemma mapM_operand?_eq_some_iff {offers : List Offer} {operands : List Operand} :
    offers.mapM Offer.operand? = some operands ↔ offers = operands.map .operand := by
  induction offers generalizing operands with
  | nil => cases operands <;> simp
  | cons offer offers ih =>
    rw [List.mapM_cons]
    cases offer with
    | criteria c => cases operands <;> simp [Offer.operand?]
    | operand o =>
      cases operands with
      | nil => simp [Offer.operand?, Option.bind_eq_some_iff]
      | cons operand operands => simp [Offer.operand?, Option.bind_eq_some_iff, ih, and_comm]

namespace Test

/-- A test has as many operands as its operator takes. -/
lemma length_operands (t : Test) : t.operands.length = t.operator.arity := by
  cases t <;> rfl

lemma takesCriteria_operator (t : Test) : t.operator.takesCriteria = false := by
  cases t <;> rfl

end Test

namespace Criterion

/-- A comparison is built from exactly the operands of a test by the operator. -/
theorem compare_eq_ok_iff {k : Criterion} {operator : Operator} {offers : List Offer}
    {c : Criteria} : k.compare operator offers = .ok c ↔
      ∃ t : Test, t.operator = operator ∧ offers = t.operands.map .operand ∧ c = k.test t := by
  constructor
  · intro h
    unfold compare at h
    split at h
    · simp at h
    · split at h
      · simp at h
      · split at h
        · next check hoffers _ _ =>
          exact ⟨.check check, rfl, mapM_operand?_eq_some_iff.mp hoffers, (Except.ok.inj h).symm⟩
        · next r operand hoffers _ _ =>
          exact ⟨.relation r operand, rfl, mapM_operand?_eq_some_iff.mp hoffers,
            (Except.ok.inj h).symm⟩
        · next low high hoffers _ _ =>
          exact ⟨.between low high, rfl, mapM_operand?_eq_some_iff.mp hoffers,
            (Except.ok.inj h).symm⟩
        · simp at h
  · rintro ⟨t, rfl, rfl, rfl⟩
    have hoperands : (t.operands.map .operand).mapM Offer.operand? = some t.operands :=
      mapM_operand?_eq_some_iff.mpr rfl
    unfold compare
    rw [t.takesCriteria_operator, if_neg Bool.false_ne_true, List.length_map,
      if_neg (by simp [t.length_operands]), hoperands]
    cases t <;> rfl

end Criterion

namespace Criteria

/-! ### Nodes -/

/-- The nodes of a criteria, its root first. -/
def nodes : Criteria → List Criteria
  | .comparison c negated grouped => [.comparison c negated grouped]
  | .junction j left right negated grouped =>
    .junction j left right negated grouped :: (left.nodes ++ right.nodes)
  | .not child grouped => .not child grouped :: child.nodes

/-! ### Exports -/

/-- A fragment with an open value is not written, and one without is. -/
lemma write_eq_error_iff {σ : Type} (w : Writer σ) (s : σ) (a : Fragment) (fault : Fault) :
    (a.write w s).1 = .error fault ↔ 0 < a.deferredCount ∧ fault = .deferredOperand := by
  constructor
  · intro h
    have hopen : a.deferredCount ≠ 0 := by
      intro hknown
      obtain ⟨cs, s', t, hwrite, -⟩ := Fragment.exists_writes w s hknown
      simp [hwrite] at h
    rw [Fragment.write_error w s hopen] at h
    exact ⟨Nat.pos_of_ne_zero hopen, (Except.error.inj h).symm⟩
  · rintro ⟨hopen, rfl⟩
    exact Fragment.write_error w s (Nat.ne_of_gt hopen)

lemma inline_eq_error_iff (c : Criteria) (fault : Fault) :
    c.inline = .error fault ↔ 0 < c.deferredCount ∧ fault = .deferredOperand := by
  rw [inline, Fragment.inline_eq_write, write_eq_error_iff, deferredCount_fragment]

lemma bound_eq_error_iff (c : Criteria) (p : Placeholders) (fault : Fault) :
    (c.bound p).1 = .error fault ↔ 0 < c.deferredCount ∧ fault = .deferredOperand := by
  rw [bound, Fragment.bound_eq_write c.fragment ⟨p, rfl⟩, write_eq_error_iff,
    deferredCount_fragment]

end Criteria

end DocQuery
