import DocQuery.Predicate.Criteria
import DocQuery.Proofs.Argument
/-!
# The criteria of every form of predicate

Equations for the translation of an operation: a junction is a chain of the criteria of its
operands, a negation turns over the criteria of its operand unless that is membership of a set, and
everything else is a leaf. A leaf that relates its sides offers the constant, converted, for a
comparison by the operator; the offer is never refused.
-/

namespace DocQuery.Predicate

variable (entity : Entity) {op : Op}

/-! ### Leaves -/

section Leaves

variable (r r' : Relation) (args : List Predicate)

theorem comparison_eq_compare :
    comparison entity op r r' args = (do
      let s ← sides entity op args
      (Criterion.on s.field).compare (.relation (if s.swapped then r' else r))
        [.operand (.value s.constant.toValue)]) := by
  simp only [Criterion.compare_relation]
  rfl

theorem stringMatch_eq_compare :
    stringMatch entity op r args = (do
      let s ← sides entity op args
      if s.swapped then throw (unsupported op args)
      (Criterion.on s.field).compare (.relation r) [.operand (.value s.constant.toValue)]) := by
  simp only [Criterion.compare_relation]
  rfl

theorem foldedMatch_eq_compare :
    foldedMatch entity op r args = (do
      let s ← sides entity op args
      if s.swapped then throw (unsupported op args)
      let v ← s.constant.toPattern
      (Criterion.on s.field).upper.compare (.relation r) [.operand (.value v.upper)]) := by
  simp only [Criterion.compare_relation]
  rfl

/-- A set is converted as one, and any other constant is compared by itself. -/
theorem membership_eq_compare :
    membership entity op r r' args = (do
      let s ← sides entity op args
      if s.constant.isSet then
        let v ← s.constant.toSet
        (Criterion.on s.field).compare (.relation r) [.operand (.value v)]
      else
        (Criterion.on s.field).compare (.relation r') [.operand (.value s.constant.toValue)]) := by
  simp only [membership, Criterion.compare_relation]
  cases sides entity op args with
  | error e => rfl
  | ok s =>
    obtain ⟨field, a, swapped⟩ := s
    cases a with
    | enum name => rfl
    | collection items => rfl
    | value v => cases v <;> rfl

end Leaves

/-! ### Operations -/

lemma toCriteria_junction {j : Junction} (hj : op.junction? = some j) (first second : Predicate)
    (rest : List Predicate) :
    toCriteria entity (.operation op (first :: second :: rest)) = (do
      let first ← toCriteria entity first
      let second ← toCriteria entity second
      return chain j first (second :: (← toCriteriaList entity rest))) := by
  rw [toCriteria.eq_def]
  simp only [hj]

lemma toCriteria_junction_of_length_lt {j : Junction} (hj : op.junction? = some j)
    {args : List Predicate} (h : args.length < 2) :
    toCriteria entity (.operation op args) =
      .error (.misuse (.junctionSize op.name args.length)) := by
  rw [toCriteria.eq_def]
  simp only [hj]
  split
  · simp only [List.length_cons] at h
    omega
  · rfl

lemma toCriteria_not {child : Predicate} (h : ∀ inner, child ≠ .operation .isIn inner) :
    toCriteria entity (.operation .not [child]) =
      (do return (← toCriteria entity child).negate) := by
  rw [toCriteria.eq_def]
  simp only [Op.junction?, if_true]

/-- Membership has an operation of its own for its negation. -/
lemma toCriteria_not_isIn (inner : List Predicate) :
    toCriteria entity (.operation .not [.operation .isIn inner]) = leaf entity .isNotIn inner := by
  rw [toCriteria.eq_def]
  rfl

lemma toCriteria_leaf (hj : op.junction? = none) (hnot : op ≠ .not) (args : List Predicate) :
    toCriteria entity (.operation op args) = leaf entity op args := by
  rw [toCriteria.eq_def]
  simp only [hj, if_neg hnot]

end DocQuery.Predicate
