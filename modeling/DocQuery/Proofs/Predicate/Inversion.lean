import DocQuery.Proofs.Argument
import DocQuery.Proofs.Predicate.Forms
import DocQuery.Proofs.Predicate.Meaning
/-!
# Inversion of the translation

What a translated predicate looks like. For every kind of leaf `…_eq_ok_iff` gives the operands it
is translated with and the criteria that comes of them; `toCriteria_induction` goes through the
forms that a predicate with criteria can have.
-/

namespace DocQuery.Predicate

variable {entity : Entity} {op : Op} {args : List Predicate} {c : Criteria}

/-! ### Leaves -/

lemma comparison_eq_ok_iff {r converse : Relation} :
    comparison entity op r converse args = .ok c ↔
      ∃ logical field a, entity.resolve logical = .ok field ∧
        (args = [.path logical, .constant a] ∧ c = (Criterion.on field).relate r a.toValue ∨
          args = [.constant a, .path logical] ∧
            c = (Criterion.on field).relate converse a.toValue) := by
  constructor
  · intro h
    obtain ⟨s, hs, h⟩ := exists_of_bind_eq_ok h
    obtain rfl := Except.ok.inj h
    obtain ⟨logical, hfield, ⟨hargs, hswapped⟩ | ⟨hargs, hswapped⟩⟩ := sides_eq_ok hs
    · exact ⟨logical, s.field, s.constant, hfield, .inl ⟨hargs, by simp [hswapped]⟩⟩
    · exact ⟨logical, s.field, s.constant, hfield, .inr ⟨hargs, by simp [hswapped]⟩⟩
  · rintro ⟨logical, field, a, hfield, ⟨rfl, rfl⟩ | ⟨rfl, rfl⟩⟩
    · simp only [comparison, sides, hfield]
      rfl
    · simp only [comparison, sides, hfield]
      rfl

lemma stringMatch_eq_ok_iff {r : Relation} :
    stringMatch entity op r args = .ok c ↔
      ∃ logical field a, entity.resolve logical = .ok field ∧
        args = [.path logical, .constant a] ∧ c = (Criterion.on field).relate r a.toValue := by
  constructor
  · intro h
    obtain ⟨s, hs, h⟩ := exists_of_bind_eq_ok h
    obtain ⟨logical, hfield, ⟨hargs, hswapped⟩ | ⟨hargs, hswapped⟩⟩ := sides_eq_ok hs
    · rw [hswapped] at h
      exact ⟨logical, s.field, s.constant, hfield, hargs, (Except.ok.inj h).symm⟩
    · rw [hswapped] at h
      exact absurd h throw_bind_ne_ok
  · rintro ⟨logical, field, a, hfield, rfl, rfl⟩
    simp only [stringMatch, sides, hfield]
    rfl

/-- Only a constant that is no set has upper-case forms. -/
lemma foldedMatch_eq_ok_iff {r : Relation} :
    foldedMatch entity op r args = .ok c ↔
      ∃ logical field a v, entity.resolve logical = .ok field ∧
        args = [.path logical, .constant a] ∧ a.toPattern = .ok v ∧
          c = (Criterion.on field).upper.relate r v.upper := by
  constructor
  · intro h
    obtain ⟨s, hs, h⟩ := exists_of_bind_eq_ok h
    obtain ⟨logical, hfield, ⟨hargs, hswapped⟩ | ⟨hargs, hswapped⟩⟩ := sides_eq_ok hs
    · rw [hswapped] at h
      obtain ⟨v, hv, h⟩ := exists_of_bind_eq_ok h
      exact ⟨logical, s.field, s.constant, v, hfield, hargs, hv, (Except.ok.inj h).symm⟩
    · rw [hswapped] at h
      exact absurd h throw_bind_ne_ok
  · rintro ⟨logical, field, a, v, hfield, rfl, hv, rfl⟩
    simp only [foldedMatch, sides, hfield]
    exact congrArg (· >>= fun v => Except.ok ((Criterion.on field).upper.relate r v.upper)) hv

lemma membership_of_sides {r scalar : Relation} {s : Sides} (hs : sides entity op args = .ok s) :
    membership entity op r scalar args =
      .ok ((Criterion.on s.field).relate (if s.constant.isSet then r else scalar)
        s.constant.toValue) := by
  rw [membership, hs]
  obtain ⟨field, a, swapped⟩ := s
  cases a with
  | enum name => rfl
  | collection items => rfl
  | value v => cases v <;> rfl

/-- Whether or not the constant is a set decides the relation; its value is compared as it is. -/
lemma membership_eq_ok_iff {r scalar : Relation} :
    membership entity op r scalar args = .ok c ↔
      ∃ logical field a, entity.resolve logical = .ok field ∧
        (args = [.path logical, .constant a] ∨ args = [.constant a, .path logical]) ∧
          c = (Criterion.on field).relate (if a.isSet then r else scalar) a.toValue := by
  constructor
  · intro h
    obtain ⟨s, hs, -⟩ := exists_of_bind_eq_ok h
    rw [membership_of_sides hs] at h
    obtain ⟨logical, hfield, ⟨hargs, -⟩ | ⟨hargs, -⟩⟩ := sides_eq_ok hs
    · exact ⟨logical, s.field, s.constant, hfield, .inl hargs, (Except.ok.inj h).symm⟩
    · exact ⟨logical, s.field, s.constant, hfield, .inr hargs, (Except.ok.inj h).symm⟩
  · rintro ⟨logical, field, a, hfield, rfl | rfl, rfl⟩
    · apply membership_of_sides (s := ⟨field, a, false⟩)
      simp only [sides, hfield]
      rfl
    · apply membership_of_sides (s := ⟨field, a, true⟩)
      simp only [sides, hfield]
      rfl

lemma between_eq_ok_iff :
    between entity args = .ok c ↔
      ∃ logical field low high, entity.resolve logical = .ok field ∧
        args = [.path logical, .constant low, .constant high] ∧
          c = (Criterion.on field).between low.toValue high.toValue := by
  constructor
  · intro h
    unfold between at h
    split at h
    · next logical low high =>
      obtain ⟨field, hfield, h⟩ := exists_of_bind_eq_ok h
      exact ⟨logical, field, low, high, hfield, rfl, (Except.ok.inj h).symm⟩
    · exact absurd h (by simp)
  · rintro ⟨logical, field, low, high, hfield, rfl, rfl⟩
    simp only [between, hfield]
    rfl

/-- Criteria made of a lone path. -/
lemma onlyField_bind_eq_ok_iff {f : Criterion → Criteria} :
    (do return f (← onlyField entity op args)) = Except.ok c ↔
      ∃ logical field, entity.resolve logical = .ok field ∧ args = [.path logical] ∧
        c = f (.on field) := by
  constructor
  · intro h
    obtain ⟨criterion, hcriterion, h⟩ := exists_of_bind_eq_ok h
    obtain ⟨logical, field, hargs, hfield, rfl⟩ := onlyField_eq_ok hcriterion
    exact ⟨logical, field, hfield, hargs, (Except.ok.inj h).symm⟩
  · rintro ⟨logical, field, hfield, rfl, rfl⟩
    simp only [onlyField, hfield]
    rfl

lemma check_eq_ok_iff {k : Check} :
    (do return (← onlyField entity op args).check k) = Except.ok c ↔
      ∃ logical field, entity.resolve logical = .ok field ∧ args = [.path logical] ∧
        c = (Criterion.on field).check k :=
  onlyField_bind_eq_ok_iff (f := (Criterion.check · k))

/-! ### Induction -/

/-- It is true of leaves and their criteria, and of other operations if it is true of their operands.
-/
structure KeptByTranslation (entity : Entity) (motive : Predicate → Criteria → Prop) : Prop where
  leaf {op : Op} {args : List Predicate} {c : Criteria} (hj : op.junction? = none)
    (hnot : op ≠ .not) (h : leaf entity op args = .ok c) : motive (.operation op args) c
  notIn {inner : List Predicate} {c : Criteria} (h : Predicate.leaf entity .isNotIn inner = .ok c) :
    motive (.operation .not [.operation .isIn inner]) c
  not {child : Predicate} {c : Criteria} (h : motive child c) :
    motive (.operation .not [child]) c.negate
  junction {op : Op} {j : Junction} {args : List Predicate} {first second : Criteria}
    {rest : List Criteria} (hj : op.junction? = some j)
    (h : List.Forall₂ motive args (first :: second :: rest)) :
    motive (.operation op args) (chain j first (second :: rest))

variable {motive : Predicate → Criteria → Prop}

mutual

/-- Induction over the predicates that are translated, along with their criteria. -/
theorem toCriteria_induction (hkept : KeptByTranslation entity motive) :
    ∀ (p : Predicate) {c : Criteria}, p.toCriteria entity = .ok c → motive p c
  | .path _, _, h => by simp [toCriteria] at h
  | .constant _, _, h => by simp [toCriteria] at h
  | .operation op args, c, h => by
    by_cases hnot : op = .not
    · subst hnot
      match args, h with
      | [child], h =>
        obtain ⟨inner, heq, hleaf⟩ | ⟨child', c', heq, hc', rfl⟩ := toCriteria_not_eq_ok h
        · obtain rfl := List.head_eq_of_cons_eq heq
          exact hkept.notIn hleaf
        · obtain rfl := List.head_eq_of_cons_eq heq
          exact hkept.not (toCriteria_induction hkept child hc')
      | [], h => exact absurd h (by simp [toCriteria, Op.junction?])
      | _ :: _ :: _, h => exact absurd h (by simp [toCriteria, Op.junction?])
    · cases hj : op.junction? with
      | none =>
        rw [toCriteria_leaf entity hj hnot] at h
        exact hkept.leaf hj hnot h
      | some j =>
        match args, h with
        | [], h => exact absurd h (by simp [toCriteria_junction_of_length_lt entity hj])
        | [_], h => exact absurd h (by simp [toCriteria_junction_of_length_lt entity hj])
        | first :: second :: rest, h =>
          rw [toCriteria_junction entity hj] at h
          obtain ⟨c₁, h₁, h⟩ := exists_of_bind_eq_ok h
          obtain ⟨c₂, h₂, h⟩ := exists_of_bind_eq_ok h
          obtain ⟨cs, hcs, h⟩ := exists_of_bind_eq_ok h
          obtain rfl := Except.ok.inj h
          apply hkept.junction hj
          exact .cons (toCriteria_induction hkept first h₁)
            (.cons (toCriteria_induction hkept second h₂) (toCriteriaList_induction hkept rest hcs))

theorem toCriteriaList_induction (hkept : KeptByTranslation entity motive) :
    ∀ (ps : List Predicate) {cs : List Criteria}, toCriteriaList entity ps = .ok cs →
      List.Forall₂ motive ps cs
  | [], cs, h => by
    obtain rfl : [] = cs := Except.ok.inj h
    exact .nil
  | p :: ps, cs, h => by
    obtain ⟨c, hc, h⟩ := exists_of_bind_eq_ok h
    obtain ⟨cs', hcs, h⟩ := exists_of_bind_eq_ok h
    obtain rfl := Except.ok.inj h
    exact .cons (toCriteria_induction hkept p hc) (toCriteriaList_induction hkept ps hcs)

end

end DocQuery.Predicate
