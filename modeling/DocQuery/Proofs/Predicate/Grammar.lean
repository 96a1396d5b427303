import DocQuery.Proofs.Predicate.Inversion
/-!
# The grammar of predicates

Which predicates have criteria, without a word on what the criteria is: every operation has the
operands that its form asks for, and every path resolves (`hasCriteria_iff_isAccepted`).
-/

namespace DocQuery

/-- The logical path leads to a property of the entity. -/
def Entity.Knows (entity : Entity) (logical : String) : Prop :=
  ∃ field, entity.resolve logical = .ok field

namespace Predicate

/-! ### Forms of operations -/

/-- What an operation asks of its operands. -/
inductive Op.Form where
  | junction
  | negation
  | comparison
  | stringMatch
  | foldedMatch
  | between
  | check
  /-- No operands will do. -/
  | refused

def Op.form : Op → Op.Form
  | .and | .or => .junction
  | .not => .negation
  | .eq | .ne | .lt | .lte | .gt | .gte | .isIn | .isNotIn => .comparison
  | .like | .startsWith | .endsWith | .contains | .regex => .stringMatch
  | .likeIgnoreCase | .startsWithIgnoreCase | .endsWithIgnoreCase | .containsIgnoreCase
  | .eqIgnoreCase => .foldedMatch
  | .between => .between
  | .isNull | .isNotNull | .isEmptyString | .isEmptyCollection => .check
  | .regexIgnoreCase | .stringLength | .collectionSize | .containsKey => .refused

/-- The operands that an operation takes, if it is no connective. -/
def Op.Form.Takes (entity : Entity) (args : List Predicate) : Op.Form → Prop
  | .comparison => ∃ logical a, entity.Knows logical ∧
      (args = [.path logical, .constant a] ∨ args = [.constant a, .path logical])
  | .stringMatch => ∃ logical a, entity.Knows logical ∧ args = [.path logical, .constant a]
  | .foldedMatch => ∃ logical a, entity.Knows logical ∧ a.isSet = false ∧
      args = [.path logical, .constant a]
  | .between => ∃ logical low high, entity.Knows logical ∧
      args = [.path logical, .constant low, .constant high]
  | .check => ∃ logical, entity.Knows logical ∧ args = [.path logical]
  | .junction | .negation | .refused => False

/-- The predicates that make sense on the entity. -/
inductive IsAccepted (entity : Entity) : Predicate → Prop
  | leaf {op : Op} {args : List Predicate} (h : op.form.Takes entity args) :
      IsAccepted entity (.operation op args)
  | negation {op : Op} {child : Predicate} (hop : op.form = .negation)
      (h : IsAccepted entity child) : IsAccepted entity (.operation op [child])
  | junction {op : Op} {args : List Predicate} (hop : op.form = .junction)
      (hlength : 2 ≤ args.length) (h : ∀ p ∈ args, IsAccepted entity p) :
      IsAccepted entity (.operation op args)

variable {entity : Entity} {op : Op} {args : List Predicate}

lemma Op.form_eq_junction_iff : op.form = .junction ↔ ∃ j, op.junction? = some j := by
  cases op <;> simp [form, junction?]

lemma Op.form_eq_negation_iff : op.form = .negation ↔ op = .not := by
  cases op <;> simp [form]

lemma not_takes_of_form (hop : op.form = .junction ∨ op.form = .negation) :
    ¬op.form.Takes entity args := by
  rcases hop with hop | hop <;> simp [hop, Op.Form.Takes]

lemma isAccepted_junction_iff (hop : op.form = .junction) :
    IsAccepted entity (.operation op args) ↔
      2 ≤ args.length ∧ ∀ p ∈ args, IsAccepted entity p := by
  constructor
  · intro h
    cases h with
    | leaf h => exact absurd h (not_takes_of_form (.inl hop))
    | negation hnot h => simp [hop] at hnot
    | junction _ hlength h => exact ⟨hlength, h⟩
  · rintro ⟨hlength, h⟩
    exact .junction hop hlength h

lemma isAccepted_negation_iff (hop : op.form = .negation) :
    IsAccepted entity (.operation op args) ↔
      args.length = 1 ∧ ∀ p ∈ args, IsAccepted entity p := by
  constructor
  · intro h
    cases h with
    | leaf h => exact absurd h (not_takes_of_form (.inr hop))
    | negation _ h => simpa using h
    | junction hj => simp [hop] at hj
  · rintro ⟨hlength, h⟩
    obtain ⟨child, rfl⟩ := List.length_eq_one_iff.mp hlength
    exact .negation hop (h child (by simp))

/-! ### Leaves -/

lemma exists_comparison_iff {r converse : Relation} :
    (∃ c, comparison entity op r converse args = .ok c) ↔
      Op.Form.comparison.Takes entity args := by
  simp only [comparison_eq_ok_iff]
  constructor
  · rintro ⟨c, logical, field, a, hfield, ⟨hargs, -⟩ | ⟨hargs, -⟩⟩
    · exact ⟨logical, a, ⟨field, hfield⟩, .inl hargs⟩
    · exact ⟨logical, a, ⟨field, hfield⟩, .inr hargs⟩
  · rintro ⟨logical, a, ⟨field, hfield⟩, hargs | hargs⟩
    · exact ⟨_, logical, field, a, hfield, .inl ⟨hargs, rfl⟩⟩
    · exact ⟨_, logical, field, a, hfield, .inr ⟨hargs, rfl⟩⟩

lemma exists_membership_iff {r scalar : Relation} :
    (∃ c, membership entity op r scalar args = .ok c) ↔
      Op.Form.comparison.Takes entity args := by
  simp only [membership_eq_ok_iff]
  constructor
  · rintro ⟨c, logical, field, a, hfield, hargs, -⟩
    exact ⟨logical, a, ⟨field, hfield⟩, hargs⟩
  · rintro ⟨logical, a, ⟨field, hfield⟩, hargs⟩
    exact ⟨_, logical, field, a, hfield, hargs, rfl⟩

lemma exists_stringMatch_iff {r : Relation} :
    (∃ c, stringMatch entity op r args = .ok c) ↔ Op.Form.stringMatch.Takes entity args := by
  simp only [stringMatch_eq_ok_iff]
  constructor
  · rintro ⟨c, logical, field, a, hfield, hargs, -⟩
    exact ⟨logical, a, ⟨field, hfield⟩, hargs⟩
  · rintro ⟨logical, a, ⟨field, hfield⟩, hargs⟩
    exact ⟨_, logical, field, a, hfield, hargs, rfl⟩

lemma exists_foldedMatch_iff {r : Relation} :
    (∃ c, foldedMatch entity op r args = .ok c) ↔ Op.Form.foldedMatch.Takes entity args := by
  simp only [foldedMatch_eq_ok_iff, Op.Form.Takes, ← Argument.exists_toPattern_iff]
  constructor
  · rintro ⟨c, logical, field, a, v, hfield, hargs, hv, -⟩
    exact ⟨logical, a, ⟨field, hfield⟩, ⟨v, hv⟩, hargs⟩
  · rintro ⟨logical, a, ⟨field, hfield⟩, ⟨v, hv⟩, hargs⟩
    exact ⟨_, logical, field, a, v, hfield, hargs, hv, rfl⟩

lemma exists_between_iff :
    (∃ c, between entity args = .ok c) ↔ Op.Form.between.Takes entity args := by
  simp only [between_eq_ok_iff]
  constructor
  · rintro ⟨c, logical, field, low, high, hfield, hargs, -⟩
    exact ⟨logical, low, high, ⟨field, hfield⟩, hargs⟩
  · rintro ⟨logical, low, high, ⟨field, hfield⟩, hargs⟩
    exact ⟨_, logical, field, low, high, hfield, hargs, rfl⟩

lemma exists_check_iff {f : Criterion → Criteria} :
    (∃ c, (do return f (← onlyField entity op args)) = Except.ok c) ↔
      Op.Form.check.Takes entity args := by
  simp only [onlyField_bind_eq_ok_iff]
  constructor
  · rintro ⟨c, logical, field, hfield, hargs, -⟩
    exact ⟨logical, ⟨field, hfield⟩, hargs⟩
  · rintro ⟨logical, ⟨field, hfield⟩, hargs⟩
    exact ⟨_, logical, field, hfield, hargs, rfl⟩

/-- An operation that is no connective has criteria if and only if it takes its operands. -/
lemma exists_leaf_iff : (∃ c, leaf entity op args = .ok c) ↔ op.form.Takes entity args := by
  cases op
  case eq | ne | lt | lte | gt | gte => exact exists_comparison_iff
  case isIn | isNotIn => exact exists_membership_iff
  case like | startsWith | endsWith | contains | regex => exact exists_stringMatch_iff
  case likeIgnoreCase | startsWithIgnoreCase | endsWithIgnoreCase | containsIgnoreCase
      | eqIgnoreCase => exact exists_foldedMatch_iff
  case between => exact exists_between_iff
  case isNull | isNotNull | isEmptyCollection | isEmptyString => exact exists_check_iff
  case and | or | not | regexIgnoreCase | stringLength | collectionSize | containsKey =>
    simp [leaf, Op.form, Op.Form.Takes]

/-! ### Soundness -/

/-- What is translated is in the grammar. -/
lemma keptByTranslation_isAccepted :
    KeptByTranslation entity fun p _ => IsAccepted entity p where
  leaf _ _ h := .leaf (exists_leaf_iff.mp ⟨_, h⟩)
  notIn h := by
    -- membership and its negation take the same operands
    have htakes : Op.isNotIn.form.Takes entity _ := exists_leaf_iff.mp ⟨_, h⟩
    exact .negation rfl (.leaf htakes)
  not h := .negation rfl h
  junction hj h := by
    apply IsAccepted.junction (Op.form_eq_junction_iff.mpr ⟨_, hj⟩)
    · simp [h.length_eq]
    · exact forall_mem_of_forall₂ h.flip fun _ _ hp => hp

/-! ### Completeness -/

lemma exists_toCriteriaList {ps : List Predicate}
    (h : ∀ p ∈ ps, ∃ c, p.toCriteria entity = .ok c) : ∃ cs, toCriteriaList entity ps = .ok cs := by
  induction ps with
  | nil => exact ⟨[], rfl⟩
  | cons p ps ih =>
    obtain ⟨⟨c, hc⟩, hps⟩ := List.forall_mem_cons.mp h
    obtain ⟨cs, hcs⟩ := ih hps
    rw [toCriteriaList, hc, hcs]
    exact ⟨c :: cs, rfl⟩

lemma exists_toCriteria_junction {j : Junction} (hj : op.junction? = some j)
    (hlength : 2 ≤ args.length) (h : ∀ p ∈ args, ∃ c, p.toCriteria entity = .ok c) :
    ∃ c, toCriteria entity (.operation op args) = .ok c := by
  match args, hlength with
  | first :: second :: rest, _ =>
    obtain ⟨⟨c₁, h₁⟩, h⟩ := List.forall_mem_cons.mp h
    obtain ⟨⟨c₂, h₂⟩, h⟩ := List.forall_mem_cons.mp h
    obtain ⟨cs, hcs⟩ := exists_toCriteriaList h
    rw [toCriteria_junction entity hj, h₁, h₂, hcs]
    exact ⟨_, rfl⟩

/-- A negated membership is translated as the opposite operation, which takes the same operands. -/
lemma exists_toCriteria_not {child : Predicate} (h : ∃ c, child.toCriteria entity = .ok c) :
    ∃ c, toCriteria entity (.operation .not [child]) = .ok c := by
  by_cases hin : ∃ inner, child = .operation .isIn inner
  · obtain ⟨inner, rfl⟩ := hin
    rw [toCriteria_leaf entity rfl (by simp)] at h
    rw [toCriteria_not_isIn]
    have htakes : Op.isIn.form.Takes entity inner := exists_leaf_iff.mp h
    exact exists_leaf_iff.mpr htakes
  · obtain ⟨c, hc⟩ := h
    rw [toCriteria_not entity fun inner heq => hin ⟨inner, heq⟩, hc]
    exact ⟨_, rfl⟩

lemma IsAccepted.exists_toCriteria {p : Predicate} (h : IsAccepted entity p) :
    ∃ c, p.toCriteria entity = .ok c := by
  induction h with
  | @leaf op args h =>
    have hj : op.junction? = none ∧ op ≠ .not := by
      constructor
      · rw [Option.eq_none_iff_forall_ne_some]
        intro j hj
        simp [Op.form_eq_junction_iff.mpr ⟨j, hj⟩, Op.Form.Takes] at h
      · rintro rfl
        exact h
    rw [toCriteria_leaf entity hj.1 hj.2]
    exact exists_leaf_iff.mpr h
  | negation hop _ ih =>
    obtain rfl := Op.form_eq_negation_iff.mp hop
    exact exists_toCriteria_not ih
  | junction hop hlength _ ih =>
    obtain ⟨j, hj⟩ := Op.form_eq_junction_iff.mp hop
    exact exists_toCriteria_junction hj hlength ih

/-- A predicate has criteria on an entity if and only if it is in the grammar: every operation in it
has the operands of its form, and every path in it leads to a property. -/
theorem hasCriteria_iff_isAccepted (entity : Entity) (p : Predicate) :
    (∃ c, p.toCriteria entity = .ok c) ↔ IsAccepted entity p := by
  constructor
  · rintro ⟨c, hc⟩
    exact toCriteria_induction keptByTranslation_isAccepted p hc
  · intro h
    exact h.exists_toCriteria

end Predicate

end DocQuery
