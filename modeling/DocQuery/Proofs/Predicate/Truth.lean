import DocQuery.Predicate.Criteria
import DocQuery.Proofs.Criteria.Meaning
import DocQuery.Proofs.Outcome
/-!
# The truth of predicates

A predicate has a truth value of its own, given that of comparisons. The criteria of an operation
that is no connective has the same (`says_leaf`).
-/

namespace DocQuery

/-- The members of an argument that is a set. -/
def Argument.members? : Argument → Option (List Value)
  | .collection items => some (toValues items)
  | .value (.array items) => some items
  | _ => none

namespace Comparison

/-- The field is related to the value as it is. -/
def plain (field : FieldPath) (r : Relation) (v : Value) : Comparison :=
  ⟨field, none, none, .relation r (.value v)⟩

/-- The upper-case form of the field is related to that of the constant. -/
def upper? (field : FieldPath) (r : Relation) (constant : Argument) : Option Comparison :=
  constant.toPattern.toOption.map fun v => ⟨field, some .upper, none, .relation r (.value v.upper)⟩

end Comparison

namespace Predicate

/-! ### The truth of a predicate -/

/-- The comparison that an operation of a field and a constant stands for, with the field in
front. -/
def Op.comparison? (field : FieldPath) (constant : Argument) : Op → Option Comparison
  | .eq => some (.plain field .eq constant.toValue)
  | .ne => some (.plain field .ne constant.toValue)
  | .lt => some (.plain field .lt constant.toValue)
  | .lte => some (.plain field .lte constant.toValue)
  | .gt => some (.plain field .gt constant.toValue)
  | .gte => some (.plain field .gte constant.toValue)
  | .like => some (.plain field .like constant.toValue)
  | .startsWith => some (.plain field .startsWith constant.toValue)
  | .endsWith => some (.plain field .endsWith constant.toValue)
  | .contains => some (.plain field .contains constant.toValue)
  | .regex => some (.plain field .regex constant.toValue)
  | .likeIgnoreCase => Comparison.upper? field .like constant
  | .startsWithIgnoreCase => Comparison.upper? field .startsWith constant
  | .endsWithIgnoreCase => Comparison.upper? field .endsWith constant
  | .containsIgnoreCase => Comparison.upper? field .contains constant
  | .eqIgnoreCase => Comparison.upper? field .eq constant
  | .isIn => match constant.members? with
    | some items => some (.plain field .isIn (.array items))
    | none => some (.plain field .eq constant.toValue)
  | .isNotIn => match constant.members? with
    | some items => some (.plain field .isNotIn (.array items))
    | none => some (.plain field .ne constant.toValue)
  | _ => none

/-- The operation that says with the field in front what this one says with the constant in front.
-/
def Op.mirrored? : Op → Option Op
  | .eq => some .eq
  | .ne => some .ne
  | .lt => some .gt
  | .lte => some .gte
  | .gt => some .lt
  | .gte => some .lte
  | .isIn => some .isIn
  | .isNotIn => some .isNotIn
  | _ => none

/-- The truth of an operation of a field alone. -/
def Op.check? (truth : Comparison → Bool) (field : FieldPath) : Op → Option Bool
  | .isNull => some (truth ⟨field, none, none, .check .isNull⟩)
  | .isNotNull => some (truth ⟨field, none, none, .check .isNotNull⟩)
  | .isEmptyCollection => some (truth ⟨field, none, none, .check .isNotValued⟩)
  | .isEmptyString =>
    some (truth ⟨field, none, none, .check .isNotValued⟩ || truth (.plain field .eq (.string "")))
  | _ => none

/-- The truth of an operation that is no connective. -/
def leafValue? (entity : Entity) (truth : Comparison → Bool) (op : Op) :
    List Predicate → Option Bool
  | [.path logical] => do op.check? truth (← (entity.resolve logical).toOption)
  | [.path logical, .constant v] => do
    return truth (← op.comparison? (← (entity.resolve logical).toOption) v)
  | [.constant v, .path logical] => do
    return truth (← (← op.mirrored?).comparison? (← (entity.resolve logical).toOption) v)
  | [.path logical, .constant low, .constant high] =>
    if op = .between then do
      let field ← (entity.resolve logical).toOption
      return truth ⟨field, none, none, .between (.value low.toValue) (.value high.toValue)⟩
    else none
  | _ => none

mutual

/-- The truth of a predicate, if it makes sense. -/
def value? (entity : Entity) (truth : Comparison → Bool) : Predicate → Option Bool
  | .path _ => none
  | .constant _ => none
  | .operation op args =>
    match op.junction? with
    | some j => if 2 ≤ args.length then (values? entity truth args).map j.holdsAll else none
    | none =>
      if op = .not then
        match args with
        | [child] => (value? entity truth child).map (!·)
        | _ => none
      else leafValue? entity truth op args

/-- The truth of several predicates. -/
def values? (entity : Entity) (truth : Comparison → Bool) : List Predicate → Option (List Bool)
  | [] => some []
  | p :: ps => do return (← value? entity truth p) :: (← values? entity truth ps)

end

end Predicate

/-! ### Leaves -/

variable {entity : Entity} {truth : Comparison → Bool}

namespace Criterion

variable {field : FieldPath}

lemma says_relate (h : field.IsQuoted) (r : Relation) (v : Value) :
    ((on field).relate r v).Says truth (truth (.plain field r v)) := by
  have hrelate : (on field).relate r v = .comparison (.plain field r v) false false := by
    cases r <;> rfl
  rw [hrelate]
  exact Criteria.says_comparison h (by simp [Comparison.plain, Test.operands, Operand.isDeferred])

lemma says_upper_relate (h : field.IsQuoted) (r : Relation) (v : Value) :
    ((on field).upper.relate r v).Says truth
      (truth ⟨field, some .upper, none, .relation r (.value v)⟩) := by
  have hrelate : (on field).upper.relate r v =
      .comparison ⟨field, some .upper, none, .relation r (.value v)⟩ false false := by
    cases r <;> rfl
  rw [hrelate]
  exact Criteria.says_comparison h (by simp [Test.operands, Operand.isDeferred])

lemma says_check (h : field.IsQuoted) (k : Check) :
    ((on field).check k).Says truth (truth ⟨field, none, none, .check k⟩) :=
  Criteria.says_comparison h (by simp [Test.operands])

lemma says_between (h : field.IsQuoted) (low high : Value) :
    ((on field).between low high).Says truth
      (truth ⟨field, none, none, .between (.value low) (.value high)⟩) :=
  Criteria.says_comparison h (by simp [Test.operands, Operand.isDeferred])

end Criterion

namespace Predicate

/-- The two sides are a path and a constant, in one order or the other. -/
lemma sides_eq_ok {op : Op} {args : List Predicate} {s : Sides}
    (h : sides entity op args = .ok s) :
    ∃ logical, entity.resolve logical = .ok s.field ∧
      ((args = [.path logical, .constant s.constant] ∧ s.swapped = false) ∨
        (args = [.constant s.constant, .path logical] ∧ s.swapped = true)) := by
  unfold sides at h
  split at h
  · obtain ⟨field, hfield, h⟩ := exists_of_bind_eq_ok h
    obtain rfl := Except.ok.inj h
    exact ⟨_, hfield, .inl ⟨rfl, rfl⟩⟩
  · obtain ⟨field, hfield, h⟩ := exists_of_bind_eq_ok h
    obtain rfl := Except.ok.inj h
    exact ⟨_, hfield, .inr ⟨rfl, rfl⟩⟩
  · exact absurd h (by simp)

variable {op : Op} {args : List Predicate} {c : Criteria}

lemma says_comparison {op' : Op} {r converse : Relation}
    (hop : ∀ field k, op.comparison? field k = some (.plain field r k.toValue))
    (hmirror : op.mirrored? = some op')
    (hop' : ∀ field k, op'.comparison? field k = some (.plain field converse k.toValue))
    (h : comparison entity op r converse args = .ok c) :
    ∃ b, leafValue? entity truth op args = some b ∧ c.Says truth b := by
  obtain ⟨s, hs, h⟩ := exists_of_bind_eq_ok h
  obtain rfl := Except.ok.inj h
  obtain ⟨logical, hfield, ⟨rfl, hswapped⟩ | ⟨rfl, hswapped⟩⟩ := sides_eq_ok hs
  · refine ⟨_, ?_, Criterion.says_relate (Entity.isQuoted_of_resolve hfield) _ _⟩
    simp [leafValue?, hfield, Except.toOption, hop, hswapped]
  · refine ⟨_, ?_, Criterion.says_relate (Entity.isQuoted_of_resolve hfield) _ _⟩
    simp [leafValue?, hfield, Except.toOption, hmirror, hop', hswapped]

lemma says_stringMatch {r : Relation}
    (hop : ∀ field k, op.comparison? field k = some (.plain field r k.toValue))
    (h : stringMatch entity op r args = .ok c) :
    ∃ b, leafValue? entity truth op args = some b ∧ c.Says truth b := by
  obtain ⟨s, hs, h⟩ := exists_of_bind_eq_ok h
  obtain ⟨logical, hfield, ⟨rfl, hswapped⟩ | ⟨rfl, hswapped⟩⟩ := sides_eq_ok hs
  · simp only [hswapped] at h
    obtain rfl := Except.ok.inj h
    refine ⟨_, ?_, Criterion.says_relate (Entity.isQuoted_of_resolve hfield) _ _⟩
    simp [leafValue?, hfield, Except.toOption, hop]
  · rw [hswapped] at h
    exact absurd h throw_bind_ne_ok

lemma says_foldedMatch {r : Relation}
    (hop : ∀ field k, op.comparison? field k = Comparison.upper? field r k)
    (h : foldedMatch entity op r args = .ok c) :
    ∃ b, leafValue? entity truth op args = some b ∧ c.Says truth b := by
  obtain ⟨s, hs, h⟩ := exists_of_bind_eq_ok h
  obtain ⟨logical, hfield, ⟨rfl, hswapped⟩ | ⟨rfl, hswapped⟩⟩ := sides_eq_ok hs
  · simp only [hswapped] at h
    obtain ⟨v, hv, h⟩ := exists_of_bind_eq_ok h
    obtain rfl := Except.ok.inj h
    refine ⟨_, ?_, Criterion.says_upper_relate (Entity.isQuoted_of_resolve hfield) _ _⟩
    simp [leafValue?, hfield, Except.toOption, hop, Comparison.upper?, hv]
  · rw [hswapped] at h
    exact absurd h throw_bind_ne_ok

/-- Membership of a set, or of a constant that is compared by itself. -/
lemma says_membership {r scalar : Relation} (hmirror : op.mirrored? = some op)
    (hop : ∀ field k, op.comparison? field k = match k.members? with
      | some items => some (.plain field r (.array items))
      | none => some (.plain field scalar k.toValue))
    (h : membership entity op r scalar args = .ok c) :
    ∃ b, leafValue? entity truth op args = some b ∧ c.Says truth b := by
  obtain ⟨s, hs, h⟩ := exists_of_bind_eq_ok h
  obtain ⟨logical, hfield, hargs⟩ := sides_eq_ok hs
  have hquoted := Entity.isQuoted_of_resolve hfield
  obtain ⟨k, hk, hsays⟩ : ∃ k, op.comparison? s.field s.constant = some k ∧
      c.Says truth (truth k) := by
    rw [hop]
    cases hconstant : s.constant with
    | enum name =>
      simp only [hconstant] at h
      obtain rfl := Except.ok.inj h
      exact ⟨_, rfl, Criterion.says_relate hquoted _ _⟩
    | collection items =>
      simp only [hconstant] at h
      obtain rfl := Except.ok.inj h
      exact ⟨_, rfl, Criterion.says_relate hquoted _ _⟩
    | value v =>
      rw [hconstant] at h
      cases v <;> (obtain rfl := Except.ok.inj h; exact ⟨_, rfl, Criterion.says_relate hquoted _ _⟩)
  refine ⟨truth k, ?_, hsays⟩
  rcases hargs with ⟨rfl, -⟩ | ⟨rfl, -⟩
  · simp [leafValue?, hfield, Except.toOption, hk]
  · simp [leafValue?, hfield, Except.toOption, hmirror, hk]

lemma says_between (h : between entity args = .ok c) :
    ∃ b, leafValue? entity truth .between args = some b ∧ c.Says truth b := by
  unfold between at h
  split at h
  · obtain ⟨field, hfield, h⟩ := exists_of_bind_eq_ok h
    obtain rfl := Except.ok.inj h
    refine ⟨_, ?_, Criterion.says_between (Entity.isQuoted_of_resolve hfield) _ _⟩
    simp [leafValue?, hfield, Except.toOption]
  · exact absurd h (by simp)

lemma onlyField_eq_ok {criterion : Criterion} (h : onlyField entity op args = .ok criterion) :
    ∃ logical field, args = [.path logical] ∧ entity.resolve logical = .ok field ∧
      criterion = .on field := by
  unfold onlyField at h
  split at h
  · obtain ⟨field, hfield, h⟩ := exists_of_bind_eq_ok h
    obtain rfl := Except.ok.inj h
    exact ⟨_, field, rfl, hfield, rfl⟩
  · exact absurd h (by simp)

lemma says_check {k : Check}
    (hop : ∀ field, op.check? truth field = some (truth ⟨field, none, none, .check k⟩))
    (h : (do return (← onlyField entity op args).check k) = Except.ok c) :
    ∃ b, leafValue? entity truth op args = some b ∧ c.Says truth b := by
  obtain ⟨criterion, hcriterion, h⟩ := exists_of_bind_eq_ok h
  obtain rfl := Except.ok.inj h
  obtain ⟨logical, field, rfl, hfield, rfl⟩ := onlyField_eq_ok hcriterion
  refine ⟨_, ?_, Criterion.says_check (Entity.isQuoted_of_resolve hfield) k⟩
  simp [leafValue?, hfield, Except.toOption, hop]

/-- The criteria of a leaf says what the leaf says. -/
lemma says_leaf (h : leaf entity op args = .ok c) :
    ∃ b, leafValue? entity truth op args = some b ∧ c.Says truth b := by
  cases op with
  | eq => exact says_comparison (fun _ _ => rfl) rfl (fun _ _ => rfl) h
  | ne => exact says_comparison (fun _ _ => rfl) rfl (fun _ _ => rfl) h
  | lt => exact says_comparison (fun _ _ => rfl) rfl (fun _ _ => rfl) h
  | lte => exact says_comparison (fun _ _ => rfl) rfl (fun _ _ => rfl) h
  | gt => exact says_comparison (fun _ _ => rfl) rfl (fun _ _ => rfl) h
  | gte => exact says_comparison (fun _ _ => rfl) rfl (fun _ _ => rfl) h
  | like => exact says_stringMatch (fun _ _ => rfl) h
  | startsWith => exact says_stringMatch (fun _ _ => rfl) h
  | endsWith => exact says_stringMatch (fun _ _ => rfl) h
  | contains => exact says_stringMatch (fun _ _ => rfl) h
  | regex => exact says_stringMatch (fun _ _ => rfl) h
  | likeIgnoreCase => exact says_foldedMatch (fun _ _ => rfl) h
  | startsWithIgnoreCase => exact says_foldedMatch (fun _ _ => rfl) h
  | endsWithIgnoreCase => exact says_foldedMatch (fun _ _ => rfl) h
  | containsIgnoreCase => exact says_foldedMatch (fun _ _ => rfl) h
  | eqIgnoreCase => exact says_foldedMatch (fun _ _ => rfl) h
  | between => exact says_between h
  | isIn => exact says_membership rfl (fun _ _ => rfl) h
  | isNotIn => exact says_membership rfl (fun _ _ => rfl) h
  | isNull => exact says_check (fun _ => rfl) h
  | isNotNull => exact says_check (fun _ => rfl) h
  | isEmptyCollection => exact says_check (fun _ => rfl) h
  | isEmptyString =>
    obtain ⟨criterion, hcriterion, h⟩ := exists_of_bind_eq_ok h
    obtain rfl := Except.ok.inj h
    obtain ⟨logical, field, rfl, hfield, rfl⟩ := onlyField_eq_ok hcriterion
    have hquoted := Entity.isQuoted_of_resolve hfield
    refine ⟨_, ?_, ((Criterion.says_check hquoted _).or (Criterion.says_relate hquoted _ _)).group⟩
    simp [leafValue?, hfield, Except.toOption, Op.check?]
  | _ => exact absurd h (by simp [leaf])

end Predicate

end DocQuery
