import DocQuery.Proofs.Argument
import DocQuery.Proofs.Criteria.Values
import DocQuery.Proofs.Predicate.Forms
import DocQuery.Proofs.Predicate.Meaning
/-!
# Predicates with other constants

Of a constant the criteria of a predicate has its value and, where a set can stand, the relation
that goes with it. So predicates whose constants are sets in the same places have criteria that
differ in nothing but their values (`mapValues_of_blank_eq`).
-/

namespace DocQuery

/-- The argument with nothing left of it but whether it is a set. -/
def Argument.blank (a : Argument) : Argument := if a.isSet then .collection [] else .value .null

namespace Predicate

mutual

/-- The predicate with nothing left of its constants but whether they are sets. -/
def blank : Predicate → Predicate
  | .path logical => .path logical
  | .constant a => .constant a.blank
  | .operation op args => .operation op (blanks args)

/-- Several predicates with nothing left of their constants but whether they are sets. -/
def blanks : List Predicate → List Predicate
  | [] => []
  | p :: ps => p.blank :: blanks ps

end

variable {entity : Entity} {op : Op} {args : List Predicate} {c : Criteria}

/-! ### Leaves -/

lemma sides_blanks {s : Sides} (h : sides entity op args = .ok s) :
    sides entity op (blanks args) = .ok { s with constant := s.constant.blank } := by
  obtain ⟨logical, hfield, ⟨rfl, hswapped⟩ | ⟨rfl, hswapped⟩⟩ := sides_eq_ok h
  · rw [blanks, blank, blanks, blank, blanks, sides, hfield, hswapped]
    rfl
  · rw [blanks, blank, blanks, blank, blanks, sides, hfield, hswapped]
    rfl

lemma onlyField_blanks {criterion : Criterion} (h : onlyField entity op args = .ok criterion) :
    onlyField entity op (blanks args) = .ok criterion := by
  obtain ⟨logical, field, rfl, -, -⟩ := onlyField_eq_ok h
  exact h

/-- The criteria are the same but for their values. -/
def Alike (x : Except Fault Criteria) (c : Criteria) : Prop :=
  ∃ d, x = .ok d ∧ d.mapValues Value.blank = c.mapValues Value.blank

lemma alike_comparison {r converse : Relation} (h : comparison entity op r converse args = .ok c) :
    Alike (comparison entity op r converse (blanks args)) c := by
  obtain ⟨s, hs, h⟩ := exists_of_bind_eq_ok h
  obtain rfl := Except.ok.inj h
  rw [comparison, sides_blanks hs]
  exact ⟨_, rfl, rfl⟩

lemma alike_stringMatch {r : Relation} (h : stringMatch entity op r args = .ok c) :
    Alike (stringMatch entity op r (blanks args)) c := by
  obtain ⟨s, hs, h⟩ := exists_of_bind_eq_ok h
  rw [stringMatch, sides_blanks hs]
  cases hswapped : s.swapped with
  | true =>
    rw [hswapped] at h
    exact absurd h throw_bind_ne_ok
  | false =>
    rw [hswapped] at h
    obtain rfl := Except.ok.inj h
    exact ⟨_, rfl, rfl⟩

/-- A pattern is no set, so that its blank is a pattern too. -/
lemma alike_foldedMatch {r : Relation} (h : foldedMatch entity op r args = .ok c) :
    Alike (foldedMatch entity op r (blanks args)) c := by
  obtain ⟨s, hs, h⟩ := exists_of_bind_eq_ok h
  rw [foldedMatch, sides_blanks hs]
  cases hswapped : s.swapped with
  | true =>
    rw [hswapped] at h
    exact absurd h throw_bind_ne_ok
  | false =>
    rw [hswapped] at h
    obtain ⟨v, hv, h⟩ := exists_of_bind_eq_ok h
    obtain rfl := Except.ok.inj h
    have hblank : s.constant.blank = .value .null := by
      rw [Argument.blank, Argument.exists_toPattern_iff.mp ⟨v, hv⟩]
      rfl
    rw [hblank]
    exact ⟨_, rfl, rfl⟩

lemma alike_membership {r scalar : Relation} (h : membership entity op r scalar args = .ok c) :
    Alike (membership entity op r scalar (blanks args)) c := by
  obtain ⟨s, hs, h⟩ := exists_of_bind_eq_ok h
  rw [membership, sides_blanks hs]
  cases hconstant : s.constant with
  | enum name =>
    simp only [hconstant] at h
    obtain rfl := Except.ok.inj h
    exact ⟨_, rfl, rfl⟩
  | collection items =>
    simp only [hconstant] at h
    obtain rfl := Except.ok.inj h
    exact ⟨_, rfl, rfl⟩
  | value v =>
    rw [hconstant] at h
    cases v <;> (obtain rfl := Except.ok.inj h; exact ⟨_, rfl, rfl⟩)

lemma alike_between (h : between entity args = .ok c) : Alike (between entity (blanks args)) c := by
  unfold between at h
  split at h
  · obtain ⟨field, hfield, h⟩ := exists_of_bind_eq_ok h
    obtain rfl := Except.ok.inj h
    rw [blanks, blank, blanks, blank, blanks, blank, blanks, between, hfield]
    exact ⟨_, rfl, rfl⟩
  · exact absurd h (by simp)

lemma alike_check {k : Check} (h : (do return (← onlyField entity op args).check k) = Except.ok c) :
    Alike (do return (← onlyField entity op (blanks args)).check k) c := by
  obtain ⟨criterion, hcriterion, h⟩ := exists_of_bind_eq_ok h
  rw [onlyField_blanks hcriterion]
  exact ⟨c, h, rfl⟩

lemma alike_leaf (h : leaf entity op args = .ok c) : Alike (leaf entity op (blanks args)) c := by
  cases op with
  | eq => exact alike_comparison h
  | ne => exact alike_comparison h
  | lt => exact alike_comparison h
  | lte => exact alike_comparison h
  | gt => exact alike_comparison h
  | gte => exact alike_comparison h
  | like => exact alike_stringMatch h
  | startsWith => exact alike_stringMatch h
  | endsWith => exact alike_stringMatch h
  | contains => exact alike_stringMatch h
  | regex => exact alike_stringMatch h
  | likeIgnoreCase => exact alike_foldedMatch h
  | startsWithIgnoreCase => exact alike_foldedMatch h
  | endsWithIgnoreCase => exact alike_foldedMatch h
  | containsIgnoreCase => exact alike_foldedMatch h
  | eqIgnoreCase => exact alike_foldedMatch h
  | between => exact alike_between h
  | isIn => exact alike_membership h
  | isNotIn => exact alike_membership h
  | isNull => exact alike_check h
  | isNotNull => exact alike_check h
  | isEmptyCollection => exact alike_check h
  | isEmptyString =>
    obtain ⟨criterion, hcriterion, h⟩ := exists_of_bind_eq_ok h
    rw [leaf, onlyField_blanks hcriterion]
    exact ⟨c, h, rfl⟩
  | _ => exact absurd h (by simp [leaf])

/-! ### Connectives -/

lemma mapValues_chainOperand (f : Value → Value) (j : Junction) (c : Criteria) :
    (chainOperand j c).mapValues f = chainOperand j (c.mapValues f) := by
  rw [chainOperand, chainOperand, Criteria.operator_mapValues]
  split
  · exact c.mapValues_group f
  · rfl

lemma mapValues_chain (f : Value → Value) (j : Junction) (first : Criteria) (rest : List Criteria) :
    (chain j first rest).mapValues f =
      chain j (first.mapValues f) (rest.map (Criteria.mapValues f)) := by
  have hfold : ∀ (cs : List Criteria) (c : Criteria),
      (cs.foldl (fun left right => .junction j left right false false) c).mapValues f =
        (cs.map (Criteria.mapValues f)).foldl
          (fun left right => .junction j left right false false) (c.mapValues f) := by
    intro cs
    induction cs with
    | nil => exact fun _ => rfl
    | cons d cs ih => exact fun c => ih _
  have hoperands : (rest.map (chainOperand j)).map (Criteria.mapValues f) =
      (rest.map (Criteria.mapValues f)).map (chainOperand j) := by
    rw [List.map_map, List.map_map]
    exact List.map_congr_left fun c _ => mapValues_chainOperand f j c
  rw [chain_eq_foldl, chain_eq_foldl, hfold, mapValues_chainOperand, hoperands]

lemma blank_ne_isIn {p : Predicate} (h : ∀ inner, p ≠ .operation .isIn inner) (inner) :
    p.blank ≠ .operation .isIn inner := by
  cases p with
  | path logical => simp [blank]
  | constant a => simp [blank]
  | operation op args =>
    intro heq
    obtain ⟨rfl, -⟩ := operation.inj heq
    exact h args rfl

mutual

/-- A predicate with blank constants has the criteria of the predicate with blank values. -/
lemma alike_toCriteria :
    ∀ (p : Predicate) {c : Criteria}, p.toCriteria entity = .ok c →
      Alike (p.blank.toCriteria entity) c
  | .path logical, c, h => by simp [toCriteria] at h
  | .constant k, c, h => by simp [toCriteria] at h
  | .operation op args, c, h => by
    by_cases hnot : op = .not
    · subst hnot
      match args, h with
      | [child], h =>
        by_cases hin : ∃ inner, child = .operation .isIn inner
        · obtain ⟨inner, rfl⟩ := hin
          rw [toCriteria_not_isIn] at h
          rw [blank, blanks, blank, blanks, toCriteria_not_isIn]
          exact alike_leaf h
        · have hchild : ∀ inner, child ≠ .operation .isIn inner := fun inner heq => hin ⟨inner, heq⟩
          rw [toCriteria_not entity hchild] at h
          obtain ⟨c', hc', h⟩ := exists_of_bind_eq_ok h
          obtain rfl := Except.ok.inj h
          obtain ⟨d, hd, hmap⟩ := alike_toCriteria child hc'
          rw [blank, blanks, blanks, toCriteria_not entity (blank_ne_isIn hchild), hd]
          exact ⟨_, rfl, by rw [Criteria.mapValues_negate, Criteria.mapValues_negate, hmap]⟩
      | [], h => exact absurd h (by simp [toCriteria, Op.junction?])
      | _ :: _ :: _, h => exact absurd h (by simp [toCriteria, Op.junction?])
    · cases hj : op.junction? with
      | none =>
        rw [toCriteria_leaf entity hj hnot] at h
        rw [blank, toCriteria_leaf entity hj hnot]
        exact alike_leaf h
      | some j =>
        match args, h with
        | [], h => exact absurd h (by simp [toCriteria_junction_of_length_lt entity hj])
        | [_], h => exact absurd h (by simp [toCriteria_junction_of_length_lt entity hj])
        | first :: second :: rest, h =>
          rw [toCriteria_junction entity hj] at h
          obtain ⟨c₁, h₁, h⟩ := exists_of_bind_eq_ok h
          obtain ⟨c₂, h₂, h⟩ := exists_of_bind_eq_ok h
          obtain ⟨cs, hcs, h⟩ := exists_of_bind_eq_ok h
          obtain rfl := Except.ok.inj h
          obtain ⟨d₁, hd₁, hmap₁⟩ := alike_toCriteria first h₁
          obtain ⟨d₂, hd₂, hmap₂⟩ := alike_toCriteria second h₂
          obtain ⟨ds, hds, hmap⟩ := alike_toCriteriaList rest hcs
          rw [blank, blanks, blanks, toCriteria_junction entity hj, hd₁, hd₂, hds]
          refine ⟨_, rfl, ?_⟩
          rw [mapValues_chain, mapValues_chain, List.map_cons, List.map_cons, hmap₁, hmap₂, hmap]

lemma alike_toCriteriaList :
    ∀ (ps : List Predicate) {cs : List Criteria}, toCriteriaList entity ps = .ok cs →
      ∃ ds, toCriteriaList entity (blanks ps) = .ok ds ∧
        ds.map (Criteria.mapValues Value.blank) = cs.map (Criteria.mapValues Value.blank)
  | [], cs, h => ⟨cs, h, rfl⟩
  | p :: ps, cs, h => by
    obtain ⟨c, hc, h⟩ := exists_of_bind_eq_ok h
    obtain ⟨cs', hcs, h⟩ := exists_of_bind_eq_ok h
    obtain rfl := Except.ok.inj h
    obtain ⟨d, hd, hmap⟩ := alike_toCriteria p hc
    obtain ⟨ds, hds, hmaps⟩ := alike_toCriteriaList ps hcs
    rw [blanks, toCriteriaList, hd, hds]
    exact ⟨d :: ds, rfl, by rw [List.map_cons, List.map_cons, hmap, hmaps]⟩

end

/-- Predicates whose constants are sets in the same places have the same criteria but for its
values. -/
theorem mapValues_of_blank_eq {p q : Predicate} {c d : Criteria} (hpq : p.blank = q.blank)
    (hc : p.toCriteria entity = .ok c) (hd : q.toCriteria entity = .ok d) :
    c.mapValues Value.blank = d.mapValues Value.blank := by
  obtain ⟨c', hc', hmapc⟩ := alike_toCriteria p hc
  obtain ⟨d', hd', hmapd⟩ := alike_toCriteria q hd
  rw [← hpq, hc'] at hd'
  obtain rfl := Except.ok.inj hd'
  exact hmapc.symm.trans hmapd

end Predicate

end DocQuery
