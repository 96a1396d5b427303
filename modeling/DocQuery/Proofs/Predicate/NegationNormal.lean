import DocQuery.Proofs.Criteria.Negation
import DocQuery.Proofs.Criteria.Shape
import DocQuery.Proofs.Predicate.Inversion
import Mathlib.Algebra.Group.Nat.Even
/-!
# Negation in the criteria of predicates

The criteria of a predicate has no negating nodes. Negation is marked on chains and on tests
without an opposite; any other test is turned into its opposite, however often it is negated
(`negation_is_pushed`). Where the connective changes, a chain under a chain is grouped.
-/

namespace DocQuery

/-- The tests that have no opposite. -/
lemma Operator.opposite?_eq_none_iff {operator : Operator} : operator.opposite? = none ↔
    operator.takesCriteria = true ∨ operator ∈
      [.between, .relation .startsWith, .relation .endsWith, .relation .regex] := by
  cases operator with
  | check k => simp [opposite?, takesCriteria]
  | relation r => cases r <;> simp [opposite?, takesCriteria, Relation.opposite?]
  | between => simp [opposite?]
  | junction j => simp [opposite?, takesCriteria]
  | not => simp [opposite?, takesCriteria]

/-- Whether the opposite is written with an operator of its own. The negation of `contains` is
written as a call of `not`. -/
def Operator.isOpposed (operator : Operator) : Bool :=
  operator.opposite?.isSome && operator != .relation .contains

lemma Test.exists_opposite {t : Test} (h : t.operator.isOpposed = true) :
    ∃ u, t.opposite? = some u := by
  rw [← Option.ne_none_iff_exists', ne_eq, t.opposite?_eq_none_iff]
  intro hnone
  simp [Operator.isOpposed, hnone] at h

lemma Comparison.negated?_of_isOpposed {k : Comparison} (h : k.test.operator.isOpposed = true) :
    k.negated? = none := by
  rw [negated?]
  split
  · next operand htest => simp [htest, Test.operator, Operator.isOpposed] at h
  · rfl

namespace Criteria

variable {c left right : Criteria} {j : Junction}

/-! ### Nodes -/

/-- What negation leaves at a node: no connective that negates, a mark of negation only where no
operator says the opposite, and two operands under a chain, of which a bare chain of the other
connective is grouped. -/
structure IsNegationNormal (node : Criteria) : Prop where
  operator_ne : node.operator ≠ .not
  marked : node.isNegated = true → node.operator.isChain = true ∨ node.operator ∈
    [.between, .relation .startsWith, .relation .endsWith, .relation .regex]
  operands : node.operator.isChain = true → node.operands = [] ∧ node.children.length = 2
  grouped : node.operator.isChain = true → ∀ child ∈ node.children,
    child.operator.isChain = true → child.operator ≠ node.operator → child.isNegated = false →
      child.isGrouped = true

lemma IsRegular.of_mem_nodes (h : c.IsRegular) : ∀ node ∈ c.nodes, node.IsRegular := by
  induction c with
  | comparison k negated grouped => simpa [nodes] using h
  | junction j left right negated grouped ihl ihr =>
    rw [nodes, List.forall_mem_cons, List.forall_mem_append]
    exact ⟨h, ihl h.1, ihr h.2⟩
  | not child grouped ih => exact h.elim

/-! ### Chains that are grouped -/

/-- As an operand of the junction the criteria is no bare chain of the other one. -/
def IsOperandOf (j : Junction) (c : Criteria) : Prop :=
  c.operator.isChain = true → c.operator ≠ .junction j → c.isNegated = false → c.isGrouped = true

/-- A bare chain under a chain of the other junction is grouped. -/
def GroupsChains : Criteria → Prop
  | .comparison _ _ _ => True
  | .junction j left right _ _ =>
    (left.GroupsChains ∧ right.GroupsChains) ∧ left.IsOperandOf j ∧ right.IsOperandOf j
  | .not child _ => child.GroupsChains

lemma isOperandOf_comparison (j : Junction) (k : Comparison) (negated grouped : Bool) :
    (comparison k negated grouped).IsOperandOf j := by
  intro hchain
  rw [isChain_comparison] at hchain
  exact absurd hchain Bool.false_ne_true

lemma GroupsChains.of_mem_nodes (h : c.GroupsChains) : ∀ node ∈ c.nodes, node.GroupsChains := by
  induction c with
  | comparison k negated grouped => simp [nodes, GroupsChains]
  | junction j left right negated grouped ihl ihr =>
    rw [nodes, List.forall_mem_cons, List.forall_mem_append]
    exact ⟨h, ihl h.1.1, ihr h.1.2⟩
  | not child grouped ih =>
    rw [nodes, List.forall_mem_cons]
    exact ⟨h, ih h⟩

lemma GroupsChains.group (h : c.GroupsChains) : c.group.GroupsChains := by
  cases c <;> exact h

lemma GroupsChains.negate (h : c.GroupsChains) : c.negate.GroupsChains := by
  cases c with
  | comparison k negated grouped =>
    obtain ⟨k', negated', hnegate⟩ := exists_negate_comparison k negated grouped
    rw [hnegate]
    trivial
  | junction j left right negated grouped => cases negated <;> exact h
  | not child grouped =>
    have hchild : child.GroupsChains := h
    rw [Criteria.negate, groupChain]
    split
    · exact hchild.group
    · exact hchild

/-- A regular criteria with grouped chains is in normal form at every node. -/
lemma isNegationNormal_of_mem_nodes (hregular : c.IsRegular) (hgroups : c.GroupsChains) :
    ∀ node ∈ c.nodes, node.IsNegationNormal := by
  intro node hnode
  have hnode₁ := hregular.of_mem_nodes node hnode
  have hnode₂ := hgroups.of_mem_nodes node hnode
  cases node with
  | comparison k negated grouped =>
    have hcriteria := k.test.takesCriteria_operator
    have hbare := isChain_comparison k negated grouped
    refine ⟨?_, ?_, ?_, ?_⟩
    · intro hnot
      rw [operator] at hnot
      simp [hnot, Operator.takesCriteria] at hcriteria
    · intro hnegated
      have hnone := (Test.opposite?_eq_none_iff k.test).mp (hnode₁ hnegated)
      have hcases := Operator.opposite?_eq_none_iff.mp hnone
      rw [hcriteria] at hcases
      exact .inr (hcases.resolve_left Bool.false_ne_true)
    · simp [hbare]
    · simp [hbare]
  | junction j left right negated grouped =>
    obtain ⟨-, hleft, hright⟩ := hnode₂
    refine ⟨by simp [operator], fun _ => .inl rfl, fun _ => ⟨rfl, rfl⟩, ?_⟩
    intro _ child hchild
    rcases List.mem_pair.mp hchild with rfl | rfl
    · exact hleft
    · exact hright
  | not child grouped => exact hnode₁.elim

/-! ### Texts -/

/-- A text that is read as a lone comparison is not the negation of a comparison, unless that is
read as a comparison itself. -/
lemma text_ne_text_not {k d : Comparison} {how : Rendering} (hc : how.Reads c (.atom d))
    (hk : (comparison k false false).IsReadable) (hnegated : k.negated? = none) :
    how.text c ≠ how.text (.not (.comparison k false false) false) := by
  intro heq
  obtain ⟨text, f, htext, hread, hf⟩ := hc
  obtain ⟨text', g, htext', hread', hg⟩ :=
    exists_text_formula (c := .not (.comparison k false false) false) hk.fields
      ((deferredCount_fragment _).trans hk.known) how
  have hformula : formula (.not (.comparison k false false) false) = .not (.atom k) := by
    simp [formula, chain, markChain, Formula.negate, hnegated, Chain.formula_single]
  obtain rfl : text = text' := Except.ok.inj (htext.symm.trans (heq.trans htext'))
  obtain rfl : f = g := Option.some.inj (hread.symm.trans hread')
  rw [hformula] at hg
  cases hf with
  | atom _ => cases hg

end Criteria

namespace Predicate

variable {entity : Entity} {op : Op} {args : List Predicate} {c : Criteria}

/-! ### Chains and leaves -/

lemma groupsChains_chainOperand (j : Junction) (h : c.GroupsChains) :
    (chainOperand j c).GroupsChains := by
  rw [chainOperand]
  split
  · exact h.group
  · exact h

lemma isOperandOf_chainOperand (j : Junction) (c : Criteria) :
    (chainOperand j c).IsOperandOf j := by
  rw [chainOperand]
  split
  · cases c <;> exact fun _ _ _ => rfl
  · next hbare => exact fun hchain hother _ => absurd ⟨hchain, hother⟩ hbare

/-- What is joined so far is a chain of the junction itself, and so no operand to be grouped. -/
lemma groupsChains_foldl (j : Junction) {cs : List Criteria}
    (hcs : ∀ d ∈ cs, d.GroupsChains ∧ d.IsOperandOf j) (hc : c.GroupsChains)
    (hoperand : c.IsOperandOf j) :
    (cs.foldl (fun left right => .junction j left right false false) c).GroupsChains := by
  induction cs generalizing c with
  | nil => exact hc
  | cons d cs ih =>
    obtain ⟨⟨hd, hdoperand⟩, hrest⟩ := List.forall_mem_cons.mp hcs
    exact ih hrest ⟨⟨hc, hd⟩, hoperand, hdoperand⟩ fun _ hother => absurd rfl hother

lemma groupsChains_chain (j : Junction) {first : Criteria} {rest : List Criteria}
    (hfirst : first.GroupsChains) (hrest : ∀ d ∈ rest, d.GroupsChains) :
    (chain j first rest).GroupsChains := by
  rw [chain_eq_foldl]
  apply groupsChains_foldl j _ (groupsChains_chainOperand j hfirst)
    (isOperandOf_chainOperand j first)
  rw [List.forall_mem_map]
  exact fun d hd => ⟨groupsChains_chainOperand j (hrest d hd), isOperandOf_chainOperand j d⟩

/-- The operations on a field whose negation is an operation of the same form: equality, order,
matches of `like`, membership, and null or empty fields. -/
def Op.hasOpposite : Op → Bool
  | .eq | .ne | .eqIgnoreCase | .lt | .lte | .gt | .gte | .like | .likeIgnoreCase | .isIn
  | .isNotIn | .isNull | .isNotNull | .isEmptyCollection => true
  | _ => false

/-- A leaf is one test, but an empty string is looked for by two. -/
lemma leaf_eq_ok (h : leaf entity op args = .ok c) :
    (∃ (k : Criterion) (t : Test), c = k.test t ∧
        (op.hasOpposite = true → t.operator.isOpposed = true)) ∨
      op = .isEmptyString ∧ ∃ k : Criterion,
        c = ((k.check .isNotValued).or (k.relate .eq (.string ""))).group := by
  cases op
  case eq | ne | lt | lte | gt | gte =>
    obtain ⟨logical, field, a, -, ⟨-, rfl⟩ | ⟨-, rfl⟩⟩ := comparison_eq_ok_iff.mp h
    · exact .inl ⟨_, _, rfl, fun _ => rfl⟩
    · exact .inl ⟨_, _, rfl, fun _ => rfl⟩
  case isIn | isNotIn =>
    obtain ⟨logical, field, a, -, -, rfl⟩ := membership_eq_ok_iff.mp h
    refine .inl ⟨_, _, rfl, fun _ => ?_⟩
    cases a.isSet <;> rfl
  case like | startsWith | endsWith | contains | regex =>
    obtain ⟨logical, field, a, -, -, rfl⟩ := stringMatch_eq_ok_iff.mp h
    refine .inl ⟨_, _, rfl, ?_⟩
    simp [Op.hasOpposite, Test.operator, Operator.isOpposed, Operator.opposite?, Relation.opposite?]
  case likeIgnoreCase | startsWithIgnoreCase | endsWithIgnoreCase | containsIgnoreCase
      | eqIgnoreCase =>
    obtain ⟨logical, field, a, v, -, -, -, rfl⟩ := foldedMatch_eq_ok_iff.mp h
    refine .inl ⟨_, _, rfl, ?_⟩
    simp [Op.hasOpposite, Test.operator, Operator.isOpposed, Operator.opposite?, Relation.opposite?]
  case between =>
    obtain ⟨logical, field, low, high, -, -, rfl⟩ := between_eq_ok_iff.mp h
    exact .inl ⟨_, _, rfl, by simp [Op.hasOpposite]⟩
  case isNull | isNotNull | isEmptyCollection =>
    obtain ⟨logical, field, -, -, rfl⟩ := check_eq_ok_iff.mp h
    exact .inl ⟨_, _, rfl, fun _ => rfl⟩
  case isEmptyString =>
    obtain ⟨logical, field, -, -, rfl⟩ := (onlyField_bind_eq_ok_iff
      (f := fun k => ((k.check .isNotValued).or (k.relate .eq (.string ""))).group)).mp h
    exact .inr ⟨rfl, _, rfl⟩
  case and | or | not | regexIgnoreCase | stringLength | collectionSize | containsKey =>
    exact absurd h (by simp [leaf])

lemma groupsChains_leaf (h : leaf entity op args = .ok c) : c.GroupsChains := by
  obtain ⟨k, t, rfl, -⟩ | ⟨-, k, rfl⟩ := leaf_eq_ok h
  · trivial
  · refine ⟨⟨trivial, trivial⟩, ?_, ?_⟩
    · exact Criteria.isOperandOf_comparison _ _ _ _
    · exact Criteria.isOperandOf_comparison _ _ _ _

/-- The criteria of a predicate groups the chains under its chains. -/
lemma keptByTranslation_groupsChains : KeptByTranslation entity fun _ c => c.GroupsChains where
  leaf _ _ h := groupsChains_leaf h
  notIn h := groupsChains_leaf h
  not h := h.negate
  junction {_ _ _ first _ _} _ h := by
    have hall := forall_mem_of_forall₂ (p := Criteria.GroupsChains) h fun _ _ hc => hc
    obtain ⟨hfirst, hrest⟩ := List.forall_mem_cons.mp hall
    exact groupsChains_chain _ hfirst hrest

/-! ### Nested negations -/

/-- The predicate under a number of negations. -/
def negations : Nat → Predicate → Predicate
  | 0, p => p
  | n + 1, p => .operation .not [negations n p]

/-- The operation is one test, and this is the test that it is negated to. -/
def IsOpposedBy (entity : Entity) (p : Predicate) (k : Comparison) (t : Test) : Prop :=
  p.toCriteria entity = .ok (.comparison k false false) ∧
    k.test.operator.isOpposed = true ∧ k.test.opposite? = some t

lemma exists_isOpposedBy (hop : op.hasOpposite = true)
    (h : toCriteria entity (.operation op args) = .ok c) :
    ∃ k t, IsOpposedBy entity (.operation op args) k t ∧ c = .comparison k false false := by
  have hconnective : op.junction? = none ∧ op ≠ .not := by
    cases op <;> simp_all [Op.hasOpposite, Op.junction?]
  have hleaf := h
  rw [toCriteria_leaf entity hconnective.1 hconnective.2] at hleaf
  obtain ⟨k, t, rfl, hopposed⟩ | ⟨rfl, -⟩ := leaf_eq_ok hleaf
  · have hopposed := hopposed hop
    obtain ⟨u, hu⟩ := Test.exists_opposite hopposed
    exact ⟨_, u, ⟨h, hopposed, hu⟩, rfl⟩
  · simp [Op.hasOpposite] at hop

/-- Membership and its negation have opposite tests, also where the set is a lone value. -/
lemma exists_isOpposedBy_isIn (h : leaf entity .isNotIn args = .ok c) :
    ∃ k t, IsOpposedBy entity (.operation .isIn args) k t ∧
      c = .comparison { k with test := t } false false := by
  obtain ⟨logical, field, a, hfield, hargs, rfl⟩ := membership_eq_ok_iff.mp h
  have hin : toCriteria entity (.operation .isIn args) =
      .ok ((Criterion.on field).relate (if a.isSet then .isIn else .eq) a.toValue) := by
    rw [toCriteria_leaf entity rfl (by simp)]
    exact membership_eq_ok_iff.mpr ⟨logical, field, a, hfield, hargs, rfl⟩
  cases hset : a.isSet with
  | false =>
    rw [hset] at hin
    exact ⟨_, _, ⟨hin, rfl, rfl⟩, rfl⟩
  | true =>
    rw [hset] at hin
    exact ⟨_, _, ⟨hin, rfl, rfl⟩, rfl⟩

/-- Under any number of negations, an operation with an opposite is one test: its own, or the
opposite one. -/
lemma toCriteria_negations (hop : op.hasOpposite = true) (n : Nat)
    (h : (negations n (.operation op args)).toCriteria entity = .ok c) :
    ∃ k t, IsOpposedBy entity (.operation op args) k t ∧
      c = .comparison { k with test := if Even n then k.test else t } false false := by
  induction n generalizing c with
  | zero =>
    obtain ⟨k, t, hk, rfl⟩ := exists_isOpposedBy hop h
    exact ⟨k, t, hk, rfl⟩
  | succ n ih =>
    obtain ⟨inner, hargs, hleaf⟩ | ⟨child, c', hargs, hc', rfl⟩ := toCriteria_not_eq_ok h
    · -- only membership itself is translated along with its negation
      have hinner := List.head_eq_of_cons_eq hargs
      cases n with
      | zero =>
        obtain ⟨rfl, rfl⟩ : op = .isIn ∧ args = inner := by simpa [negations] using hinner
        obtain ⟨k, t, hk, rfl⟩ := exists_isOpposedBy_isIn hleaf
        exact ⟨k, t, hk, rfl⟩
      | succ n => simp [negations] at hinner
    · obtain rfl := List.head_eq_of_cons_eq hargs
      obtain ⟨k, t, hk, rfl⟩ := ih hc'
      have ht := hk.2.2
      refine ⟨k, t, hk, ?_⟩
      by_cases hn : Even n
      · simp [hn, Nat.even_add_one, Criteria.negate, ht]
      · simp [hn, Nat.even_add_one, Criteria.negate, Test.opposite?_opposite? ht]

/-- The criteria of a predicate has no negating nodes, marks of negation only on chains and on tests
without an opposite, two operands under every chain, and chains of the other junction grouped. An
operation with an opposite is one test however often it is negated: its own or the opposite one,
and its text is none of a negation. -/
theorem negation_is_pushed {p : Predicate} (h : p.toCriteria entity = .ok c) :
    (∀ node ∈ c.nodes, node.IsNegationNormal) ∧
    ∀ (n : Nat) (op : Op) (args : List Predicate), op.hasOpposite = true →
      p = negations n (.operation op args) →
        ∃ (k : Comparison) (t : Test),
          toCriteria entity (.operation op args) = .ok (.comparison k false false) ∧
          k.test.opposite? = some t ∧
          c = .comparison { k with test := if Even n then k.test else t } false false ∧
          ∀ how : Rendering, how.Reads c (.atom { k with test := if Even n then k.test else t }) ∧
            how.text c ≠ how.text (.not (.comparison k false false) false) := by
  constructor
  · exact Criteria.isNegationNormal_of_mem_nodes (isReadable_of_toCriteria h).regular
      (toCriteria_induction keptByTranslation_groupsChains p h)
  · rintro n op args hop rfl
    obtain ⟨k, t, ⟨hk, hopposed, ht⟩, rfl⟩ := toCriteria_negations hop n h
    refine ⟨k, t, hk, ht, rfl, ?_⟩
    intro how
    have hreads := (isReadable_of_toCriteria h).reads_formula how
    exact ⟨hreads, Criteria.text_ne_text_not hreads (isReadable_of_toCriteria hk)
      (Comparison.negated?_of_isOpposed hopposed)⟩

/-- An age among two, under three negations. -/
def thriceNegated : Predicate :=
  negations 3 (.operation .isIn
    [.path "age", .constant (.collection [.value (.int 1), .value (.int 2)])])

theorem negation_of_thriceNegated :
    (∃ c, negatedChain.toCriteria .person = .ok c ∧ ∀ node ∈ c.nodes, node.IsNegationNormal) ∧
    ∃ c, thriceNegated.toCriteria .person = .ok c ∧ c.operator = .relation .isNotIn ∧
      ∃ k, toCriteria .person (.operation .isIn [.path "age",
          .constant (.collection [.value (.int 1), .value (.int 2)])]) =
            .ok (.comparison k false false) ∧
        c.inline ≠ Criteria.inline (.not (.comparison k false false) false) := by
  constructor
  · have hcriteria : negatedChain.toCriteria .person = .ok _ := rfl
    exact ⟨_, rfl, (negation_is_pushed hcriteria).1⟩
  · have hcriteria : thriceNegated.toCriteria .person = .ok _ := rfl
    obtain ⟨-, hopposite⟩ := negation_is_pushed hcriteria
    obtain ⟨k, t, hk, -, -, htext⟩ := hopposite 3 .isIn _ rfl rfl
    exact ⟨_, rfl, rfl, k, hk, (htext .literals).2⟩

end Predicate

end DocQuery
