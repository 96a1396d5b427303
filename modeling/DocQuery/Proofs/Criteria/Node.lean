import DocQuery.Criteria.Node
import DocQuery.Proofs.Criteria.Places
import DocQuery.Proofs.Criteria.Shape
/-!
# Criteria and their records

A criteria has a record (`Criteria.toNode`), and what is done to the criteria is done to its record:
records are combined, negated (`toNode_negate`), resolved (`resolve_toNode`) and compared
(`compare_toBuilder`) as the criteria are that they stand for.
-/

namespace DocQuery

/-! ### The record of a criteria -/

/-- The record of a criteria. -/
def Criteria.toNode : Criteria → Node
  | .comparison c negated grouped =>
    ⟨some c.field, c.test.operator, c.test.operands.map .operand, negated, c.fieldFold, c.valueFold,
      grouped⟩
  | .junction j left right negated grouped =>
    ⟨none, .junction j, [.criteria left.toNode, .criteria right.toNode], negated, none, none,
      grouped⟩
  | .not child grouped => ⟨none, .not, [.criteria child.toNode], false, none, none, grouped⟩

lemma Node.groupChain_eq (n : Node) :
    n.groupChain = if n.operator.isChain then n.group else n := by
  cases n with
  | mk field operator operands negated fieldFold valueFold grouped =>
    by_cases h : operator.isChain = true <;> simp [groupChain, group, h]

namespace Criteria

variable (c left right : Criteria)

@[simp] lemma operator_toNode : c.toNode.operator = c.operator := by cases c <;> rfl

@[simp] lemma toNode_and : (left.and right).toNode = left.toNode.andWith right.toNode := rfl

@[simp] lemma toNode_or : (left.or right).toNode = left.toNode.orWith right.toNode := rfl

@[simp] lemma toNode_group : c.group.toNode = c.toNode.group := by cases c <;> rfl

@[simp] lemma toNode_negation : c.negation.toNode = c.toNode.not := rfl

lemma toNode_groupChain : c.groupChain.toNode = c.toNode.groupChain := by
  rw [groupChain, Node.groupChain_eq, operator_toNode]
  by_cases h : c.operator.isChain = true
  · rw [if_pos h, if_pos h, toNode_group]
  · rw [if_neg h, if_neg h]

lemma toNode_negate : c.negate.toNode = c.toNode.negate := by
  cases c with
  | comparison k negated grouped =>
    obtain ⟨field, fieldFold, valueFold, test⟩ := k
    cases negated with
    | true => cases test <;> simp [negate, toNode, Node.negate, Node.groupChain, Test.operator,
        Operator.isChain]
    | false =>
      cases test with
      | check k => rfl
      | relation r operand => cases r <;> rfl
      | between low high => rfl
  | junction j left right negated grouped =>
    cases negated with
    | true => simp [negate, toNode, Node.negate, Node.groupChain, Operator.isChain]
    | false => rfl
  | not child grouped => exact toNode_groupChain child

end Criteria

/-! ### Arguments -/

lemma Entry.deferredCount_operands (operands : List Operand) :
    Entry.deferredCount (operands.map .operand) = operands.countP Operand.isDeferred := by
  induction operands with
  | nil => rfl
  | cons o operands ih =>
    rw [List.map_cons, deferredCount, ih, List.countP_cons, Nat.add_comm]
    cases o <;> rfl

lemma Criteria.deferredCount_toNode (c : Criteria) : c.toNode.deferredCount = c.deferredCount := by
  induction c with
  | comparison k negated grouped =>
    rw [deferredCount_comparison]
    exact Entry.deferredCount_operands k.test.operands
  | junction j left right negated grouped ihl ihr =>
    simp [toNode, Node.deferredCount, Entry.deferredCount, deferredCount, ihl, ihr]
  | not child grouped ih =>
    simp [toNode, Node.deferredCount, Entry.deferredCount, deferredCount, ih]

/-- The record of a test takes its arguments as the test does. -/
lemma Test.resolve_operands (t : Test) {α : Type} (f : Operator → List Entry → α) :
    (do return f t.operator (← Entry.resolve (t.operands.map .operand)) : Taking α) =
      (fun u : Test => f u.operator (u.operands.map .operand)) <$> t.resolve := by
  cases t <;> simp [operands, operator, Entry.resolve, resolve]

lemma Criteria.resolve_toNode (c : Criteria) : c.toNode.resolve = toNode <$> c.resolve := by
  induction c with
  | comparison k negated grouped =>
    rw [toNode, Node.resolve, resolve, map_bind]
    have h := k.test.resolve_operands fun operator operands =>
      (⟨some k.field, operator, operands, negated, k.fieldFold, k.valueFold, grouped⟩ : Node)
    simpa [toNode] using h
  | junction j left right negated grouped ihl ihr =>
    simp [toNode, Node.resolve, Entry.resolve, resolve, ihl, ihr]
  | not child grouped ih => simp [toNode, Node.resolve, Entry.resolve, resolve, ih]

/-! ### Building comparisons -/

/-- The criteria behind others that it goes on with. -/
def Criteria.behind (c : Criteria) : Option (Junction × Criteria) → Criteria
  | none => c
  | some (j, left) => .junction j left c false false

/-- The record of a field that is about to be tested behind other criteria. -/
def Criterion.toBuilder (k : Criterion) (chain : Option (Junction × Criteria)) : Builder :=
  ⟨k.field, k.fieldFold, k.valueFold, chain.map fun (j, left) => (.junction j, left.toNode)⟩

/-- What is offered to a criteria, as it is offered to its record. -/
def Offer.toEntry : Offer → Entry
  | .operand o => .operand o
  | .criteria c => .criteria c.toNode

/-- Operands are those of a test if there are as many of them as the operator takes. -/
lemma Test.exists_of_length {operator : Operator} (h : operator.takesCriteria = false)
    {operands : List Operand} (hlength : operands.length = operator.arity) :
    ∃ t : Test, t.operator = operator ∧ t.operands = operands := by
  cases operator with
  | check k => exact ⟨.check k, rfl, (List.length_eq_zero_iff.mp hlength).symm⟩
  | relation r =>
    obtain ⟨operand, rfl⟩ := List.length_eq_one_iff.mp hlength
    exact ⟨.relation r operand, rfl, rfl⟩
  | between =>
    obtain ⟨low, high, rfl⟩ := List.length_eq_two.mp hlength
    exact ⟨.between low high, rfl, rfl⟩
  | junction j => simp [Operator.takesCriteria] at h
  | not => simp [Operator.takesCriteria] at h

lemma Entry.any_isCriteria_eq_false_iff {entries : List Entry} :
    entries.any isCriteria = false ↔
      ∃ operands : List Operand, entries = operands.map .operand := by
  induction entries with
  | nil => simp
  | cons entry entries ih =>
    rw [List.any_cons, Bool.or_eq_false_iff, ih]
    constructor
    · rintro ⟨hentry, operands, rfl⟩
      cases entry with
      | operand o => exact ⟨o :: operands, rfl⟩
      | criteria n => simp [isCriteria] at hentry
    · rintro ⟨operands, h⟩
      cases operands with
      | nil => simp at h
      | cons o operands =>
        obtain ⟨rfl, rfl⟩ := List.cons.inj h
        exact ⟨rfl, operands, rfl⟩

lemma Offer.any_isCriteria (offers : List Offer) :
    (offers.map toEntry).any Entry.isCriteria = (offers.mapM operand?).isNone := by
  induction offers with
  | nil => rfl
  | cons offer offers ih =>
    rw [List.map_cons, List.any_cons, ih, List.mapM_cons]
    cases offer with
    | operand o => cases offers.mapM operand? <;> rfl
    | criteria c => rfl

namespace Criterion

variable (k : Criterion) (chain : Option (Junction × Criteria))

/-- The record of a test is put together from its operator and its operands. -/
lemma finish_toBuilder (t : Test) :
    (k.toBuilder chain).finish t.operator (t.operands.map .operand) =
      ((k.test t).behind chain).toNode := by
  cases chain with
  | none => cases t <;> rfl
  | some link => cases t <;> rfl

/-- A comparison by any operator over any operands is refused for a criteria and for its record
alike, or else made of the same operands. -/
theorem compare_toBuilder (operator : Operator) (offers : List Offer) :
    (k.toBuilder chain).compare operator (offers.map Offer.toEntry) =
      (k.compare operator offers).map fun c => (c.behind chain).toNode := by
  unfold Builder.compare compare
  rw [List.length_map, Offer.any_isCriteria]
  by_cases htakes : operator.takesCriteria = true
  · rw [if_pos htakes, if_pos htakes]
    rfl
  by_cases hlength : offers.length ≠ operator.arity
  · rw [if_neg htakes, if_neg htakes, if_pos hlength, if_pos hlength]
    rfl
  rw [if_neg htakes, if_neg htakes, if_neg hlength, if_neg hlength]
  cases hoffers : offers.mapM Offer.operand? with
  | none => cases operator <;> rfl
  | some operands =>
    obtain rfl := mapM_operand?_eq_some_iff.mp hoffers
    rw [List.length_map, not_not] at hlength
    obtain ⟨t, rfl, rfl⟩ := Test.exists_of_length (Bool.eq_false_iff.mpr htakes) hlength
    have hentries : (t.operands.map Offer.operand).map Offer.toEntry = t.operands.map .operand := by
      rw [List.map_map]
      rfl
    rw [hentries, finish_toBuilder]
    cases t <;> rfl

end Criterion

end DocQuery
