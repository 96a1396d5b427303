import DocQuery.Proofs.Criteria.Negation
import DocQuery.Proofs.Criteria.Node
/-!
# Records that can be built

Whatever is built step by step is the record of a criteria (`Node.IsReachable.isRecord`), so
that each of its nodes has just the operands that its operator needs (`isComplete_of_mem_nodes`).
-/

namespace DocQuery

/-! ### Ways to build records -/

mutual

/-- The fields about to be tested that the ways to start and to go on lead to. -/
inductive Builder.IsReachable : Builder → Prop
  | on (field : FieldPath) : Builder.IsReachable (.on field)
  | andField {n : Node} (field : FieldPath) (h : n.IsReachable) : (n.andField field).IsReachable
  | orField {n : Node} (field : FieldPath) (h : n.IsReachable) : (n.orField field).IsReachable
  | upper {b : Builder} (h : b.IsReachable) : b.upper.IsReachable
  | lower {b : Builder} (h : b.IsReachable) : b.lower.IsReachable
  | ignoreCase {b : Builder} (h : b.IsReachable) : b.ignoreCase.IsReachable

/-- The records that the ways to build and to change criteria lead to. -/
inductive Node.IsReachable : Node → Prop
  | check {b : Builder} (k : Check) (h : b.IsReachable) : (b.check k).IsReachable
  | relate {b : Builder} (r : Relation) (v : Value) (h : b.IsReachable) : (b.relate r v).IsReachable
  | between {b : Builder} (low high : Value) (h : b.IsReachable) : (b.between low high).IsReachable
  | compare {b : Builder} {operator : Operator} {entries : List Entry} {n : Node}
      (h : b.IsReachable) (hn : b.compare operator entries = .ok n) : n.IsReachable
  | andWith {left right : Node} (hl : left.IsReachable) (hr : right.IsReachable) :
      (left.andWith right).IsReachable
  | orWith {left right : Node} (hl : left.IsReachable) (hr : right.IsReachable) :
      (left.orWith right).IsReachable
  | andGroup {left right : Node} (hl : left.IsReachable) (hr : right.IsReachable) :
      (left.andGroup right).IsReachable
  | orGroup {left right : Node} (hl : left.IsReachable) (hr : right.IsReachable) :
      (left.orGroup right).IsReachable
  | group {n : Node} (h : n.IsReachable) : n.group.IsReachable
  | not {n : Node} (h : n.IsReachable) : n.not.IsReachable
  | negate {n : Node} (h : n.IsReachable) : n.negate.IsReachable
  | resolve {n n' : Node} {args rest : List Argument} (h : n.IsReachable)
      (hr : Taking.Takes n.resolve args n' rest) : n'.IsReachable

end

/-! ### Records of criteria -/

/-- The record is that of a criteria that can be built. -/
def Node.IsRecord (n : Node) : Prop := ∃ c : Criteria, c.IsBuilt ∧ c.toNode = n

/-- The field is about to be tested behind a criteria that can be built, if behind any. -/
def Builder.IsRecord (b : Builder) : Prop :=
  ∃ (k : Criterion) (chain : Option (Junction × Criteria)),
    (∀ link ∈ chain, link.2.IsBuilt) ∧ k.toBuilder chain = b

lemma Criteria.IsBuilt.behind {c : Criteria} (h : c.IsBuilt) {chain : Option (Junction × Criteria)}
    (hchain : ∀ link ∈ chain, link.2.IsBuilt) : (c.behind chain).IsBuilt := by
  cases chain with
  | none => exact h
  | some link =>
    obtain ⟨j, left⟩ := link
    have hleft : left.IsBuilt := hchain _ rfl
    cases j with
    | and => exact hleft.and h
    | or => exact hleft.or h

namespace Builder.IsRecord

variable {b : Builder}

lemma upper (h : b.IsRecord) : b.upper.IsRecord := by
  obtain ⟨k, chain, hchain, rfl⟩ := h
  exact ⟨k.upper, chain, hchain, rfl⟩

lemma lower (h : b.IsRecord) : b.lower.IsRecord := by
  obtain ⟨k, chain, hchain, rfl⟩ := h
  exact ⟨k.lower, chain, hchain, rfl⟩

lemma ignoreCase (h : b.IsRecord) : b.ignoreCase.IsRecord := by
  obtain ⟨k, chain, hchain, rfl⟩ := h
  exact ⟨k.ignoreCase, chain, hchain, rfl⟩

/-- A comparison of the operands that its operator needs. -/
lemma finish (h : b.IsRecord) (t : Test) :
    (b.finish t.operator (t.operands.map .operand)).IsRecord := by
  obtain ⟨k, chain, hchain, rfl⟩ := h
  exact ⟨(k.test t).behind chain, (Criteria.IsBuilt.test k t).behind hchain,
    (k.finish_toBuilder chain t).symm⟩

/-- A comparison of any operands is refused unless its operator needs just these. -/
lemma compare (h : b.IsRecord) {operator : Operator} {entries : List Entry} {n : Node}
    (hn : b.compare operator entries = .ok n) : n.IsRecord := by
  have hoperands : entries.any Entry.isCriteria = false := by
    unfold Builder.compare at hn
    split_ifs at hn with _ _ hcriteria
    exact Bool.eq_false_iff.mpr hcriteria
  obtain ⟨operands, rfl⟩ := Entry.any_isCriteria_eq_false_iff.mp hoperands
  obtain ⟨k, chain, hchain, rfl⟩ := h
  have hoffers : operands.map .operand = (operands.map Offer.operand).map Offer.toEntry := by
    rw [List.map_map]
    rfl
  rw [hoffers, Criterion.compare_toBuilder] at hn
  cases hc : k.compare operator (operands.map .operand) with
  | error fault => simp [hc, Except.map] at hn
  | ok c =>
    rw [hc] at hn
    exact ⟨c.behind chain, (Criteria.isBuilt_of_compare hc).behind hchain, Except.ok.inj hn⟩

end Builder.IsRecord

namespace Node.IsRecord

variable {n left right : Node}

lemma andField (h : n.IsRecord) (field : FieldPath) : (n.andField field).IsRecord := by
  obtain ⟨c, hc, rfl⟩ := h
  exact ⟨.on field, some (.and, c), by rintro _ ⟨rfl⟩; exact hc, rfl⟩

lemma orField (h : n.IsRecord) (field : FieldPath) : (n.orField field).IsRecord := by
  obtain ⟨c, hc, rfl⟩ := h
  exact ⟨.on field, some (.or, c), by rintro _ ⟨rfl⟩; exact hc, rfl⟩

lemma andWith (hl : left.IsRecord) (hr : right.IsRecord) : (left.andWith right).IsRecord := by
  obtain ⟨c, hc, rfl⟩ := hl
  obtain ⟨d, hd, rfl⟩ := hr
  exact ⟨c.and d, hc.and hd, c.toNode_and d⟩

lemma orWith (hl : left.IsRecord) (hr : right.IsRecord) : (left.orWith right).IsRecord := by
  obtain ⟨c, hc, rfl⟩ := hl
  obtain ⟨d, hd, rfl⟩ := hr
  exact ⟨c.or d, hc.or hd, c.toNode_or d⟩

lemma group (h : n.IsRecord) : n.group.IsRecord := by
  obtain ⟨c, hc, rfl⟩ := h
  exact ⟨c.group, hc.group, c.toNode_group⟩

lemma not (h : n.IsRecord) : n.not.IsRecord := by
  obtain ⟨c, hc, rfl⟩ := h
  exact ⟨c.negation, hc.negation, c.toNode_negation⟩

lemma negate (h : n.IsRecord) : n.negate.IsRecord := by
  obtain ⟨c, hc, rfl⟩ := h
  exact ⟨c.negate, hc.negate, c.toNode_negate⟩

lemma resolve (h : n.IsRecord) {n' : Node} {args rest : List Argument}
    (hr : Taking.Takes n.resolve args n' rest) : n'.IsRecord := by
  obtain ⟨c, hc, rfl⟩ := h
  rw [Criteria.resolve_toNode, map_eq_pure_bind] at hr
  obtain ⟨c', mid, hc', hr⟩ := Taking.exists_of_takes_bind hr
  obtain ⟨rfl, -⟩ := Taking.takes_pure.mp hr
  exact ⟨c', hc.resolve hc', rfl⟩

end Node.IsRecord

mutual

lemma Builder.IsReachable.isRecord : ∀ {b : Builder}, b.IsReachable → b.IsRecord
  | _, .on field => ⟨.on field, none, by simp, rfl⟩
  | _, .andField field h => h.isRecord.andField field
  | _, .orField field h => h.isRecord.orField field
  | _, .upper h => h.isRecord.upper
  | _, .lower h => h.isRecord.lower
  | _, .ignoreCase h => h.isRecord.ignoreCase

/-- What is built step by step is the record of a criteria that is built in the same way. -/
theorem Node.IsReachable.isRecord : ∀ {n : Node}, n.IsReachable → n.IsRecord
  | _, .check k h => h.isRecord.finish (.check k)
  | _, .relate r v h => h.isRecord.finish (.relation r (.value v))
  | _, .between low high h => h.isRecord.finish (.between (.value low) (.value high))
  | _, .compare h hn => h.isRecord.compare hn
  | _, .andWith hl hr => hl.isRecord.andWith hr.isRecord
  | _, .orWith hl hr => hl.isRecord.orWith hr.isRecord
  | _, .andGroup hl hr => hl.isRecord.andWith hr.isRecord.group
  | _, .orGroup hl hr => hl.isRecord.orWith hr.isRecord.group
  | _, .group h => h.isRecord.group
  | _, .not h => h.isRecord.not
  | _, .negate h => h.isRecord.negate
  | _, .resolve h hr => h.isRecord.resolve hr

end

/-! ### Nodes -/

mutual

/-- The nodes of a record, its root first. -/
def Node.nodes : Node → List Node
  | ⟨field, operator, operands, negated, fieldFold, valueFold, grouped⟩ =>
    ⟨field, operator, operands, negated, fieldFold, valueFold, grouped⟩ :: Entry.nodes operands

/-- The nodes of the criteria in a row of operands. -/
def Entry.nodes : List Entry → List Node
  | [] => []
  | .operand _ :: entries => Entry.nodes entries
  | .criteria n :: entries => n.nodes ++ Entry.nodes entries

end

/-- The node has what its operator needs: a connective the criteria that it joins, any other
operator a field and as many operands as it takes. -/
def Node.IsComplete (n : Node) : Prop :=
  match n.operator with
  | .junction _ => ∃ left right, n.operands = [.criteria left, .criteria right]
  | .not => ∃ child, n.operands = [.criteria child]
  | operator => (∃ field, n.field = some field) ∧
    ∃ operands : List Operand, n.operands = operands.map .operand ∧
      operands.length = operator.arity

lemma Entry.nodes_operands (operands : List Operand) : nodes (operands.map .operand) = [] := by
  induction operands with
  | nil => rfl
  | cons o operands ih => exact ih

namespace Criteria

lemma isComplete_toNode (c : Criteria) : c.toNode.IsComplete := by
  cases c with
  | comparison k negated grouped =>
    obtain ⟨field, fieldFold, valueFold, test⟩ := k
    have hlength := test.length_operands
    cases test <;> exact ⟨⟨field, rfl⟩, _, rfl, hlength⟩
  | junction j left right negated grouped => exact ⟨left.toNode, right.toNode, rfl⟩
  | not child grouped => exact ⟨child.toNode, rfl⟩

/-- The nodes of a record are the records of the nodes. -/
lemma nodes_toNode (c : Criteria) : c.toNode.nodes = c.nodes.map toNode := by
  induction c with
  | comparison k negated grouped =>
    rw [toNode, Node.nodes, Entry.nodes_operands]
    rfl
  | junction j left right negated grouped ihl ihr =>
    simp [toNode, Node.nodes, Entry.nodes, nodes, ihl, ihr]
  | not child grouped ih => simp [toNode, Node.nodes, Entry.nodes, nodes, ih]

end Criteria

/-- Whatever built a record, its nodes have what their operators need. -/
theorem Node.IsReachable.isComplete_of_mem_nodes {n : Node} (h : n.IsReachable) :
    ∀ m ∈ n.nodes, m.IsComplete := by
  obtain ⟨c, -, rfl⟩ := h.isRecord
  intro m hm
  rw [c.nodes_toNode] at hm
  obtain ⟨d, -, rfl⟩ := List.mem_map.mp hm
  exact d.isComplete_toNode

end DocQuery
