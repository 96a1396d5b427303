import DocQuery.Criteria.Writing
import DocQuery.Proofs.Criteria.Reachable
/-!
# Writing records

The values of a criteria are written where they stand in its fragment, from left to right, and those
of its record operand by operand, before an operator puts the texts together. Both ways ask the
writer for the same values in the same order and come to the same text (`render_toNode`). So the
exports of a record that was built have one reason to fail: an operand that still waits for its
argument (`Node.export_fails_iff_deferred`).
-/

namespace DocQuery

variable {σ : Type} (w : Writer σ)

namespace Fragment

/-- The fragment with the texts of its values, which are written from left to right. -/
def settle : Fragment → Writing σ Fragment
  | [] => return []
  | .text t :: a => return .text t :: (← settle a)
  | .value hint v :: a => return (← Writing.value w hint v) ++ (← settle a)
  | .deferred :: _ => Writing.fail .deferredOperand

variable (a b : Fragment)

/-! ### The forms of fragments -/

lemma settle_append : settle w (a ++ b) = do return (← settle w a) ++ (← settle w b) := by
  induction a with
  | nil => simp [settle]
  | cons piece a ih =>
    cases piece with
    | text t => simp [settle, ih]
    | value hint v =>
      simp only [List.cons_append, settle, ih, bind_assoc, pure_bind, List.append_assoc]
    | deferred => rfl

@[simp] lemma settle_raw (t : String) : settle w (raw t) = pure (raw t) := by
  simp [raw, settle]

/-- A fragment without values is a text already. -/
lemma settle_of_places {a : Fragment} (h : a.places = []) : settle w a = pure a := by
  induction a with
  | nil => rfl
  | cons piece a ih =>
    cases piece with
    | text t =>
      rw [settle, ih h]
      rfl
    | value hint v => simp [places, Piece.isPlace] at h
    | deferred => simp [places, Piece.isPlace] at h

lemma settle_suffixed (word : String) :
    settle w (suffixed a word) = do return suffixed (← settle w a) word := by
  simp [suffixed, settle_append]

lemma settle_binary (operator : String) :
    settle w (binary a operator b) =
      do return binary (← settle w a) operator (← settle w b) := by
  simp [binary, settle_append]

lemma settle_call (f : String) : settle w (call f [a]) = do return call f [← settle w a] := by
  simp [call, joined, settle_append]

lemma settle_call₂ (f : String) :
    settle w (call f [a, b]) = do return call f [← settle w a, ← settle w b] := by
  simp [call, joined, settle_append]

lemma settle_concat :
    settle w (concat a b) = do return concat (← settle w a) (← settle w b) := by
  simp [concat, settle_append]

lemma settle_between (low high : Fragment) :
    settle w (between a low high) =
      do return between (← settle w a) (← settle w low) (← settle w high) := by
  simp [between, settle_append]

end Fragment

open Fragment

/-! ### The forms of conditions -/

lemma settle_fold (fold : Option CaseFold) (a : Fragment) :
    settle w (foldFragment fold a) = foldFragment fold <$> settle w a := by
  rcases fold with _ | _ | _
  · exact (id_map _).symm
  · exact settle_call w a "lower"
  · exact settle_call w a "upper"

lemma Check.settle_fragment (a : Fragment) (k : Check) :
    settle w (k.fragment a) = (fragment · k) <$> settle w a := by
  cases k with
  | isTrue => simp [fragment, Fragment.eq, boolean, settle_binary]
  | isFalse => simp [fragment, Fragment.eq, boolean, settle_binary]
  | _ => exact settle_suffixed w a _

lemma Relation.settle_fragment (a b : Fragment) (r : Relation) :
    settle w (r.fragment a b) = do return r.fragment (← settle w a) (← settle w b) := by
  cases r with
  | startsWith => simp [fragment, Fragment.like, Fragment.paren, Fragment.string, settle_binary,
      settle_call, settle_concat]
  | endsWith => simp [fragment, Fragment.like, Fragment.paren, Fragment.string, settle_binary,
      settle_call, settle_concat]
  | contains => exact settle_call₂ w a b "contains"
  | notContains => simp [fragment, Fragment.contains, Fragment.not, settle_call, settle_call₂]
  | regex => exact settle_call₂ w a b "regexp_like"
  | _ => exact settle_binary w a b _

lemma Junction.settle_fragment (a b : Fragment) (j : Junction) :
    settle w (j.fragment a b) = do return j.fragment (← settle w a) (← settle w b) := by
  cases j <;> exact settle_binary w a b _

lemma Criteria.settle_markNegated (negated : Bool) (a : Fragment) :
    settle w (markNegated negated a) = markNegated negated <$> settle w a := by
  cases negated with
  | false => exact (id_map _).symm
  | true => exact settle_call w a "not"

/-! ### Records of criteria -/

namespace Criteria

@[simp] lemma negated_toNode (c : Criteria) : c.toNode.negated = c.isNegated := by cases c <;> rfl

@[simp] lemma grouped_toNode (c : Criteria) : c.toNode.grouped = c.isGrouped := by cases c <;> rfl

/-- An operand is written and folded where its turn comes. -/
lemma text_operand {n : Node} {k : Comparison} (h : n.valueFold = k.valueFold) (o : Operand) :
    Entry.text w k.field.parameterName n (.operand o) = settle w (k.operandFragment o) := by
  cases o with
  | value v => simp [Entry.text, Comparison.operandFragment, settle_fold, settle, h]
  | deferred conversion =>
    rw [Comparison.operandFragment, settle_fold]
    rfl

/-- The operands of a comparison are written one after the other, and then its operator puts them
together. -/
lemma body_comparison (k : Comparison) (negated grouped : Bool)
    (children : Option (List (Child σ))) :
    (comparison k negated grouped).toNode.body w children = settle w k.fragment := by
  have hoperand := text_operand w (n := (comparison k negated grouped).toNode) (k := k) rfl
  obtain ⟨field, fieldFold, valueFold, test⟩ := k
  have hsubject :=
    settle_of_places w (Comparison.places_subject ⟨field, fieldFold, valueFold, test⟩)
  cases test with
  | check c =>
    rw [Comparison.fragment, Check.settle_fragment, hsubject]
    rfl
  | relation r operand =>
    rw [Comparison.fragment, Relation.settle_fragment, hsubject, ← hoperand]
    simp [Node.body, toNode, Test.operator, Test.operands, Operator.takesCriteria, Operator.arity,
      Writing.operandAt, Comparison.subject]
  | between low high =>
    rw [Comparison.fragment, settle_between, hsubject, ← hoperand, ← hoperand]
    simp [Node.body, toNode, Test.operator, Test.operands, Operator.takesCriteria, Operator.arity,
      Writing.operandAt, Comparison.subject]

/-- An operand of a chain is written with its parentheses. -/
lemma operandText_child (c : Criteria) (h : c.toNode.render w = settle w c.fragment) :
    Child.operandText ⟨c.toNode.render w, c.toNode.grouped && !c.toNode.negated⟩ =
      settle w (c.asOperand c.fragment) := by
  rw [Child.operandText, h, asOperand, grouped_toNode, negated_toNode]
  by_cases hparen : (c.isGrouped && !c.isNegated) = true
  · simp [hparen, Fragment.paren, settle_call]
  · simp [hparen]

/-- A record is written as the fragment of its criteria. -/
theorem render_toNode (c : Criteria) : c.toNode.render w = settle w c.fragment := by
  induction c with
  | comparison k negated grouped =>
    rw [fragment, settle_markNegated, ← body_comparison w k negated grouped]
    rfl
  | junction j left right negated grouped ihl ihr =>
    rw [fragment, settle_markNegated, Junction.settle_fragment, ← operandText_child w left ihl,
      ← operandText_child w right ihr]
    simp [toNode, Node.render, Entry.children?, Node.body, Operator.takesCriteria, Node.combination]
  | not child grouped ih =>
    rw [fragment, Fragment.not, settle_call, ← ih]
    simp [toNode, Node.render, Entry.children?, Node.body, Operator.takesCriteria, Node.combination,
      markNegated]
    rfl

end Criteria

/-! ### Exports -/

lemma Fragment.plain_append (a b : Fragment) : plain (a ++ b) = plain a ++ plain b := by
  induction a with
  | nil => simp [plain]
  | cons piece a ih => cases piece <;> simp [plain, ih, String.append_assoc]

/-- A fragment that is settled has the text that is written for it. -/
lemma Fragment.plain_settle (a : Fragment) (s : σ) :
    (plain <$> settle w a).run.run s = ((a.write w s).1.mapError .fault, (a.write w s).2) := by
  induction a generalizing s with
  | nil => rfl
  | cons piece a ih =>
    cases piece with
    | text t =>
      have htext : plain <$> settle w (.text t :: a) = (t ++ ·) <$> plain <$> settle w a := by
        simp [settle, plain]
      rw [htext, run_map, ih, write]
      cases (write w a s).1 <;> rfl
    | value hint v =>
      have hvalue : plain <$> settle w (.value hint v :: a) = (do
          let t ← Writing.value w hint v
          (t.plain ++ ·) <$> plain <$> settle w a) := by
        simp [settle, plain_append]
      have hrun : (Writing.value w hint v).run.run s =
          (.ok (.raw (w s hint v).1), (w s hint v).2) := rfl
      rw [hvalue, run_bind, hrun, write]
      simp only [run_map, ih]
      cases (write w a (w s hint v).2).1 with
      | error e => rfl
      | ok t => simp [Except.map, Except.mapError, raw, plain]
    | deferred => rfl

namespace Criteria

lemma inline_toNode (c : Criteria) : c.toNode.inline = c.inline.mapError .fault := by
  rw [Node.inline, render_toNode, plain_settle, inline, inline_eq_write]

lemma bound_toNode (c : Criteria) (p : Placeholders) :
    c.toNode.bound p = ((c.bound p).1.mapError .fault, (c.bound p).2) := by
  rw [Node.bound, render_toNode, plain_settle, bound, bound_eq_write_push]

end Criteria

lemma mapError_eq_error_iff {α : Type} {x : Except Fault α} {failure : Failure} :
    x.mapError Failure.fault = .error failure ↔
      ∃ fault, x = .error fault ∧ failure = .fault fault := by
  cases x with
  | error fault => simp [Except.mapError, eq_comm]
  | ok a => simp [Except.mapError]

/-- The exports of a record that was built fail where an operand waits for an argument, and for no
other reason: its comparisons have a field and the operands that their operator takes, and its
connectives the criteria that they join. -/
theorem Node.export_fails_iff_deferred {n : Node} (h : n.IsReachable) :
    (∀ m ∈ n.nodes, m.IsComplete) ∧
    (∀ failure, n.inline = .error failure ↔
      0 < n.deferredCount ∧ failure = .fault .deferredOperand) ∧
    (∀ (p : Placeholders) (failure : Failure), (n.bound p).1 = .error failure ↔
      0 < n.deferredCount ∧ failure = .fault .deferredOperand) := by
  obtain ⟨c, -, rfl⟩ := h.isRecord
  refine ⟨h.isComplete_of_mem_nodes, ?_, ?_⟩
  · intro failure
    rw [c.inline_toNode, mapError_eq_error_iff, c.deferredCount_toNode]
    simp [c.inline_eq_error_iff]
  · intro p failure
    rw [c.bound_toNode, mapError_eq_error_iff, c.deferredCount_toNode]
    simp [c.bound_eq_error_iff]

/-- The range of an age behind a name in any letter case, negated, or else, in parentheses, what a
negation of a negation gives back. The name and the last operand wait. -/
def awaitingTwo : Node :=
  let name := (Builder.on (.ofKey "name")).ignoreCase.finish (.relation .eq)
    [.operand (.deferred .scalar)]
  let aged := (name.andField (.ofKey "age")).between (.int 18) (.int 65)
  let tagged := (Builder.on (.ofKey "tags")).finish (.relation .isIn) [.operand (.deferred .set)]
  aged.negate.orGroup tagged.not.negate

/-- The record is not written until its operands are resolved. -/
theorem export_of_awaitingTwo :
    awaitingTwo.IsReachable ∧ (∀ m ∈ awaitingTwo.nodes, m.IsComplete) ∧
      awaitingTwo.inline = .error (.fault .deferredOperand) ∧
      (awaitingTwo.bound (.empty .named)).1 = .error (.fault .deferredOperand) ∧
      ∃ n, Taking.Takes awaitingTwo.resolve [.enum "Bubba", .value (.int 7)] n [] ∧
        n.inline = .ok ("not(lower(`name`) = lower(\"Bubba\") and `age` between 18 and 65)" ++
          " or (`tags` in [7])") := by
  have hname : (Builder.on (.ofKey "name")).ignoreCase.compare (.relation .eq)
      [.operand (.deferred .scalar)] = .ok _ := rfl
  have htagged : (Builder.on (.ofKey "tags")).compare (.relation .isIn)
      [.operand (.deferred .set)] = .ok _ := rfl
  have haged := Node.IsReachable.compare (.ignoreCase (.on _)) hname
  have h : awaitingTwo.IsReachable :=
    .orGroup (.negate (.between _ _ (.andField _ haged)))
      (.negate (.not (.compare (.on _) htagged)))
  have hopen : 0 < awaitingTwo.deferredCount := by decide
  obtain ⟨hnodes, hinline, hbound⟩ := Node.export_fails_iff_deferred h
  refine ⟨h, hnodes, (hinline _).mpr ⟨hopen, rfl⟩, (hbound _ _).mpr ⟨hopen, rfl⟩, _, rfl, ?_⟩
  rfl

/-- A record that nothing builds can fail for another reason. -/
example : (Node.connective (.junction .and) [.criteria awaitingTwo]).inline =
    .error (.fault (.misuse (.criteriaCount "AND" 1))) := rfl

end DocQuery
