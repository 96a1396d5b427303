import DocQuery.Proofs.Criteria.Places
import DocQuery.Proofs.Criteria.Reading
/-!
# Criteria that mean what they say

A readable criteria has a text, however its values are written, and the text is true when the
criteria is (`IsReadable.reads`). The ways to put criteria together keep them readable.
-/

namespace DocQuery

/-- The criteria has a text that is read as the formula: `and` binds tighter than `or`, and the
tokens of every operand are those of its comparison. -/
def Rendering.Reads (how : Rendering) (c : Criteria) (f : Formula Comparison) : Prop :=
  ∃ text g, how.text c = .ok text ∧ Formula.ofText? text = some g ∧
    Formula.Forall₂ how.Shows g f

namespace Criteria

/-- Fields are resolved, values are known, and the marks are where the text needs them. -/
structure IsReadable (c : Criteria) : Prop where
  fields : ∀ k ∈ c.comparisons, k.field.IsQuoted
  known : c.deferredCount = 0
  regular : c.IsRegular
  tight : c.IsTight

variable {c left right : Criteria}

lemma IsReadable.reads_formula (h : c.IsReadable) (how : Rendering) : how.Reads c c.formula :=
  exists_text_formula h.fields (by rw [deferredCount_fragment, h.known]) how

/-- A readable criteria is read as a formula with its comparisons and its truth. -/
theorem IsReadable.reads (h : c.IsReadable) :
    ∃ f : Formula Comparison, f.leaves = c.comparisons ∧
      (∀ truth, f.eval truth = c.holds truth) ∧ ∀ how : Rendering, how.Reads c f :=
  ⟨c.formula, leaves_formula h.regular, fun _ => eval_formula h.regular h.tight, h.reads_formula⟩

/-! ### Comparisons -/

lemma isReadable_comparison {k : Comparison} (hfield : k.field.IsQuoted)
    (hknown : ∀ operand ∈ k.test.operands, operand.isDeferred = false) (grouped : Bool) :
    (comparison k false grouped).IsReadable where
  fields := by simpa [comparisons] using hfield
  known := by
    rw [deferredCount_comparison, List.countP_eq_zero]
    simpa using hknown
  regular := by simp [IsRegular]
  tight := trivial

/-! ### Junctions -/

lemma IsReadable.group (h : c.IsReadable) : c.group.IsReadable := by
  obtain ⟨hfields, hknown, hregular, htight⟩ := h
  cases c <;> exact ⟨hfields, hknown, hregular, htight⟩

lemma IsReadable.junction {j : Junction} (hl : left.IsReadable) (hr : right.IsReadable)
    (hand : j = .and → (left.operandChain left.chain).IsAll .and ∧
      (right.operandChain right.chain).IsAll .and) (negated grouped : Bool) :
    (Criteria.junction j left right negated grouped).IsReadable where
  fields := by
    intro k hk
    rcases List.mem_append.mp hk with hk | hk
    · exact hl.fields k hk
    · exact hr.fields k hk
  known := by rw [deferredCount, hl.known, hr.known]
  regular := ⟨hl.regular, hr.regular⟩
  tight := ⟨hl.tight, hr.tight, hand⟩

end Criteria

/-! ### Negation -/

/-- Two tests that are opposite to each other get opposite truth values on one field. -/
def Consistent (truth : Comparison → Bool) : Prop :=
  ∀ (k : Comparison) (test : Test), k.test.opposite? = some test →
    truth { k with test } = !truth k

lemma Test.operands_of_opposite? {t u : Test} (h : t.opposite? = some u) :
    u.operands = t.operands := by
  cases t with
  | check k =>
    obtain rfl := Option.some.inj h
    rfl
  | relation r operand =>
    obtain ⟨r', -, rfl⟩ := Option.map_eq_some_iff.mp h
    rfl
  | between low high => exact absurd h (by simp [opposite?])

namespace Criteria

variable {c : Criteria}

lemma IsReadable.negate (h : c.IsReadable) : c.negate.IsReadable := by
  obtain ⟨hfields, hknown, hregular, htight⟩ := h
  cases c with
  | comparison k negated grouped =>
    rw [deferredCount_comparison] at hknown
    cases negated with
    | true =>
      refine ⟨hfields, ?_, by simp [IsRegular, Criteria.negate], trivial⟩
      rw [Criteria.negate, deferredCount_comparison, hknown]
    | false =>
      rw [Criteria.negate]
      split
      · next test htest =>
        refine ⟨by simpa [comparisons] using hfields, ?_, by simp [IsRegular], trivial⟩
        rw [deferredCount_comparison]
        simpa [Test.operands_of_opposite? htest] using hknown
      · next hnone =>
        refine ⟨hfields, ?_, fun _ => hnone, trivial⟩
        rw [deferredCount_comparison, hknown]
  | junction j left right negated grouped =>
    cases negated <;> exact ⟨hfields, hknown, hregular, htight⟩
  | not child grouped => exact hregular.elim

/-- Negation turns the truth over. -/
lemma IsRegular.holds_negate {truth : Comparison → Bool} (h : c.IsRegular)
    (htruth : Consistent truth) : c.negate.holds truth = !c.holds truth := by
  cases c with
  | comparison k negated grouped =>
    cases negated with
    | true => simp [Criteria.negate, holds]
    | false =>
      rw [Criteria.negate]
      split
      · next test htest => simp [holds, htruth k test htest]
      · simp [holds]
  | junction j left right negated grouped => cases negated <;> simp [Criteria.negate, holds]
  | not child grouped => exact h.elim

end Criteria

/-- Takes one of two opposite tests. -/
def isAffirmative (k : Comparison) : Bool :=
  match k.test with
  | .check k => k ∈ [.isNull, .isMissing, .isValued, .isTrue]
  | .relation r _ => r ∉ [.ne, .gt, .gte, .notLike, .notContains, .isNotIn]
  | .between _ _ => true

lemma consistent_isAffirmative : Consistent isAffirmative := by
  rintro ⟨field, fieldFold, valueFold, test⟩ test' h
  cases test with
  | check k =>
    obtain rfl := Option.some.inj h
    cases k <;> rfl
  | relation r operand =>
    obtain ⟨r', hr, rfl⟩ := Option.map_eq_some_iff.mp h
    cases r <;> cases hr <;> rfl
  | between low high => exact absurd h (by simp [Test.opposite?])

/-! ### Criteria and their truth -/

/-- The criteria is readable, and this is its truth. -/
def Criteria.Says (truth : Comparison → Bool) (c : Criteria) (b : Bool) : Prop :=
  c.IsReadable ∧ c.holds truth = b

namespace Criteria

variable {truth : Comparison → Bool} {c left right : Criteria} {a b : Bool}

lemma says_comparison {k : Comparison} (hfield : k.field.IsQuoted)
    (hknown : ∀ operand ∈ k.test.operands, operand.isDeferred = false) :
    (comparison k false false).Says truth (truth k) :=
  ⟨isReadable_comparison hfield hknown false, Bool.false_xor _⟩

lemma Says.negate (htruth : Consistent truth) (h : c.Says truth b) : c.negate.Says truth (!b) :=
  ⟨h.1.negate, by rw [h.1.regular.holds_negate htruth, h.2]⟩

lemma Says.group (h : c.Says truth b) : c.group.Says truth b :=
  ⟨h.1.group, (holds_group truth c).trans h.2⟩

lemma Says.junction {j : Junction} (hl : left.Says truth a) (hr : right.Says truth b)
    (hand : j = .and → (left.operandChain left.chain).IsAll .and ∧
      (right.operandChain right.chain).IsAll .and) :
    (Criteria.junction j left right false false).Says truth (j.holds a b) := by
  refine ⟨hl.1.junction hr.1 hand false false, ?_⟩
  rw [holds, hl.2, hr.2, Bool.false_xor]

lemma Says.and (hl : left.Says truth a) (hr : right.Says truth b)
    (hleft : left.operator ≠ .junction .or) (hright : right.operator ≠ .junction .or) :
    (left.and right).Says truth (a && b) :=
  hl.junction hr fun _ =>
    ⟨hl.1.tight.isAll_operandChain hleft, hr.1.tight.isAll_operandChain hright⟩

lemma Says.or (hl : left.Says truth a) (hr : right.Says truth b) :
    (left.or right).Says truth (a || b) :=
  hl.junction hr (by simp)

/-- A chain that is joined from the left says the junction of its operands, none of which brings an
`or` into a chain of `and`. -/
lemma Says.foldl {j : Junction} (hc : c.Says truth b)
    (hall : j = .and → (c.operandChain c.chain).IsAll .and) {cs : List Criteria} {bs : List Bool}
    (hcs : List.Forall₂ (Says truth) cs bs)
    (halls : j = .and → ∀ d ∈ cs, (d.operandChain d.chain).IsAll .and) :
    (cs.foldl (fun left right => .junction j left right false false) c).Says truth
      (j.holdsAll (b :: bs)) := by
  rw [← Junction.foldl_holds]
  induction hcs generalizing c b with
  | nil => exact hc
  | @cons d b' cs bs hd _ ih =>
    have hjoin := hc.junction hd fun hj => ⟨hall hj, halls hj d (by simp)⟩
    refine ih hjoin (fun hj => ?_) fun hj e he => halls hj e (by simp [he])
    -- what is joined so far has an `and` at its root, and so no `or` in its chain
    subst hj
    exact hjoin.1.tight.isAll_operandChain (by simp [operator])

end Criteria

end DocQuery
