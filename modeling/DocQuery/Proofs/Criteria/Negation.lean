import DocQuery.Proofs.Criteria.Arguments
import DocQuery.Proofs.Criteria.Marks
import DocQuery.Proofs.Criteria.Meaning
import DocQuery.Proofs.Criteria.Shape
/-!
# Negated criteria

The text of a negated criteria is true exactly when that of the criteria is false, it is one operand
wherever it stands in a chain, and a second negation gives the text back (`negate_is_complement`).
-/

namespace DocQuery

/-! ### Opposite tests -/

lemma Relation.opposite?_opposite? {r r' : Relation} (h : r.opposite? = some r') :
    r'.opposite? = some r := by
  cases r <;> cases h <;> rfl

lemma Test.opposite?_opposite? {t u : Test} (h : t.opposite? = some u) :
    u.opposite? = some t := by
  cases t with
  | check k =>
    obtain rfl := Option.some.inj h
    cases k <;> rfl
  | relation r operand =>
    obtain ⟨r', hr, rfl⟩ := Option.map_eq_some_iff.mp h
    simp [opposite?, Relation.opposite?_opposite? hr]
  | between low high => simp [opposite?] at h

/-- Whether a test has an opposite depends on its operator alone. -/
lemma Test.opposite?_eq_none_iff (t : Test) : t.opposite? = none ↔ t.operator.opposite? = none := by
  cases t <;> simp [opposite?, operator, Operator.opposite?]

/-- The negation that is read for a `contains` is its opposite. -/
lemma Formula.eval_negate {truth : Comparison → Bool} (htruth : Consistent truth)
    (f : Formula Comparison) : f.negate.eval truth = !f.eval truth := by
  cases f with
  | atom k =>
    rw [negate]
    split
    · next d hd =>
      rw [Comparison.negated?] at hd
      split at hd
      · next operand htest =>
        obtain rfl := Option.some.inj hd
        exact htruth k _ (by rw [htest]; rfl)
      · simp at hd
    · rfl
  | not f => rfl
  | and f g => rfl
  | or f g => rfl

namespace Criteria

/-! ### Criteria as they are built -/

/-- The criteria that the ways to combine criteria lead to. -/
inductive IsBuilt : Criteria → Prop
  | test (k : Criterion) (t : Test) : IsBuilt (k.test t)
  | and {left right : Criteria} (hl : IsBuilt left) (hr : IsBuilt right) : IsBuilt (left.and right)
  | or {left right : Criteria} (hl : IsBuilt left) (hr : IsBuilt right) : IsBuilt (left.or right)
  | group {c : Criteria} (h : IsBuilt c) : IsBuilt c.group
  | negation {c : Criteria} (h : IsBuilt c) : IsBuilt c.negation
  | negate {c : Criteria} (h : IsBuilt c) : IsBuilt c.negate
  | resolve {c c' : Criteria} {args rest : List Argument} (h : IsBuilt c)
      (hr : Taking.Takes c.resolve args c' rest) : IsBuilt c'

lemma IsBuilt.andGroup {left right : Criteria} (hl : left.IsBuilt) (hr : right.IsBuilt) :
    (left.andGroup right).IsBuilt := hl.and hr.group

lemma IsBuilt.orGroup {left right : Criteria} (hl : left.IsBuilt) (hr : right.IsBuilt) :
    (left.orGroup right).IsBuilt := hl.or hr.group

lemma isBuilt_of_compare {k : Criterion} {operator : Operator} {offers : List Offer} {c : Criteria}
    (h : k.compare operator offers = .ok c) : c.IsBuilt := by
  obtain ⟨t, -, -, rfl⟩ := Criterion.compare_eq_ok_iff.mp h
  exact .test k t

/-- Negation is marked on a comparison only if its test has no opposite. -/
def MarksUnopposed : Criteria → Prop
  | .comparison k negated _ => negated = true → k.test.opposite? = none
  | .junction _ left right _ _ => left.MarksUnopposed ∧ right.MarksUnopposed
  | .not child _ => child.MarksUnopposed

variable {c : Criteria}

lemma MarksUnopposed.group (h : c.MarksUnopposed) : c.group.MarksUnopposed := by
  cases c <;> exact h

lemma MarksUnopposed.negate (h : c.MarksUnopposed) : c.negate.MarksUnopposed := by
  cases c with
  | comparison k negated grouped =>
    cases negated with
    | true => simp [Criteria.negate, MarksUnopposed]
    | false =>
      rw [Criteria.negate]
      split
      · simp [MarksUnopposed]
      · next hnone => exact fun _ => hnone
  | junction j left right negated grouped => cases negated <;> exact h
  | not child grouped =>
    have hchild : child.MarksUnopposed := h
    rw [Criteria.negate, groupChain]
    split
    · exact hchild.group
    · exact hchild

lemma MarksUnopposed.resolve (h : c.MarksUnopposed) {c' : Criteria} {args rest : List Argument}
    (hr : Taking.Takes c.resolve args c' rest) : c'.MarksUnopposed := by
  induction c generalizing c' args rest with
  | comparison k negated grouped =>
    obtain ⟨k', rfl, hk⟩ := takes_comparison hr
    intro hnegated
    rw [Test.opposite?_eq_none_iff, hk.operator, ← Test.opposite?_eq_none_iff]
    exact h hnegated
  | junction j left right negated grouped ihl ihr =>
    obtain ⟨left', right', mid, rfl, hl, hr⟩ := takes_junction hr
    exact ⟨ihl h.1 hl, ihr h.2 hr⟩
  | not child grouped ih =>
    obtain ⟨child', mid, hchild, hr⟩ := Taking.exists_of_takes_bind hr
    obtain ⟨rfl, -⟩ := Taking.takes_pure.mp hr
    have hmarks : child'.MarksUnopposed := ih h hchild
    exact hmarks

lemma IsBuilt.marksUnopposed (h : c.IsBuilt) : c.MarksUnopposed := by
  induction h with
  | test k t => simp [Criterion.test, MarksUnopposed]
  | and _ _ ihl ihr => exact ⟨ihl, ihr⟩
  | or _ _ ihl ihr => exact ⟨ihl, ihr⟩
  | group _ ih => exact ih.group
  | negation _ ih => exact ih
  | negate _ ih => exact ih.negate
  | resolve _ hr ih => exact ih.resolve hr

/-! ### Truth -/

variable {truth : Comparison → Bool}

lemma eval_markChain (htruth : Consistent truth) (negated : Bool)
    (chain : Chain (Formula Comparison)) :
    (markChain negated chain).formula.eval truth = (negated ^^ chain.formula.eval truth) := by
  cases negated with
  | false => simp [markChain]
  | true => simp [markChain, Formula.eval_negate htruth]

lemma formula_group (c : Criteria) : c.group.formula = c.formula := by
  cases c <;> rfl

lemma formula_groupChain (c : Criteria) : c.groupChain.formula = c.formula := by
  rw [groupChain]
  split
  · exact c.formula_group
  · rfl

/-- The text of a negated criteria has the opposite truth. -/
theorem eval_formula_negate (htruth : Consistent truth) (c : Criteria) :
    c.negate.formula.eval truth = !c.formula.eval truth := by
  cases c with
  | comparison k negated grouped =>
    cases negated with
    | true => simp [negate, formula, chain, eval_markChain htruth]
    | false =>
      rw [negate]
      split
      · next test htest =>
        simp [formula, chain, eval_markChain htruth, Formula.eval, htruth k test htest]
      · simp [formula, chain, eval_markChain htruth]
  | junction j left right negated grouped =>
    cases negated <;> simp [negate, formula, chain, eval_markChain htruth]
  | not child grouped =>
    rw [negate, formula_groupChain, formula, formula, chain, eval_markChain htruth]
    simp

/-! ### Operands -/

/-- What is no bare chain is one operand. -/
lemma isUnit_operandMarks
    (h : c.operator.isChain = true → c.isNegated = false → c.isGrouped = true) :
    Mark.IsUnit (c.operandMarks c.marks) := by
  rw [operandMarks]
  split
  · exact .enclose false (readAs_marks c)
  · next hgrouped =>
    cases c with
    | comparison k negated grouped =>
      cases negated with
      | false => exact .comparison k
      | true => exact .enclose true (.comparison k)
    | junction j left right negated grouped =>
      cases negated with
      | false =>
        have hgroup : grouped = true := h rfl rfl
        simp [isGrouped, isNegated, hgroup] at hgrouped
      | true =>
        exact .enclose true
          ((readAs_operandMarks left (readAs_marks left)).join j
            (readAs_operandMarks right (readAs_marks right)))
    | not child grouped => exact .enclose true (readAs_marks child)

lemma isChain_comparison (k : Comparison) (negated grouped : Bool) :
    (comparison k negated grouped).operator.isChain = false := by
  rw [operator]
  cases k.test <;> rfl

lemma exists_negate_comparison (k : Comparison) (negated grouped : Bool) :
    ∃ k' negated', (comparison k negated grouped).negate = comparison k' negated' grouped := by
  cases negated with
  | true => exact ⟨k, false, rfl⟩
  | false =>
    rw [negate]
    split
    · exact ⟨_, false, rfl⟩
    · exact ⟨k, true, rfl⟩

/-- Negation leaves no bare chain. -/
lemma isGrouped_negate (c : Criteria) (hchain : c.negate.operator.isChain = true)
    (hnegated : c.negate.isNegated = false) : c.negate.isGrouped = true := by
  cases c with
  | comparison k negated grouped =>
    obtain ⟨k', negated', hnegate⟩ := exists_negate_comparison k negated grouped
    rw [hnegate, isChain_comparison] at hchain
    simp at hchain
  | junction j left right negated grouped =>
    cases negated with
    | true => rfl
    | false => simp [negate, isNegated] at hnegated
  | not child grouped =>
    rw [negate, groupChain] at hchain ⊢
    split
    · cases child <;> rfl
    · next hbare =>
      rw [if_neg hbare] at hchain
      exact absurd hchain hbare

/-- In a chain a negated criteria is one operand, which has its formula. -/
theorem negate_isUnit (c : Criteria) :
    Mark.IsUnit (c.negate.operandMarks c.negate.marks) ∧
      Mark.ReadAs (c.negate.operandMarks c.negate.marks) (.single c.negate.formula) := by
  have hunit := isUnit_operandMarks (c := c.negate) c.isGrouped_negate
  have hread := readAs_operandMarks c.negate (readAs_marks c.negate)
  rw [hunit.chain_eq hread, formula_operandChain] at hread
  exact ⟨hunit, hread⟩

/-! ### Negating twice -/

/-- Negating twice brings back the text, unless the first negation takes a negating node away. -/
lemma fragment_negate_negate (h : c.MarksUnopposed)
    (hroot : ∀ child grouped, c ≠ .not child grouped) : c.negate.negate.fragment = c.fragment := by
  cases c with
  | comparison k negated grouped =>
    cases negated with
    | true => simp [negate, h rfl]
    | false =>
      cases htest : k.test.opposite? with
      | none => simp [negate, htest]
      | some test => simp [negate, htest, Test.opposite?_opposite? htest]
  | junction j left right negated grouped => cases negated <;> rfl
  | not child grouped => exact absurd rfl (hroot child grouped)

/-! ### What negation keeps -/

lemma allOperands_group (c : Criteria) : c.group.allOperands = c.allOperands := by
  cases c <;> rfl

/-- An opposite test has the same operands. -/
lemma allOperands_negate (c : Criteria) : c.negate.allOperands = c.allOperands := by
  cases c with
  | comparison k negated grouped =>
    cases negated with
    | true => rfl
    | false =>
      rw [negate]
      split
      · next test htest =>
        rw [allOperands_comparison, allOperands_comparison]
        exact Test.operands_of_opposite? htest
      · rfl
  | junction j left right negated grouped => cases negated <;> rfl
  | not child grouped =>
    rw [negate, groupChain]
    split
    · exact child.allOperands_group
    · rfl

lemma deferredCount_negate (c : Criteria) : c.negate.deferredCount = c.deferredCount := by
  rw [deferredCount_eq_countP_allOperands, deferredCount_eq_countP_allOperands, allOperands_negate]

lemma comparisons_group (c : Criteria) : c.group.comparisons = c.comparisons := by
  cases c <;> rfl

lemma fields_negate (c : Criteria) :
    c.negate.comparisons.map (·.field) = c.comparisons.map (·.field) := by
  cases c with
  | comparison k negated grouped =>
    cases negated with
    | true => rfl
    | false =>
      rw [negate]
      split <;> rfl
  | junction j left right negated grouped => cases negated <;> rfl
  | not child grouped =>
    rw [negate, groupChain]
    split
    · rw [comparisons_group]
      rfl
    · rfl

/-- What is true of the fields of a criteria is true of those of its negation. -/
lemma forall_field_negate {p : FieldPath → Prop} (h : ∀ k ∈ c.comparisons, p k.field) :
    ∀ k ∈ c.negate.comparisons, p k.field := by
  have hfields : ∀ field ∈ c.negate.comparisons.map (·.field), p field := by
    rw [fields_negate]
    exact List.forall_mem_map.mpr h
  exact List.forall_mem_map.mp hfields

/-! ### Texts -/

lemma text_eq_of_fragment_eq {c d : Criteria} (h : c.fragment = d.fragment) (how : Rendering) :
    how.text c = how.text d := by
  cases how with
  | literals => rw [Rendering.text, Rendering.text, inline, inline, h]
  | placeholders p => rw [Rendering.text, Rendering.text, bound, bound, h]

/-- However its values are written, the criteria has the text of its marks, and they are read as the
formula. -/
structure IsReadAs (c : Criteria) (f : Formula Comparison) : Prop where
  text : ∀ how : Rendering, ∃ text, how.text c = .ok text ∧ how.write c.marks = .ok text
  formula : Formula.ofMarks? c.marks = some f

lemma exists_text (hknown : c.deferredCount = 0) (how : Rendering) :
    ∃ text, how.text c = .ok text := by
  have hfragment : Fragment.deferredCount c.fragment = 0 := by rw [deferredCount_fragment, hknown]
  cases how with
  | literals =>
    obtain ⟨cs, s, text, hwrite, _⟩ := Fragment.exists_writes Writer.literals () hfragment
    refine ⟨text, ?_⟩
    rw [Rendering.text, inline, Fragment.inline_eq_write, hwrite]
  | placeholders p =>
    obtain ⟨cs, s, text, hwrite, _⟩ :=
      Fragment.exists_writes (Writer.placeholders p.style) ⟨p, rfl⟩ hfragment
    refine ⟨text, ?_⟩
    rw [Rendering.text, bound, Fragment.bound_eq_write c.fragment ⟨p, rfl⟩, hwrite]

lemma isReadAs_formula (hknown : c.deferredCount = 0) : c.IsReadAs c.formula where
  text how := by
    obtain ⟨text, htext⟩ := exists_text hknown how
    exact ⟨text, htext, (text_marks how c).symm.trans htext⟩
  formula := ofMarks?_marks c

/-- Whatever comparisons are true, as long as opposite ones have opposite truths, the text
of a negated criteria is true exactly when that of the criteria is false. As an operand of a chain
it is one unit, so that the chain does not regroup it. Negating twice brings back the text, unless
the criteria is a negating node. -/
theorem negate_is_complement (hbuilt : c.IsBuilt) (hknown : c.deferredCount = 0)
    (htruth : Consistent truth) :
    ∃ f g : Formula Comparison, c.IsReadAs f ∧ c.negate.IsReadAs g ∧
      g.eval truth = !f.eval truth ∧
      ((∀ k ∈ c.comparisons, k.field.IsQuoted) →
        ∀ how : Rendering, how.Reads c f ∧ how.Reads c.negate g) ∧
      (∃ unit, Mark.IsUnit unit ∧ Mark.ReadAs unit (.single g) ∧
        ∀ (how : Rendering) (j : Junction) (other : Criteria),
          how.text (.junction j other c.negate false false) =
            how.write (other.operandMarks other.marks ++ .junction j :: unit) ∧
          how.text (.junction j c.negate other false false) =
            how.write (unit ++ .junction j :: other.operandMarks other.marks)) ∧
      ((∀ child grouped, c ≠ .not child grouped) →
        ∀ how : Rendering, how.text c.negate.negate = how.text c) := by
  have hnegated : c.negate.deferredCount = 0 := c.deferredCount_negate.trans hknown
  refine ⟨c.formula, c.negate.formula, isReadAs_formula hknown, isReadAs_formula hnegated,
    eval_formula_negate htruth c, ?_, ?_, ?_⟩
  · intro hfields how
    have hquoted : ∀ k ∈ c.negate.comparisons, k.field.IsQuoted := forall_field_negate hfields
    exact ⟨exists_text_formula hfields (by rw [deferredCount_fragment, hknown]) how,
      exists_text_formula hquoted (by rw [deferredCount_fragment, hnegated]) how⟩
  · obtain ⟨hunit, hread⟩ := c.negate_isUnit
    refine ⟨_, hunit, hread, ?_⟩
    intro how j other
    exact ⟨text_marks how _, text_marks how _⟩
  · intro hroot how
    exact text_eq_of_fragment_eq (fragment_negate_negate hbuilt.marksUnopposed hroot) how

/-- Not one of a name in any case and an age between two bounds, but a prefix of the name. -/
def prefixOnly : Criteria :=
  (((Criterion.on (.ofKey "lower(name)")).relate .eq (.string "q")).or
      ((Criterion.on (.ofKey "age")).between (.int 1) (.int 3))).negate.andGroup
    ((Criterion.on (.ofKey "name")).relate .startsWith (.string "Q")).negation

theorem negate_prefixOnly :
    prefixOnly.deferredCount = 0 ∧ ∃ f g : Formula Comparison, prefixOnly.IsReadAs f ∧
      prefixOnly.negate.IsReadAs g ∧ g.eval isAffirmative = !f.eval isAffirmative ∧
      prefixOnly.negate.negate.inline = prefixOnly.inline := by
  have hbuilt : prefixOnly.IsBuilt :=
    ((IsBuilt.test _ _).or (.test _ _)).negate.andGroup (IsBuilt.test _ _).negation
  obtain ⟨f, g, hf, hg, heval, -, -, htwice⟩ :=
    negate_is_complement hbuilt rfl consistent_isAffirmative
  exact ⟨rfl, f, g, hf, hg, heval, htwice (by simp [prefixOnly, andGroup, and]) .literals⟩

end Criteria

end DocQuery
