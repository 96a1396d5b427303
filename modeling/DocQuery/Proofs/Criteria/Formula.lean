import DocQuery.Criteria.Text
import DocQuery.Proofs.Formula
/-!
# What criteria say

A criteria has a truth value of its own, read off its tree, and a formula, which is what a reader
of its text understands. The two agree if no `or` stands without parentheses under an `and`
(`eval_formula`).
-/

namespace DocQuery

/-! ### The tree -/

namespace Junction

/-- The truth of a junction. -/
def holds : Junction → Bool → Bool → Bool
  | .and, a, b => a && b
  | .or, a, b => a || b

/-- The truth of a junction of several. -/
def holdsAll : Junction → List Bool → Bool
  | .and, bs => bs.all id
  | .or, bs => bs.any id

lemma foldl_holds (j : Junction) (b : Bool) (bs : List Bool) :
    bs.foldl j.holds b = j.holdsAll (b :: bs) := by
  induction bs generalizing b with
  | nil => cases j <;> simp [holdsAll]
  | cons b' bs ih =>
    rw [List.foldl_cons, ih]
    cases j <;> simp [holds, holdsAll, Bool.and_assoc, Bool.or_assoc]

end Junction

namespace Criteria

/-- The comparisons of a criteria, in the order of its text. -/
def comparisons : Criteria → List Comparison
  | .comparison c _ _ => [c]
  | .junction _ left right _ _ => left.comparisons ++ right.comparisons
  | .not child _ => child.comparisons

/-- The truth of a criteria, given that of its comparisons. -/
def holds (truth : Comparison → Bool) : Criteria → Bool
  | .comparison c negated _ => negated ^^ truth c
  | .junction j left right negated _ => negated ^^ j.holds (left.holds truth) (right.holds truth)
  | .not child _ => !child.holds truth

@[simp] lemma holds_group (truth : Comparison → Bool) (c : Criteria) :
    c.group.holds truth = c.holds truth := by
  cases c <;> rfl

end Criteria

/-! ### The formula -/

namespace Comparison

/-- The comparison that the negation of a comparison is written like, if there is one. -/
def negated? (c : Comparison) : Option Comparison :=
  match c.test with
  | .relation .contains operand => some { c with test := .relation .notContains operand }
  | _ => none

end Comparison

/-- The negation of a formula, as it is read: that of a lone `contains` is a comparison. -/
def Formula.negate : Formula Comparison → Formula Comparison
  | .atom c =>
    match c.negated? with
    | some d => .atom d
    | none => .not (.atom c)
  | f => .not f

namespace Criteria

/-- A chain under a mark of negation. -/
def markChain (negated : Bool) (c : Chain (Formula Comparison)) : Chain (Formula Comparison) :=
  if negated then .single c.formula.negate else c

/-- The chain of a criteria where it is an operand. -/
def operandChain (c : Criteria) (chain : Chain (Formula Comparison)) : Chain (Formula Comparison) :=
  if c.isGrouped && !c.isNegated then .single chain.formula else chain

/-- The chain that the text of a criteria is read as. -/
def chain : Criteria → Chain (Formula Comparison)
  | .comparison c negated _ => markChain negated (.single (.atom c))
  | .junction j left right negated _ =>
    markChain negated ((left.operandChain left.chain).join j (right.operandChain right.chain))
  | .not child _ => markChain true child.chain

/-- The formula that the text of a criteria is read as. -/
def formula (c : Criteria) : Formula Comparison := c.chain.formula

@[simp] lemma formula_operandChain (c : Criteria) :
    (c.operandChain c.chain).formula = c.formula := by
  rw [operandChain]
  split <;> rfl

/-! ### Criteria that mean what is read -/

/-- Negation is marked only where no opposite operator says it, and there are no negating nodes. -/
def IsRegular : Criteria → Prop
  | .comparison c negated _ => negated = true → c.test.opposite? = none
  | .junction _ left right _ _ => left.IsRegular ∧ right.IsRegular
  | .not _ _ => False

/-- No `or` stands without parentheses under an `and`. -/
def IsTight : Criteria → Prop
  | .comparison _ _ _ => True
  | .junction j left right _ _ => left.IsTight ∧ right.IsTight ∧
    (j = .and → (left.operandChain left.chain).IsAll .and ∧
      (right.operandChain right.chain).IsAll .and)
  | .not child _ => child.IsTight

end Criteria

/-! ### Chains of `and` -/

namespace Criteria

lemma isAll_markChain {negated : Bool} {c : Chain (Formula Comparison)}
    (h : negated = false → c.IsAll .and) : (markChain negated c).IsAll .and := by
  cases negated with
  | false => exact h rfl
  | true => exact Chain.isAll_single .and c.formula.negate

lemma isAll_operandChain {c : Criteria} {chain : Chain (Formula Comparison)}
    (h : c.isGrouped = true → c.isNegated = true → chain.IsAll .and)
    (h' : c.isGrouped = false → chain.IsAll .and) : (c.operandChain chain).IsAll .and := by
  rw [operandChain]
  split
  · exact Chain.isAll_single .and chain.formula
  · next hgrouped =>
    cases hg : c.isGrouped with
    | false => exact h' hg
    | true => exact h hg (by simpa [hg] using hgrouped)

/-- Only an `or` at the root brings an `or` into the chain. -/
lemma IsTight.isAll_chain {c : Criteria} (h : c.IsTight) (hor : c.operator ≠ .junction .or) :
    c.chain.IsAll .and := by
  cases c with
  | comparison c negated grouped => exact isAll_markChain fun _ => Chain.isAll_single .and _
  | not child grouped => exact Chain.isAll_single .and _
  | junction j left right negated grouped =>
    cases j with
    | or => exact absurd rfl hor
    | and => exact isAll_markChain fun _ => (h.2.2 rfl).1.join (h.2.2 rfl).2

lemma IsTight.isAll_operandChain {c : Criteria} (h : c.IsTight) (hor : c.operator ≠ .junction .or) :
    (c.operandChain c.chain).IsAll .and :=
  DocQuery.Criteria.isAll_operandChain (fun _ _ => h.isAll_chain hor) fun _ => h.isAll_chain hor

/-- A root in parentheses or under a negation is one operand. -/
lemma isAll_operandChain_group (c : Criteria) :
    (c.group.operandChain c.group.chain).IsAll .and := by
  apply isAll_operandChain
  · intro _ hnegated
    cases c with
    | comparison c negated grouped => exact isAll_markChain fun _ => Chain.isAll_single .and _
    | not child grouped => exact Chain.isAll_single .and _
    | junction j left right negated grouped =>
      exact isAll_markChain fun hfalse => absurd (hfalse.symm.trans hnegated) (by decide)
  · intro hgrouped
    cases c <;> exact absurd hgrouped (by simp [group, isGrouped])

end Criteria

/-! ### The formula means what the tree means -/

lemma Formula.negate_of_compound {f : Formula Comparison} (h : ∀ c, f ≠ .atom c) :
    f.negate = .not f := by
  cases f with
  | atom c => exact absurd rfl (h c)
  | not f => rfl
  | and f g => rfl
  | or f g => rfl

lemma Comparison.negated?_eq_none {c : Comparison} (h : c.test.opposite? = none) :
    c.negated? = none := by
  rw [Comparison.negated?]
  split
  · simp_all [Test.opposite?, Relation.opposite?]
  · rfl

namespace Criteria

variable {truth : Comparison → Bool}

lemma formula_mark_comparison {c : Comparison} {negated : Bool}
    (h : negated = true → c.test.opposite? = none) :
    (markChain negated (.single (.atom c))).formula =
      if negated then .not (.atom c) else .atom c := by
  cases negated with
  | false => rfl
  | true =>
    have hnone := Comparison.negated?_eq_none (h rfl)
    simp [markChain, Formula.negate, hnone]

lemma formula_mark_join (negated : Bool) (c d : Chain (Formula Comparison)) (j : Junction) :
    (markChain negated (c.join j d)).formula =
      if negated then .not (c.join j d).formula else (c.join j d).formula := by
  cases negated with
  | false => rfl
  | true =>
    -- only a lone `contains` swallows its negation
    exact Formula.negate_of_compound (Chain.join_formula_ne_atom c j d)

/-- The text of a regular criteria has its comparisons, in their order. -/
theorem leaves_formula : ∀ {c : Criteria}, c.IsRegular → c.formula.leaves = c.comparisons
  | .comparison c negated _, h => by
    rw [formula, chain, formula_mark_comparison h]
    cases negated <;> rfl
  | .junction j left right negated _, ⟨hl, hr⟩ => by
    have hleaves : ((left.operandChain left.chain).join j
        (right.operandChain right.chain)).formula.leaves =
          left.comparisons ++ right.comparisons := by
      rw [Chain.leaves_join, formula_operandChain, formula_operandChain, leaves_formula hl,
        leaves_formula hr]
    rw [formula, chain, formula_mark_join]
    cases negated <;> exact hleaves

/-- The text of a regular and tight criteria is true exactly when the criteria is. -/
theorem eval_formula : ∀ {c : Criteria}, c.IsRegular → c.IsTight →
    c.formula.eval truth = c.holds truth
  | .comparison c negated _, h, _ => by
    rw [formula, chain, formula_mark_comparison h]
    cases negated <;> simp [Formula.eval, holds]
  | .junction j left right negated _, ⟨hl, hr⟩, ⟨htl, htr, hand⟩ => by
    have heval : ((left.operandChain left.chain).join j
        (right.operandChain right.chain)).formula.eval truth =
          j.holds (left.holds truth) (right.holds truth) := by
      cases j with
      | and =>
        obtain ⟨hallL, hallR⟩ := hand rfl
        rw [Chain.eval_join_and truth hallL hallR, formula_operandChain, formula_operandChain,
          eval_formula hl htl, eval_formula hr htr, Junction.holds]
      | or =>
        rw [Chain.eval_join_or, formula_operandChain, formula_operandChain,
          eval_formula hl htl, eval_formula hr htr, Junction.holds]
    rw [formula, chain, formula_mark_join]
    cases negated <;> simp [Formula.eval, holds, heval]

end Criteria

end DocQuery
