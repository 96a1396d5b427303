import DocQuery.Proofs.Criteria.Resolve
import DocQuery.Proofs.Fragment.Values
/-!
# Other values in a criteria

A function on values puts other values in the operands of a criteria. Its fragment is then the same
with the other values in it (`fragment_mapValues`), and arguments that fill its operands differ in
nothing but the values they leave there (`mapValues_of_takes`).
-/

namespace DocQuery

variable (f : Value → Value)

/-- The operand with another value, if it is known. -/
def Operand.mapValue : Operand → Operand
  | .value v => .value (f v)
  | .deferred conversion => .deferred conversion

/-- The test with other values. -/
def Test.mapValues : Test → Test
  | .check k => .check k
  | .relation r operand => .relation r (operand.mapValue f)
  | .between low high => .between (low.mapValue f) (high.mapValue f)

/-- The comparison with other values. -/
def Comparison.mapValues (c : Comparison) : Comparison := { c with test := c.test.mapValues f }

/-- The criteria with other values. -/
def Criteria.mapValues : Criteria → Criteria
  | .comparison c negated grouped => .comparison (c.mapValues f) negated grouped
  | .junction j left right negated grouped =>
    .junction j (left.mapValues) (right.mapValues) negated grouped
  | .not child grouped => .not child.mapValues grouped

/-! ### Fragments -/

@[simp] lemma mapValues_foldFragment (fold : Option CaseFold) (a : Fragment) :
    Fragment.mapValues f (foldFragment fold a) = foldFragment fold (a.mapValues f) := by
  rcases fold with _ | _ | _
  · rfl
  · exact Fragment.mapValues_call f "lower" [a]
  · exact Fragment.mapValues_call f "upper" [a]

lemma Check.mapValues_fragment (a : Fragment) (k : Check) :
    Fragment.mapValues f (k.fragment a) = k.fragment (a.mapValues f) := by
  cases k with
  | isTrue => exact Fragment.mapValues_binary f a (.boolean true) "="
  | isFalse => exact Fragment.mapValues_binary f a (.boolean false) "="
  | _ => exact Fragment.mapValues_suffixed f a _

lemma Relation.mapValues_fragment (a b : Fragment) (r : Relation) :
    Fragment.mapValues f (r.fragment a b) = r.fragment (a.mapValues f) (b.mapValues f) := by
  cases r with
  | startsWith => simp [fragment, Fragment.like, Fragment.paren]
  | endsWith => simp [fragment, Fragment.like, Fragment.paren]
  | contains => exact Fragment.mapValues_call f "contains" [a, b]
  | notContains => simp [fragment, Fragment.not, Fragment.contains]
  | regex => exact Fragment.mapValues_call f "regexp_like" [a, b]
  | _ => exact Fragment.mapValues_binary f a b _

namespace Comparison

variable (c : Comparison)

lemma mapValues_subject : c.subject.mapValues f = (c.mapValues f).subject :=
  mapValues_foldFragment f c.fieldFold (.raw c.field.text)

lemma mapValues_operandFragment (operand : Operand) :
    (c.operandFragment operand).mapValues f =
      (c.mapValues f).operandFragment (operand.mapValue f) := by
  cases operand with
  | value v => exact mapValues_foldFragment f c.valueFold [.value c.field.parameterName v]
  | deferred conversion => exact mapValues_foldFragment f c.valueFold [.deferred]

lemma fragment_mapValues : (c.mapValues f).fragment = c.fragment.mapValues f := by
  obtain ⟨field, fieldFold, valueFold, test⟩ := c
  cases test with
  | check k =>
    exact ((k.mapValues_fragment f _).trans (congrArg k.fragment (mapValues_subject f _))).symm
  | relation r operand =>
    rw [fragment, fragment, r.mapValues_fragment, mapValues_subject, mapValues_operandFragment]
    rfl
  | between low high =>
    rw [fragment, fragment, Fragment.mapValues_between, mapValues_subject,
      mapValues_operandFragment, mapValues_operandFragment]
    rfl

end Comparison

namespace Criteria

variable (c : Criteria)

@[simp] lemma isGrouped_mapValues : (c.mapValues f).isGrouped = c.isGrouped := by
  cases c <;> rfl

@[simp] lemma isNegated_mapValues : (c.mapValues f).isNegated = c.isNegated := by
  cases c <;> rfl

lemma mapValues_markNegated (negated : Bool) (a : Fragment) :
    Fragment.mapValues f (markNegated negated a) = markNegated negated (a.mapValues f) := by
  cases negated with
  | false => rfl
  | true => exact Fragment.mapValues_call f "not" [a]

lemma mapValues_asOperand (a : Fragment) :
    Fragment.mapValues f (c.asOperand a) = (c.mapValues f).asOperand (a.mapValues f) := by
  rw [asOperand, asOperand, isGrouped_mapValues, isNegated_mapValues]
  split
  · exact Fragment.mapValues_call f "" [a]
  · rfl

/-- Other values in a criteria are other values in its text and nothing else. -/
theorem fragment_mapValues : (c.mapValues f).fragment = Fragment.mapValues f c.fragment := by
  induction c with
  | comparison k negated grouped =>
    rw [mapValues, fragment, fragment, mapValues_markNegated, k.fragment_mapValues]
  | junction j left right negated grouped ihl ihr =>
    have hjunction : ∀ a b : Fragment,
        (j.fragment a b).mapValues f = j.fragment (a.mapValues f) (b.mapValues f) := by
      intro a b
      cases j <;> exact Fragment.mapValues_binary f a b _
    rw [mapValues, fragment, fragment, mapValues_markNegated, hjunction, mapValues_asOperand,
      mapValues_asOperand, ihl, ihr]
  | not child grouped ih =>
    rw [mapValues, fragment, fragment, ih]
    exact (Fragment.mapValues_call f "not" [child.fragment]).symm

lemma deferredCount_mapValues : (c.mapValues f).deferredCount = c.deferredCount := by
  induction c with
  | comparison k negated grouped =>
    obtain ⟨field, fieldFold, valueFold, test⟩ := k
    cases test with
    | check k => rfl
    | relation r operand => cases operand <;> rfl
    | between low high => cases low <;> cases high <;> rfl
  | junction j left right negated grouped ihl ihr =>
    rw [mapValues, deferredCount, deferredCount, ihl, ihr]
  | not child grouped ih => exact ih

end Criteria

/-! ### Putting criteria together -/

lemma Test.opposite?_mapValues (t : Test) :
    (t.mapValues f).opposite? = t.opposite?.map (Test.mapValues f) := by
  cases t with
  | check k => rfl
  | relation r operand => cases r <;> rfl
  | between low high => rfl

namespace Criteria

variable (c : Criteria)

@[simp] lemma operator_mapValues : (c.mapValues f).operator = c.operator := by
  cases c with
  | comparison k negated grouped =>
    obtain ⟨field, fieldFold, valueFold, test⟩ := k
    cases test <;> rfl
  | junction j left right negated grouped => rfl
  | not child grouped => rfl

lemma mapValues_group : c.group.mapValues f = (c.mapValues f).group := by
  cases c <;> rfl

lemma mapValues_groupChain : c.groupChain.mapValues f = (c.mapValues f).groupChain := by
  rw [groupChain, groupChain, operator_mapValues]
  split
  · exact mapValues_group f c
  · rfl

lemma mapValues_negate : c.negate.mapValues f = (c.mapValues f).negate := by
  cases c with
  | comparison k negated grouped =>
    cases negated with
    | true => rfl
    | false =>
      have hopposite := Test.opposite?_mapValues f k.test
      rw [negate, mapValues, negate]
      simp only [Comparison.mapValues, hopposite]
      cases k.test.opposite? <;> rfl
  | junction j left right negated grouped => cases negated <;> rfl
  | not child grouped => exact mapValues_groupChain f child

end Criteria

/-! ### Arguments -/

open Taking

/-- The value with nothing left of it. -/
abbrev Value.blank : Value → Value := fun _ => .null

variable {args args' rest rest' : List Argument}

lemma Operand.mapValue_of_takes {operand o o' : Operand} (h : Takes operand.resolve args o rest)
    (h' : Takes operand.resolve args' o' rest') :
    o.mapValue Value.blank = o'.mapValue Value.blank := by
  cases operand with
  | value v =>
    obtain ⟨rfl, -⟩ := takes_pure.mp h
    obtain ⟨rfl, -⟩ := takes_pure.mp h'
    rfl
  | deferred conversion =>
    obtain ⟨v, _, -, h⟩ := exists_of_takes_bind h
    obtain ⟨v', _, -, h'⟩ := exists_of_takes_bind h'
    obtain ⟨rfl, -⟩ := takes_pure.mp h
    obtain ⟨rfl, -⟩ := takes_pure.mp h'
    rfl

lemma Test.mapValues_of_takes {test t t' : Test} (h : Takes test.resolve args t rest)
    (h' : Takes test.resolve args' t' rest') :
    t.mapValues Value.blank = t'.mapValues Value.blank := by
  cases test with
  | check k =>
    obtain ⟨rfl, -⟩ := takes_pure.mp h
    obtain ⟨rfl, -⟩ := takes_pure.mp h'
    rfl
  | relation r operand =>
    obtain ⟨_, _, hoperand, h⟩ := exists_of_takes_bind h
    obtain ⟨_, _, hoperand', h'⟩ := exists_of_takes_bind h'
    obtain ⟨rfl, -⟩ := takes_pure.mp h
    obtain ⟨rfl, -⟩ := takes_pure.mp h'
    rw [mapValues, mapValues, Operand.mapValue_of_takes hoperand hoperand']
  | between low high =>
    obtain ⟨_, _, hlow, h⟩ := exists_of_takes_bind h
    obtain ⟨_, _, hhigh, h⟩ := exists_of_takes_bind h
    obtain ⟨_, _, hlow', h'⟩ := exists_of_takes_bind h'
    obtain ⟨_, _, hhigh', h'⟩ := exists_of_takes_bind h'
    obtain ⟨rfl, -⟩ := takes_pure.mp h
    obtain ⟨rfl, -⟩ := takes_pure.mp h'
    rw [mapValues, mapValues, Operand.mapValue_of_takes hlow hlow',
      Operand.mapValue_of_takes hhigh hhigh']

/-- Two lists of arguments leave criteria that differ in nothing but their values. -/
theorem Criteria.mapValues_of_takes {c d d' : Criteria} (h : Takes c.resolve args d rest)
    (h' : Takes c.resolve args' d' rest') : d.mapValues Value.blank = d'.mapValues Value.blank := by
  induction c generalizing d d' args args' rest rest' with
  | comparison k negated grouped =>
    obtain ⟨_, _, htest, h⟩ := exists_of_takes_bind h
    obtain ⟨_, _, htest', h'⟩ := exists_of_takes_bind h'
    obtain ⟨rfl, -⟩ := takes_pure.mp h
    obtain ⟨rfl, -⟩ := takes_pure.mp h'
    rw [mapValues, mapValues, Comparison.mapValues, Comparison.mapValues,
      Test.mapValues_of_takes htest htest']
  | junction j left right negated grouped ihl ihr =>
    obtain ⟨_, _, _, rfl, hl, hr⟩ := takes_junction h
    obtain ⟨_, _, _, rfl, hl', hr'⟩ := takes_junction h'
    rw [mapValues, mapValues, ihl hl hl', ihr hr hr']
  | not child grouped ih =>
    obtain ⟨_, _, hchild, h⟩ := exists_of_takes_bind h
    obtain ⟨_, _, hchild', h'⟩ := exists_of_takes_bind h'
    obtain ⟨rfl, -⟩ := takes_pure.mp h
    obtain ⟨rfl, -⟩ := takes_pure.mp h'
    rw [mapValues, mapValues, ih hchild hchild']

end DocQuery
