import DocQuery.Criteria.Text
import DocQuery.Proofs.Criteria.Formula
import DocQuery.Proofs.Fragment.Scanning
/-!
# Placeholders in the text of criteria

On resolved fields every form of a criteria keeps its values apart from what follows, and has no
`$` of its own outside quotes.
-/

namespace DocQuery

open Fragment

lemma scannable_string (s : String) : (string s).Scannable := .raw (.of_wrap rfl s)

lemma Fragment.Scannable.fold {a : Fragment} (ha : a.Scannable) :
    ∀ fold, (foldFragment fold a).Scannable
  | none => ha
  | some .lower => .call (.of_all rfl) (by simpa using ha)
  | some .upper => .call (.of_all rfl) (by simpa using ha)

lemma Fragment.Scannable.paren {a : Fragment} (ha : a.Scannable) : a.paren.Scannable :=
  .call (.of_all rfl) (by simpa using ha)

lemma Fragment.Scannable.not {a : Fragment} (ha : a.Scannable) : a.not.Scannable :=
  .call (.of_all rfl) (by simpa using ha)

lemma Check.scannable_fragment {a : Fragment} (ha : a.Scannable) (k : Check) :
    (k.fragment a).Scannable := by
  cases k with
  | isTrue => exact ha.binary (.of_all rfl) (.raw (.of_all rfl))
  | isFalse => exact ha.binary (.of_all rfl) (.raw (.of_all rfl))
  | _ => exact ha.suffixed (.of_all rfl)

lemma Relation.scannable_fragment {a b : Fragment} (ha : a.Scannable) (hb : b.Scannable)
    (r : Relation) : (r.fragment a b).Scannable := by
  have hpercent := scannable_string "%"
  have hcontains : (a.contains b).Scannable :=
    .call (.of_all rfl) (by simpa using ⟨ha, hb⟩)
  cases r with
  | startsWith => exact ha.binary (.of_all rfl) (hb.concat hpercent).paren
  | endsWith => exact ha.binary (.of_all rfl) (hpercent.concat hb).paren
  | contains => exact hcontains
  | notContains => exact hcontains.not
  | regex => exact .call (.of_all rfl) (by simpa using ⟨ha, hb⟩)
  | _ => exact ha.binary (.of_all rfl) hb

namespace Comparison

variable {c : Comparison}

lemma scannable_operandFragment (c : Comparison) (operand : Operand) :
    (c.operandFragment operand).Scannable := by
  refine Scannable.fold ?_ _
  cases operand with
  | value v => exact ⟨fun _ => FieldPath.isNameChar_of_mem_parameterName, rfl, trivial⟩
  | deferred conversion => exact ⟨rfl, trivial⟩

lemma scannable_fragment (h : c.field.IsQuoted) : c.fragment.Scannable := by
  have hsubject : c.subject.Scannable := Scannable.fold (.raw (.of_isQuoted h)) _
  rw [fragment]
  cases c.test with
  | check k => exact k.scannable_fragment hsubject
  | relation r operand => exact r.scannable_fragment hsubject (c.scannable_operandFragment operand)
  | between low high =>
    exact hsubject.between (c.scannable_operandFragment low) (c.scannable_operandFragment high)

end Comparison

namespace Criteria

lemma scannable_markNegated {a : Fragment} (ha : a.Scannable) (negated : Bool) :
    (markNegated negated a).Scannable := by
  cases negated with
  | false => exact ha
  | true => exact ha.not

lemma scannable_asOperand {a : Fragment} (ha : a.Scannable) (c : Criteria) :
    (c.asOperand a).Scannable := by
  rw [asOperand]
  split
  · exact ha.paren
  · exact ha

/-- The values of a criteria on resolved fields are found by a scan of its text. -/
theorem scannable_fragment {c : Criteria} (h : ∀ k ∈ c.comparisons, k.field.IsQuoted) :
    c.fragment.Scannable := by
  induction c with
  | comparison k negated grouped =>
    have hfield := h k (by simp [comparisons])
    exact scannable_markNegated (Comparison.scannable_fragment hfield) negated
  | junction j left right negated grouped ihl ihr =>
    have hl := scannable_asOperand (ihl fun k hk => h k (List.mem_append_left _ hk)) left
    have hr := scannable_asOperand (ihr fun k hk => h k (List.mem_append_right _ hk)) right
    refine scannable_markNegated ?_ negated
    cases j <;> exact hl.binary (.of_all rfl) hr
  | not child grouped ih => exact (ih h).not

end Criteria

end DocQuery
