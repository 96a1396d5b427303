import DocQuery.Proofs.Criteria.Formula
import DocQuery.Proofs.Fragment.Writing
import DocQuery.Proofs.Placeholders
import DocQuery.Proofs.Text.Comparisons
/-!
# The text of criteria is read as their formula

Whatever its values are written as, the text of a criteria follows its tree, with a pair of
parentheses for every mark (`reads_fragment`).
-/

namespace DocQuery

variable {σ : Type} {w : Writer σ}

/-! ### Values -/

namespace Writer

/-- What is written for a value is an operand, whatever the state. -/
def WritesOperands (w : Writer σ) : Prop :=
  ∀ (s : σ) (hint : String) (v : Value), (∀ c ∈ hint.toList, FieldPath.isNameChar c = true) →
    OperandText (w s hint v).1.toList

lemma writesOperands_literals : literals.WritesOperands := fun _ _ v _ => operandText_literal v

lemma writesOperands_placeholders (style : PlaceholderStyle) :
    (placeholders style).WritesOperands := by
  intro p hint v hhint
  have hname : (placeholders style p hint v).1.toList = '$' :: (p.val.nextName hint).toList := by
    simp [placeholders, Placeholders.push, Placeholders.next]
  rw [hname]
  apply operandText_placeholder
  intro c hc
  have hchar := Placeholders.isNameChar_of_mem_nextName hhint hc
  exact ⟨FieldPath.isQuote_of_isNameChar hchar, FieldPath.kind_of_isNameChar hchar⟩

end Writer

/-! ### Fragments of comparisons -/

namespace Fragment

/-- The fragment is written as a subject. -/
def IsSubject (w : Writer σ) (a : Fragment) : Prop :=
  ∀ s cs s', Writes w a s cs s' → SubjectText cs

/-- The fragment is written as an operand. -/
def IsOperand (w : Writer σ) (a : Fragment) : Prop :=
  ∀ s cs s', Writes w a s cs s' → OperandText cs

/-- The fragment is written as a comparison. -/
def IsComparison (w : Writer σ) (isContains : Prop) (a : Fragment) : Prop :=
  ∀ s cs s', Writes w a s cs s' → ComparisonText isContains cs

variable {a b low high : Fragment}

lemma IsSubject.call {f : String} (ha : IsSubject w a) (hf : PlainWord f)
    (hnot : bareWord f ≠ bareWord "not") (hcontains : bareWord f ≠ bareWord "contains") :
    IsSubject w (call f [a]) := by
  intro s cs s' h
  obtain ⟨ca, hca, rfl⟩ := (writes_call f).mp h
  exact hf.subjectText hnot hcontains (ha _ _ _ hca).balancedText

lemma IsOperand.call {f : String} (ha : IsOperand w a) (hf : PlainWord f) :
    IsOperand w (call f [a]) := by
  intro s cs s' h
  obtain ⟨ca, hca, rfl⟩ := (writes_call f).mp h
  exact hf.operandText (ha _ _ _ hca).balancedText

lemma IsSubject.fold (ha : IsSubject w a) : ∀ fold, IsSubject w (foldFragment fold a)
  | none => ha
  | some .lower => ha.call plainWord_lower (by decide) (by decide)
  | some .upper => ha.call plainWord_upper (by decide) (by decide)

lemma IsOperand.fold (ha : IsOperand w a) : ∀ fold, IsOperand w (foldFragment fold a)
  | none => ha
  | some .lower => ha.call plainWord_lower
  | some .upper => ha.call plainWord_upper

/-- A text put together of two operands is one where it stands in parentheses. -/
lemma IsOperand.paren_concat (ha : IsOperand w a) (hb : IsOperand w b) :
    IsOperand w (concat a b).paren := by
  intro s cs s' h
  obtain ⟨ca, hca, rfl⟩ := (writes_call "").mp h
  obtain ⟨c, s₁, d, hc, hd, rfl⟩ := writes_concat.mp hca
  have hbars : BalancedText (['|', '|'] ++ d) :=
    BalancedText.append (.of_all rfl) (hb _ _ _ hd).balancedText
  exact operandText_paren ((ha _ _ _ hc).balancedText.append hbars)

lemma IsSubject.suffixed {word : String} (ha : IsSubject w a) (hword : OperatorText word.toList) :
    IsComparison w False (suffixed a word) := by
  intro s cs s' h
  obtain ⟨ca, hca, rfl⟩ := (writes_suffixed word).mp h
  exact (ha _ _ _ hca).suffixed hword

lemma IsSubject.binary {op : String} (ha : IsSubject w a) (hop : OperatorText op.toList)
    (hb : IsOperand w b) : IsComparison w False (binary a op b) := by
  intro s cs s' h
  obtain ⟨ca, s₁, cb, hca, hcb, rfl⟩ := (writes_binary op).mp h
  exact (ha _ _ _ hca).binary hop (hb _ _ _ hcb)

lemma IsSubject.between (ha : IsSubject w a) (hlow : IsOperand w low) (hhigh : IsOperand w high) :
    IsComparison w False (between a low high) := by
  intro s cs s' h
  obtain ⟨ca, s₁, cl, s₂, ch, hca, hcl, hch, rfl⟩ := writes_between.mp h
  exact (ha _ _ _ hca).between (hlow _ _ _ hcl) (hhigh _ _ _ hch)

lemma IsSubject.call₂ {f : String} (ha : IsSubject w a) (hf : PlainWord f)
    (hnot : bareWord f ≠ bareWord "not") (hb : IsOperand w b) :
    IsComparison w (bareWord f = bareWord "contains") (Fragment.call f [a, b]) := by
  intro s cs s' h
  obtain ⟨c, s₁, d, hc, hd, rfl⟩ := (writes_call₂ f).mp h
  have hcomma : BalancedText ([',', ' '] ++ d) :=
    BalancedText.append (.of_all rfl) (hb _ _ _ hd).balancedText
  exact hf.comparisonText hnot ((ha _ _ _ hc).balancedText.append hcomma)

lemma IsComparison.not {isContains : Prop} (ha : IsComparison w isContains a)
    (hcontains : isContains) : IsComparison w False a.not := by
  intro s cs s' h
  obtain ⟨ca, hca, rfl⟩ := (writes_call "not").mp h
  exact (ha _ _ _ hca).not hcontains

end Fragment

/-! ### The forms of comparisons -/

open Fragment

lemma plainWord_contains : PlainWord "contains" := plainWord rfl rfl rfl

lemma plainWord_regexpLike : PlainWord "regexp_like" := plainWord rfl rfl rfl

lemma isOperand_raw {t : String} (h : LiteralText t.toList) : IsOperand w (raw t) := by
  intro s cs s' hraw
  obtain ⟨rfl, rfl⟩ := (writes_raw t).mp hraw
  exact h.operandText

lemma isOperand_string (t : String) : IsOperand w (string t) := isOperand_raw (.of_wrap rfl t)

lemma Check.isComparison {a : Fragment} (ha : IsSubject w a) :
    ∀ k : Check, IsComparison w False (k.fragment a)
  | .isNull => ha.suffixed ⟨rfl, rfl⟩
  | .isNotNull => ha.suffixed ⟨rfl, rfl⟩
  | .isMissing => ha.suffixed ⟨rfl, rfl⟩
  | .isNotMissing => ha.suffixed ⟨rfl, rfl⟩
  | .isValued => ha.suffixed ⟨rfl, rfl⟩
  | .isNotValued => ha.suffixed ⟨rfl, rfl⟩
  | .isTrue => ha.binary ⟨rfl, rfl⟩ (isOperand_raw (.of_all rfl))
  | .isFalse => ha.binary ⟨rfl, rfl⟩ (isOperand_raw (.of_all rfl))

/-- Every relation but `contains` is a comparison to which a negation does not belong. -/
lemma Relation.isComparison_of_ne {a b : Fragment} (ha : IsSubject w a) (hb : IsOperand w b)
    {r : Relation} (hr : r ≠ .contains) : IsComparison w False (r.fragment a b) := by
  have hbinary : ∀ op : String, OperatorText op.toList → IsComparison w False (binary a op b) :=
    fun _ hop => ha.binary hop hb
  cases r with
  | eq => exact hbinary "=" ⟨rfl, rfl⟩
  | ne => exact hbinary "!=" ⟨rfl, rfl⟩
  | lt => exact hbinary "<" ⟨rfl, rfl⟩
  | lte => exact hbinary "<=" ⟨rfl, rfl⟩
  | gt => exact hbinary ">" ⟨rfl, rfl⟩
  | gte => exact hbinary ">=" ⟨rfl, rfl⟩
  | like => exact hbinary "like" ⟨rfl, rfl⟩
  | notLike => exact hbinary "not like" ⟨rfl, rfl⟩
  | startsWith => exact ha.binary ⟨rfl, rfl⟩ (hb.paren_concat (isOperand_string "%"))
  | endsWith => exact ha.binary ⟨rfl, rfl⟩ ((isOperand_string "%").paren_concat hb)
  | contains => exact absurd rfl hr
  | notContains => exact (ha.call₂ plainWord_contains (by decide) hb).not rfl
  | isIn => exact hbinary "in" ⟨rfl, rfl⟩
  | isNotIn => exact hbinary "not in" ⟨rfl, rfl⟩
  | regex =>
    have hne : (bareWord "regexp_like" = bareWord "contains") = False := by decide
    rw [← hne]
    exact ha.call₂ plainWord_regexpLike (by decide) hb

lemma Relation.isComparison_contains {a b : Fragment} (ha : IsSubject w a) (hb : IsOperand w b) :
    IsComparison w True (Relation.contains.fragment a b) := by
  have hcall := ha.call₂ plainWord_contains (by decide) hb
  rwa [eq_self] at hcall

namespace Comparison

variable {c : Comparison}

lemma isSubject_subject (hfield : c.field.IsQuoted) : IsSubject w c.subject := by
  apply IsSubject.fold
  intro s cs s' h
  obtain ⟨rfl, rfl⟩ := (writes_raw _).mp h
  exact hfield.subjectText

lemma isOperand_operandFragment (hw : w.WritesOperands) (operand : Operand) :
    IsOperand w (c.operandFragment operand) := by
  apply IsOperand.fold
  intro s cs s' h
  cases operand with
  | value v =>
    obtain ⟨_, hnil, rfl⟩ := (writes_value _ _).mp h
    obtain ⟨rfl, rfl⟩ := writes_nil.mp hnil
    rw [List.append_nil]
    exact hw s _ v fun _ => FieldPath.isNameChar_of_mem_parameterName
  | deferred conversion => exact absurd h not_writes_deferred

/-- A comparison is written as one, and as a call of `contains` exactly if its negation is written
like a comparison. -/
lemma isComparison_fragment (hfield : c.field.IsQuoted) (hw : w.WritesOperands) :
    IsComparison w (c.negated? ≠ none) c.fragment := by
  have ha := isSubject_subject (w := w) hfield
  rw [fragment]
  cases htest : c.test with
  | check k => simpa [negated?, htest] using k.isComparison ha
  | between low high =>
    have hlow := isOperand_operandFragment (c := c) hw low
    have hhigh := isOperand_operandFragment (c := c) hw high
    simpa [negated?, htest] using ha.between hlow hhigh
  | relation r operand =>
    have hb := isOperand_operandFragment (c := c) hw operand
    by_cases hr : r = .contains
    · subst hr
      simpa [negated?, htest] using Relation.isComparison_contains ha hb
    · simpa [negated?, htest, hr] using Relation.isComparison_of_ne ha hb hr

end Comparison

/-! ### Criteria -/

namespace Comparison

/-- The tokens are those of the comparison, in some state of the writer. -/
def IsWritten (w : Writer σ) (ts : List Token) (c : Comparison) : Prop :=
  ∃ s cs s', Writes w c.fragment s cs s' ∧ ts = tokens (symbols cs)

/-- The negation of a lone `contains` is written like the comparison that says so. -/
lemma fragment_of_negated? {c d : Comparison} (h : c.negated? = some d) :
    d.field = c.field ∧ d.fragment = c.fragment.not := by
  rw [negated?] at h
  split at h
  · next operand htest =>
    obtain rfl := Option.some.inj h
    refine ⟨rfl, ?_⟩
    simp only [fragment, htest]
    rfl
  · exact absurd h (by simp)

end Comparison

/-- What stands for a comparison in the text of a criteria. -/
def ReadsAs (w : Writer σ) (ts : List Token) (c : Comparison) : Prop :=
  c.field.IsQuoted ∧ c.IsWritten w ts

lemma ReadsAs.negated {ts : List Token} {c d : Comparison} (h : ReadsAs w ts c)
    (hclosed : ∀ s cs s', Writes w c.fragment s cs s' → Closed cs) (hd : c.negated? = some d) :
    ReadsAs w (.word (bareWord "not") :: .opening :: (ts ++ [.closing])) d := by
  obtain ⟨hfield, s, cs, s', hwrites, rfl⟩ := h
  obtain ⟨hsame, hfragment⟩ := Comparison.fragment_of_negated? hd
  refine ⟨hsame ▸ hfield, s, "not".toList ++ '(' :: (cs ++ [')']), s', ?_, ?_⟩
  · rw [hfragment]
    exact (writes_call "not").mpr ⟨cs, hwrites, rfl⟩
  · rw [tokens_call (show Closed "not".toList from rfl) (hclosed _ _ _ hwrites)]
    rfl

/-- The negation of the text of a comparison is read as the negation of the comparison. -/
lemma ReadsAs.negation (hw : w.WritesOperands) {ts : List Token} {c : Comparison}
    (h : ReadsAs w ts c) :
    Formula.Forall₂ (ReadsAs w) (DocQuery.negation (.atom ts)) (Formula.negate (.atom c)) := by
  have hcomparison := c.isComparison_fragment h.1 hw
  obtain ⟨v, rest, rfl, hcontains⟩ :
      ∃ v rest, ts = .word v :: rest ∧ (v = bareWord "contains" ↔ c.negated? ≠ none) := by
    obtain ⟨-, s, cs, s', hwrites, rfl⟩ := h
    obtain ⟨v, items, hspells, -, -, hcontains⟩ := hcomparison _ _ _ hwrites
    exact ⟨v, itemTokens items, by rw [hspells.tokens_eq]; rfl, hcontains⟩
  cases hnegated : c.negated? with
  | none =>
    have hv : v ≠ bareWord "contains" := fun hv => hcontains.mp hv hnegated
    simp only [DocQuery.negation, if_neg hv, Formula.negate, hnegated]
    exact .not (.atom h)
  | some d =>
    have hv : v = bareWord "contains" := hcontains.mpr (by simp [hnegated])
    simp only [DocQuery.negation, if_pos hv, Formula.negate, hnegated]
    refine .atom (h.negated ?_ hnegated)
    intro s cs s' hwrites
    obtain ⟨v, items, hspells, -⟩ := hcomparison _ _ _ hwrites
    exact hspells.closed

lemma forall₂_negation (hw : w.WritesOperands) {content : Formula (List Token)}
    {f : Formula Comparison} (h : Formula.Forall₂ (ReadsAs w) content f) :
    Formula.Forall₂ (ReadsAs w) (negation content) f.negate := by
  cases h with
  | atom h => exact h.negation hw
  | not h => exact .not (.not h)
  | and h h' => exact .not (.and h h')
  | or h h' => exact .not (.or h h')

namespace Criteria

variable {s s' : σ} {cs : List Char}

lemma reads_markNegated (hw : w.WritesOperands) {a : Fragment} {c : Chain (Formula Comparison)}
    {negated : Bool} (ha : ∀ s cs s', Writes w a s cs s' → Reads (ReadsAs w) cs c)
    (h : Writes w (markNegated negated a) s cs s') :
    Reads (ReadsAs w) cs (markChain negated c) := by
  cases negated with
  | false => exact ha _ _ _ h
  | true =>
    obtain ⟨ca, hca, rfl⟩ := (writes_call "not").mp h
    exact (ha _ _ _ hca).not fun _ => forall₂_negation hw

lemma reads_asOperand (c : Criteria) {a : Fragment} {chain : Chain (Formula Comparison)}
    (ha : ∀ s cs s', Writes w a s cs s' → Reads (ReadsAs w) cs chain)
    (h : Writes w (c.asOperand a) s cs s') : Reads (ReadsAs w) cs (c.operandChain chain) := by
  rw [asOperand] at h
  rw [operandChain]
  split
  · next hgrouped =>
    rw [if_pos hgrouped] at h
    obtain ⟨ca, hca, rfl⟩ := (writes_call "").mp h
    exact (ha _ _ _ hca).paren
  · next hgrouped =>
    rw [if_neg hgrouped] at h
    exact ha _ _ _ h

/-- The text of a criteria on resolved fields is read as the chain of the criteria. -/
theorem reads_fragment (hw : w.WritesOperands) {c : Criteria}
    (hfields : ∀ k ∈ c.comparisons, k.field.IsQuoted) :
    ∀ s cs s', Writes w c.fragment s cs s' → Reads (ReadsAs w) cs c.chain := by
  induction c with
  | comparison c negated grouped =>
    have hfield := hfields c (by simp [comparisons])
    intro s cs s'
    apply reads_markNegated hw
    intro s cs s' h
    obtain ⟨v, items, hspells, hsolid, hformula, -⟩ := c.isComparison_fragment hfield hw _ _ _ h
    exact .atom hspells hsolid hformula ⟨hfield, s, cs, s', h, rfl⟩
  | junction j left right negated grouped ihl ihr =>
    have hl := ihl fun k hk => hfields k (List.mem_append_left _ hk)
    have hr := ihr fun k hk => hfields k (List.mem_append_right _ hk)
    intro s cs s'
    apply reads_markNegated hw
    intro s cs s' h
    have hbinary : ∀ a b, j.fragment a b = binary a (junctionWord j) b := by
      intro a b
      cases j <;> rfl
    rw [hbinary, writes_binary] at h
    obtain ⟨cl, s₁, cr, hcl, hcr, rfl⟩ := h
    exact (reads_asOperand left hl hcl).join (reads_asOperand right hr hcr) j
  | not child grouped ih =>
    intro s cs s' h
    have hmark : Writes w (markNegated true child.fragment) s cs s' := h
    exact reads_markNegated hw (ih hfields) hmark

end Criteria

/-! ### Renderings -/

/-- How the values of criteria are written. -/
inductive Rendering where
  | literals
  /-- As placeholders behind those that are issued already. -/
  | placeholders (p : Placeholders)

namespace Rendering

/-- The text of a criteria, or why there is none. -/
def text (c : Criteria) : Rendering → Except Fault String
  | .literals => c.inline
  | .placeholders p => (c.bound p).1

/-- The style of the placeholders, if values are written as such. -/
def style? : Rendering → Option PlaceholderStyle
  | .literals => none
  | .placeholders p => some p.style

/-- The tokens are those of the comparison, whatever placeholders were issued before it. -/
def Shows (how : Rendering) (ts : List Token) (k : Comparison) : Prop :=
  ∃ (other : Rendering) (text : String), other.style? = how.style? ∧
    other.text (.comparison k false false) = .ok text ∧ ts = tokens (symbols text.toList)

end Rendering

lemma Formula.Forall₂.imp {α β : Type} {R S : α → β → Prop} (h : ∀ a b, R a b → S a b)
    {f : Formula α} {g : Formula β} (hfg : Formula.Forall₂ R f g) : Formula.Forall₂ S f g := by
  induction hfg with
  | atom hab => exact .atom (h _ _ hab)
  | not _ ih => exact .not ih
  | and _ _ ihf ihg => exact .and ihf ihg
  | or _ _ ihf ihg => exact .or ihf ihg

namespace Criteria

variable {c : Criteria}

/-- A criteria with known values has a text, however it is written. -/
lemma exists_writes_formula (hw : w.WritesOperands)
    (hfields : ∀ k ∈ c.comparisons, k.field.IsQuoted) (hknown : c.fragment.deferredCount = 0)
    (s : σ) :
    ∃ text s' f, c.fragment.write w s = (.ok text, s') ∧ Formula.ofText? text = some f ∧
      Formula.Forall₂ (ReadsAs w) f c.formula := by
  obtain ⟨cs, s', text, hwrite, rfl⟩ := exists_writes w s hknown
  obtain ⟨f, htext, hf⟩ := (reads_fragment hw hfields s _ s' ⟨text, hwrite, rfl⟩).exists_formula
  exact ⟨text, s', f, hwrite, htext, hf⟩

/-- The text of a criteria on resolved fields is read as the formula of the criteria. -/
theorem exists_text_formula (hfields : ∀ k ∈ c.comparisons, k.field.IsQuoted)
    (hknown : c.fragment.deferredCount = 0) (how : Rendering) :
    ∃ text f, how.text c = .ok text ∧ Formula.ofText? text = some f ∧
      Formula.Forall₂ how.Shows f c.formula := by
  cases how with
  | literals =>
    obtain ⟨text, s', f, hwrite, htext, hf⟩ :=
      exists_writes_formula Writer.writesOperands_literals hfields hknown ()
    refine ⟨text, f, ?_, htext, hf.imp fun ts k hk => ?_⟩
    · rw [Rendering.text, inline, inline_eq_write, hwrite]
    · obtain ⟨-, s, cs, s', ⟨t, ht, rfl⟩, rfl⟩ := hk
      refine ⟨.literals, t, rfl, ?_, rfl⟩
      exact (inline_eq_write k.fragment).trans (congrArg Prod.fst ht)
  | placeholders p =>
    obtain ⟨text, s', f, hwrite, htext, hf⟩ :=
      exists_writes_formula (Writer.writesOperands_placeholders p.style) hfields hknown ⟨p, rfl⟩
    refine ⟨text, f, ?_, htext, hf.imp fun ts k hk => ?_⟩
    · rw [Rendering.text, bound, bound_eq_write c.fragment ⟨p, rfl⟩, hwrite]
    · obtain ⟨-, s, cs, s', ⟨t, ht, rfl⟩, rfl⟩ := hk
      refine ⟨.placeholders s.val, t, congrArg some s.property, ?_, rfl⟩
      exact (congrArg Prod.fst (bound_eq_write k.fragment s)).trans (congrArg Prod.fst ht)

end Criteria

end DocQuery
