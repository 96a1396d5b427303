import DocQuery.Proofs.FieldPath
import DocQuery.Proofs.Text.Literals
/-!
# Comparisons as operands of a chain

Every form of a comparison is one operand of the chain that it stands in: a subject with an operator
behind it, or a function of two texts. What its operands are does not matter, as long as they are
operands and nothing more.
-/

namespace DocQuery

/-! ### Subjects and operands -/

/-- A text that can be the subject of a comparison: an operand that starts with a word other than
`not` and `contains`. -/
structure SubjectText (cs : List Char) : Prop where
  exists_spells : ∃ v items, Spells cs (.word v :: items) ∧
    (∀ i ∈ Item.word v :: items, i.IsPlain) ∧ v ≠ bareWord "not" ∧ v ≠ bareWord "contains"
  balanced : Balanced (symbols cs)

lemma SubjectText.balancedText {cs : List Char} (h : SubjectText cs) : BalancedText cs := by
  obtain ⟨v, items, hspells, -⟩ := h.exists_spells
  exact ⟨hspells.closed, h.balanced⟩

/-- A word that no chain gives a meaning. -/
def Token.isPlainWord : Token → Bool
  | .word w => w ∉ [bareWord "or", bareWord "and", bareWord "between"]
  | _ => false

lemma Token.isPlain_of_isPlainWord {w : List Symbol} (h : (Token.word w).isPlainWord = true) :
    (Item.word w).IsPlain := by
  simpa [isPlainWord, Item.IsPlain] using h

/-- A word that is no part of a chain. -/
structure PlainWord (f : String) : Prop where
  spells : Spells f.toList [.word (bareWord f)]
  isPlain : (Item.word (bareWord f)).IsPlain
  balanced : Balanced (symbols f.toList)

lemma plainWord {f : String} (h : f.toList.all isWordChar = true) (hne : f.toList.isEmpty = false)
    (hplain : (Token.word (bareWord f)).isPlainWord = true) : PlainWord f := by
  have hchars := fun c hc => isWordChar_iff.mp (List.all_eq_true.mp h c hc)
  refine ⟨.word h hne, Token.isPlain_of_isPlainWord hplain, ?_⟩
  rw [symbols_of_noQuote fun c hc => (hchars c hc).1]
  exact balanced_of_noParen (by simpa using fun c hc => by simp [(hchars c hc).2])

lemma plainWord_lower : PlainWord "lower" := plainWord rfl rfl rfl

lemma plainWord_upper : PlainWord "upper" := plainWord rfl rfl rfl

namespace PlainWord

variable {f : String} {a : List Char}

/-- A function of a text is a word and a group. -/
lemma exists_call (hf : PlainWord f) (ha : BalancedText a) :
    (∃ inside content, Spells (f.toList ++ '(' :: (a ++ [')']))
      [.word (bareWord f), .group inside content]) ∧
    Balanced (symbols (f.toList ++ '(' :: (a ++ [')']))) := by
  obtain ⟨items, hspells⟩ := ha.exists_spells
  have hword : BalancedText f.toList := ⟨hf.spells.closed, hf.balanced⟩
  exact ⟨⟨_, _, hf.spells.call hspells⟩, (hword.append ha.paren).balanced⟩

lemma operandText (hf : PlainWord f) (ha : BalancedText a) :
    OperandText (f.toList ++ '(' :: (a ++ [')'])) := by
  obtain ⟨⟨inside, content, hspells⟩, hbalanced⟩ := hf.exists_call ha
  refine ⟨⟨_, hspells, ?_⟩, hbalanced⟩
  simpa [Item.IsPlain] using hf.isPlain

lemma subjectText (hf : PlainWord f) (hnot : bareWord f ≠ bareWord "not")
    (hcontains : bareWord f ≠ bareWord "contains") (ha : BalancedText a) :
    SubjectText (f.toList ++ '(' :: (a ++ [')'])) := by
  obtain ⟨⟨inside, content, hspells⟩, hbalanced⟩ := hf.exists_call ha
  refine ⟨⟨_, _, hspells, ?_, hnot, hcontains⟩, hbalanced⟩
  simpa [Item.IsPlain] using hf.isPlain

end PlainWord

/-- A text in parentheses is an operand. -/
lemma operandText_paren {a : List Char} (ha : BalancedText a) :
    OperandText ('(' :: (a ++ [')'])) := by
  obtain ⟨items, hspells⟩ := ha.exists_spells
  exact ⟨⟨_, hspells.paren, by simp [Item.IsPlain]⟩, ha.paren.balanced⟩

/-- A quoted path is a subject. -/
lemma FieldPath.IsQuoted.subjectText {p : FieldPath} (hp : p.IsQuoted) :
    SubjectText p.text.toList := by
  obtain ⟨rest, hsymbols⟩ := hp.exists_symbols
  have hspells := Spells.letters hp.closed hp.kind_eq (by simp [hsymbols])
  have hne : ∀ f : String, symbols p.text.toList ≠ bareWord f := by
    intro f hf
    have hmem : (⟨Quoted.backtick, true⟩ : Symbol) ∈ bareWord f := by
      rw [← hf, hsymbols]
      simp
    simp [bareWord] at hmem
  refine ⟨⟨_, [], hspells, ?_, hne _, hne _⟩, ?_⟩
  · simpa [Item.IsPlain] using ⟨hne _, hne _, hne _⟩
  · apply balanced_of_noParen
    intro s hs
    simp [hp.kind_eq s hs]

/-! ### Comparisons -/

/-- A text that is one comparison wherever it stands; `isContains` tells if it is a call of
`contains`. -/
def ComparisonText (isContains : Prop) (cs : List Char) : Prop :=
  ∃ v items, Spells cs (.word v :: items) ∧ Solid (.word v :: items) ∧
    operandFormula (.word v :: items) = .atom (itemTokens (.word v :: items)) ∧
    (v = bareWord "contains" ↔ isContains)

/-- A text of words that no chain gives a meaning. -/
structure OperatorText (cs : List Char) : Prop where
  closed : Closed cs
  isPlain : (tokens (symbols cs)).all Token.isPlainWord = true

lemma exists_plain_items {ts : List Token} (h : ts.all Token.isPlainWord = true) :
    ∃ ws : List (List Symbol), ts = ws.map .word ∧ ∀ w ∈ ws, (Item.word w).IsPlain := by
  induction ts with
  | nil => exact ⟨[], rfl, by simp⟩
  | cons t ts ih =>
    obtain ⟨ht, hts⟩ := Bool.and_eq_true_iff.mp h
    obtain ⟨ws, rfl, hws⟩ := ih hts
    cases t with
    | word w =>
      have hw := Token.isPlain_of_isPlainWord ht
      exact ⟨w :: ws, rfl, List.forall_mem_cons.mpr ⟨hw, hws⟩⟩
    | opening => exact absurd ht (by simp [Token.isPlainWord])
    | closing => exact absurd ht (by simp [Token.isPlainWord])

lemma OperatorText.exists_spells {cs : List Char} (h : OperatorText cs) :
    ∃ items, Spells cs items ∧ ∀ i ∈ items, i.IsPlain := by
  obtain ⟨ws, hws, hplain⟩ := exists_plain_items h.isPlain
  exact ⟨_, .words h.closed hws, by simpa using hplain⟩

/-- A subject and words behind it. -/
lemma SubjectText.suffixed {a b : List Char} (ha : SubjectText a) (hb : OperatorText b) :
    ComparisonText False (a ++ ' ' :: b) := by
  obtain ⟨v, is, hspellsA, his, hnot, hcontains⟩ := ha.exists_spells
  obtain ⟨js, hspellsB, hjs⟩ := hb.exists_spells
  refine ⟨v, is ++ js, hspellsA.blank hspellsB, solid_of_plain ?_, operandFormula_of_ne_not hnot _,
    ⟨hcontains, False.elim⟩⟩
  rw [← List.cons_append]
  exact fun i hi => (List.mem_append.mp hi).elim (his i) (hjs i)

/-- A subject and an operand around an operator. -/
lemma SubjectText.binary {a op b : List Char} (ha : SubjectText a) (hop : OperatorText op)
    (hb : OperandText b) : ComparisonText False (a ++ ' ' :: (op ++ ' ' :: b)) := by
  obtain ⟨v, is, hspellsA, his, hnot, hcontains⟩ := ha.exists_spells
  obtain ⟨js, hspellsOp, hjs⟩ := hop.exists_spells
  obtain ⟨ks, hspellsB, hks⟩ := hb.exists_spells
  refine ⟨v, is ++ (js ++ ks), hspellsA.blank (hspellsOp.blank hspellsB), solid_of_plain ?_,
    operandFormula_of_ne_not hnot _, ⟨hcontains, False.elim⟩⟩
  rw [← List.cons_append]
  intro i hi
  rcases List.mem_append.mp hi with hi | hi
  · exact his i hi
  · exact (List.mem_append.mp hi).elim (hjs i) (hks i)

/-- A subject between two operands. -/
lemma SubjectText.between {a b c : List Char} (ha : SubjectText a) (hb : OperandText b)
    (hc : OperandText c) :
    ComparisonText False (a ++ ' ' ::
      ("between".toList ++ ' ' :: (b ++ ' ' :: ("and".toList ++ ' ' :: c)))) := by
  obtain ⟨v, is, hspellsA, his, hnot, hcontains⟩ := ha.exists_spells
  obtain ⟨js, hspellsB, hjs⟩ := hb.exists_spells
  obtain ⟨ks, hspellsC, hks⟩ := hc.exists_spells
  have hbetween : Spells "between".toList [.word (bareWord "between")] := .word rfl rfl
  have hand : Spells "and".toList [.word (bareWord "and")] := .word rfl rfl
  refine ⟨v, _, hspellsA.blank (hbetween.blank (hspellsB.blank (hand.blank hspellsC))),
    solid_between (a := .word v :: is) his hjs hks, operandFormula_of_ne_not hnot _,
    ⟨hcontains, False.elim⟩⟩

/-- A function of two texts. -/
lemma PlainWord.comparisonText {f : String} (hf : PlainWord f) (hnot : bareWord f ≠ bareWord "not")
    {a : List Char} (ha : BalancedText a) :
    ComparisonText (bareWord f = bareWord "contains") (f.toList ++ '(' :: (a ++ [')'])) := by
  obtain ⟨⟨inside, content, hspells⟩, -⟩ := hf.exists_call ha
  refine ⟨_, _, hspells, solid_of_plain ?_, operandFormula_of_ne_not hnot _, Iff.rfl⟩
  simpa [Item.IsPlain] using hf.isPlain

/-- The negation of a call of `contains`. -/
lemma ComparisonText.not {isContains : Prop} {cs : List Char} (h : ComparisonText isContains cs)
    (hcontains : isContains) :
    ComparisonText False ("not".toList ++ '(' :: (cs ++ [')'])) := by
  obtain ⟨v, items, hspells, hsolid, hformula, hiff⟩ := h
  obtain rfl := hiff.mpr hcontains
  have hnot : Spells "not".toList [.word (bareWord "not")] := .word rfl rfl
  refine ⟨_, _, hnot.call hspells, solid_of_plain ?_, ?_, by decide⟩
  · simp [Item.IsPlain]
    decide
  · have hitems : itemsFormula (.word (bareWord "contains") :: items) =
        .atom (itemTokens (.word (bareWord "contains") :: items)) := by
      rw [itemsFormula, hsolid.operands_eq, Chain.map_single, hformula, Chain.formula_single]
    simp [operandFormula, hitems, negation, itemTokens, Item.tokens]

end DocQuery
