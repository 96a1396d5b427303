import DocQuery.Proofs.Text.Reading
import DocQuery.Value
/-!
# Literals as operands

Whatever a value holds, its literal has outside quotes neither a parenthesis nor the letters that
tell the words `and`, `or` and `between` from the words of literals. So it is an operand of a
comparison and nothing more (`operandText_literal`).
-/

namespace DocQuery

/-! ### Operands -/

/-- A text that can be the operand of a comparison. -/
structure OperandText (cs : List Char) : Prop where
  exists_spells : ∃ items, Spells cs items ∧ ∀ i ∈ items, i.IsPlain
  balanced : Balanced (symbols cs)

lemma OperandText.balancedText {cs : List Char} (h : OperandText cs) : BalancedText cs := by
  obtain ⟨items, hspells, -⟩ := h.exists_spells
  exact ⟨hspells.closed, h.balanced⟩

/-- The characters that keep a text from being a mere operand. -/
def breaksOperand (c : Char) : Bool := c ∈ ['(', ')', 'o', 'd', 'b']

/-- A closed text in which no such character stands outside quotes. -/
structure LiteralText (cs : List Char) : Prop where
  closed : Closed cs
  bare_ok : ∀ c ∈ bare cs, breaksOperand c = false

/-- A bare symbol of a literal is no parenthesis. -/
lemma LiteralText.kind_ne {cs : List Char} (h : LiteralText cs) {s : Symbol}
    (hs : s ∈ symbols cs) : s.kind ≠ .opening ∧ s.kind ≠ .closing := by
  obtain ⟨c, quoted⟩ := s
  cases quoted with
  | true => exact ⟨by simp [Symbol.kind], by simp [Symbol.kind]⟩
  | false =>
    have hc := h.bare_ok c (mem_bare_of_mem_symbols hs)
    simp only [breaksOperand, List.mem_cons, decide_eq_false_iff_not, not_or] at hc
    by_cases hblank : c = ' '
    · simp [Symbol.kind, hblank]
    · simp [Symbol.kind, hblank, hc.1, hc.2.1]

lemma LiteralText.operandText {cs : List Char} (h : LiteralText cs) : OperandText cs := by
  have hkind := fun s hs => h.kind_ne (s := s) hs
  obtain ⟨ws, htokens, hmem⟩ := exists_words hkind
  refine ⟨⟨_, Spells.words h.closed htokens, ?_⟩, balanced_of_noParen hkind⟩
  intro i hi
  obtain ⟨w, hw, rfl⟩ := List.mem_map.mp hi
  have hbreaks : ∀ c, breaksOperand c = true → ⟨c, false⟩ ∉ w := by
    intro c hc hcw
    simpa [hc] using h.bare_ok c (mem_bare_of_mem_symbols (hmem w hw _ hcw))
  refine ⟨?_, ?_, ?_⟩
  · rintro rfl
    exact hbreaks 'o' rfl (by simp [bareWord])
  · rintro rfl
    exact hbreaks 'd' rfl (by simp [bareWord])
  · rintro rfl
    exact hbreaks 'b' rfl (by simp [bareWord])

/-! ### Literals -/

namespace LiteralText

lemma append {a b : List Char} (ha : LiteralText a) (hb : LiteralText b) :
    LiteralText (a ++ b) := by
  refine ⟨ha.closed.append hb.closed, ?_⟩
  intro c hc
  rw [bare_append ha.closed, List.mem_append] at hc
  rcases hc with hc | hc
  · exact ha.bare_ok c hc
  · exact hb.bare_ok c hc

lemma of_wrap {q : Char} (hq : isQuote q = true) (s : String) :
    LiteralText (Quoted.wrap q s).toList :=
  ⟨closed_wrap hq s, by simp [bare_wrap hq]⟩

lemma of_noQuote {cs : List Char} (h : ∀ c ∈ cs, isQuote c = false ∧ breaksOperand c = false) :
    LiteralText cs := by
  have hquote : ∀ c ∈ cs, isQuote c = false := fun c hc => (h c hc).1
  refine ⟨closed_of_noQuote hquote, ?_⟩
  intro c hc
  rw [bare_of_noQuote hquote] at hc
  exact (h c hc).2

lemma of_all {cs : List Char} (h : cs.all (fun c => !isQuote c && !breaksOperand c) = true) :
    LiteralText cs := by
  apply of_noQuote
  intro c hc
  simpa using List.all_eq_true.mp h c hc

end LiteralText

/-- A character of a number. -/
def isNumberChar (c : Char) : Bool := c.isDigit || c == '-' || c == '.'

lemma isQuote_and_breaksOperand_of_isNumberChar {c : Char} (h : isNumberChar c = true) :
    isQuote c = false ∧ breaksOperand c = false := by
  refine ⟨?_, ?_⟩
  · by_contra hquote
    simp only [isQuote, Bool.not_eq_false, Bool.or_eq_true, beq_iff_eq] at hquote
    rcases hquote with rfl | rfl <;> exact absurd h (by decide)
  · by_contra hbreaks
    simp only [breaksOperand, List.mem_cons, Bool.not_eq_false, decide_eq_true_eq] at hbreaks
    rcases hbreaks with rfl | rfl | rfl | rfl | rfl | h' <;> simp_all [isNumberChar]

lemma literalText_of_number {cs : List Char} (h : ∀ c ∈ cs, isNumberChar c = true) :
    LiteralText cs :=
  .of_noQuote fun c hc => isQuote_and_breaksOperand_of_isNumberChar (h c hc)

lemma isNumberChar_of_mem_toDigits {n : Nat} {c : Char} (h : c ∈ Nat.toDigits 10 n) :
    isNumberChar c = true := by
  simp [isNumberChar, Nat.isDigit_of_mem_toDigits (by simp) (by simp) h]

lemma literalText_int (n : Int) : LiteralText (toString n).toList := by
  apply literalText_of_number
  intro c hc
  rw [Int.toString_eq_repr, Int.repr_eq_if] at hc
  split at hc
  · exact isNumberChar_of_mem_toDigits (by simpa using hc)
  · rw [String.toList_append, List.mem_append, Nat.toList_repr] at hc
    rcases hc with hc | hc
    · obtain rfl : c = '-' := by simpa using hc
      rfl
    · exact isNumberChar_of_mem_toDigits hc

/-- A number is written positionally, with digits, a sign and a point. -/
lemma isNumberChar_of_mem_positionalText (d : Decimal.Digits) {c : Char}
    (h : c ∈ Value.numberLayout.positionalText d) : isNumberChar c = true := by
  have hdigits : ∀ c ∈ Decimal.digitChars d.digits, isNumberChar c = true :=
    fun c hc => isNumberChar_of_mem_toDigits hc
  have hzero : isNumberChar '0' = true := rfl
  have hpoint : isNumberChar '.' = true := rfl
  rw [Decimal.Layout.positionalText] at h
  split at h
  · simp only [Value.numberLayout, Bool.false_eq_true, if_false, List.append_nil,
      List.mem_append] at h
    rcases h with h | h
    · exact hdigits c h
    · rwa [List.eq_of_mem_replicate h]
  · split at h
    · rcases List.mem_append.mp h with h | h
      · exact hdigits c (List.mem_of_mem_take h)
      · rcases List.mem_cons.mp h with rfl | h
        · exact hpoint
        · exact hdigits c (List.mem_of_mem_drop h)
    · simp only [List.mem_append, List.mem_cons] at h
      rcases h with (rfl | rfl | h) | h
      · exact hzero
      · exact hpoint
      · rwa [List.eq_of_mem_replicate h]
      · exact hdigits c h

lemma literalText_float (x : Float) : LiteralText (Value.floatText x).toList := by
  rw [Value.floatText]
  cases Decimal.Double.ofFloat x with
  | nan => exact .of_all rfl
  | infinite negative => cases negative <;> exact .of_all rfl
  | finite negative magnitude =>
    apply literalText_of_number
    intro c hc
    simp only [Decimal.Layout.text, Value.numberLayout, String.toList_ofList] at hc
    split at hc
    · rcases List.mem_cons.mp hc with rfl | hc
      · rfl
      · exact isNumberChar_of_mem_positionalText _ hc
    · exact isNumberChar_of_mem_positionalText _ hc

lemma literalText_intercalate {ts : List String} (h : ∀ t ∈ ts, LiteralText t.toList) :
    LiteralText (String.intercalate ", " ts).toList := by
  induction ts with
  | nil => exact .of_all rfl
  | cons t ts ih =>
    have hts := ih fun u hu => h u (by simp [hu])
    cases ts with
    | nil => simpa using h t (by simp)
    | cons u ts =>
      rw [String.intercalate_cons_cons, String.toList_append, String.toList_append]
      exact ((h t (by simp)).append (.of_all rfl)).append hts

mutual

lemma literalText_literal : ∀ v : Value, LiteralText v.literal.toList
  | .null => .of_all rfl
  | .bool true => .of_all rfl
  | .bool false => .of_all rfl
  | .int n => literalText_int n.toInt
  | .float x => literalText_float x
  | .string s => .of_wrap rfl s
  | .array items => by
    rw [Value.literal, String.toList_append, String.toList_append]
    exact (LiteralText.append (.of_all rfl)
      (literalText_intercalate (literalText_literals items))).append (.of_all rfl)

lemma literalText_literals : ∀ (vs : List Value), ∀ t ∈ Value.literals vs, LiteralText t.toList
  | [] => by simp [Value.literals]
  | v :: vs => by
    intro t ht
    rcases List.mem_cons.mp ht with rfl | ht
    · exact literalText_literal v
    · exact literalText_literals vs t ht

end

/-- A literal is an operand. -/
lemma operandText_literal (v : Value) : OperandText v.literal.toList :=
  (literalText_literal v).operandText

/-- A placeholder is an operand. -/
lemma operandText_placeholder {name : List Char}
    (h : ∀ c ∈ name, isQuote c = false ∧ Symbol.kind ⟨c, false⟩ = .letter) :
    OperandText ('$' :: name) := by
  have hquote : ∀ c ∈ '$' :: name, isQuote c = false :=
    List.forall_mem_cons.mpr ⟨rfl, fun c hc => (h c hc).1⟩
  have hsymbols := symbols_of_noQuote hquote
  have hkind : ∀ s ∈ symbols ('$' :: name), s.kind = .letter := by
    rw [hsymbols, List.map_cons, List.forall_mem_cons]
    exact ⟨rfl, by simpa using fun c hc => (h c hc).2⟩
  refine ⟨⟨_, Spells.letters (closed_of_noQuote hquote) hkind (by simp [hsymbols]), ?_⟩,
    balanced_of_noParen fun s hs => by simp [hkind s hs]⟩
  simp [hsymbols, Item.IsPlain, bareWord]

end DocQuery
