import DocQuery.Proofs.MethodName.Scanning
import DocQuery.Proofs.MethodName.Spelling
/-!
# Texts without accidental keywords

A row is a text of capitalized words in which certain words do not stand, and no order starts. What
may follow a property in a name makes a row of it again (`IsRow.append`).
-/

namespace DocQuery.MethodName

/-! ### Where an order starts -/

lemma isPiece_order : IsPiece "Order".toList := by
  have hword : IsWord "Order".toList := by decide
  exact hword.isPiece

lemma isPiece_by : IsPiece "By".toList := by
  have hword : IsWord "By".toList := by decide
  exact hword.isPiece

/-- No order starts in a text made of two parts unless one does in a part, or where they meet. -/
lemma noOrder_append {a b : List Char} (ha : ¬ "OrderBy".toList <:+: a)
    (hb : ¬ "OrderBy".toList <:+: b) (hstart : StartsPiece b)
    (hmeet : ¬ ("Order".toList <:+ a ∧ "By".toList <+: b)) : ¬ "OrderBy".toList <:+: a ++ b := by
  intro h
  rcases infix_append isPiece_order isPiece_by hstart h with h | h | h
  · exact ha h
  · exact hb h
  · exact hmeet h

lemma noBy_append {a b : List Char} (ha : ¬ "By".toList <+: a) (hne : a ≠ []) (hb : StartsPiece b) :
    ¬ "By".toList <+: a ++ b := by
  rintro ⟨t, ht⟩
  match a with
  | [] => exact hne rfl
  | [c] =>
    have hy : 'y' ∈ b.head? := by
      have htail : 'y' :: t = b := (List.cons.inj ht).2
      rw [← htail]
      rfl
    exact absurd (hb 'y' hy) (by decide)
  | c :: d :: cs =>
    obtain ⟨rfl, htail⟩ := List.cons.inj ht
    obtain ⟨rfl, -⟩ := List.cons.inj htail
    exact ha ⟨cs, rfl⟩

/-! ### Texts without certain words -/

/-- A text of pieces other than the given words. -/
def IsFree (words : List (List Char)) (text : List Char) : Prop :=
  ∃ ps : List (List Char), (∀ p ∈ ps, IsPiece p) ∧ (∀ w ∈ words, w ∉ ps) ∧ ps.flatten = text

variable {words words' : List (List Char)} {a b : List Char}

lemma IsFree.startsPiece (h : IsFree words a) : StartsPiece a := by
  obtain ⟨ps, hps, -, rfl⟩ := h
  exact startsPiece_flatten hps

lemma IsFree.nil : IsFree words [] := ⟨[], by simp⟩

lemma IsFree.append (ha : IsFree words a) (hb : IsFree words b) : IsFree words (a ++ b) := by
  obtain ⟨ps, hps, hpsfree, rfl⟩ := ha
  obtain ⟨qs, hqs, hqsfree, rfl⟩ := hb
  refine ⟨ps ++ qs, List.forall_mem_append.mpr ⟨hps, hqs⟩, fun w hw hmem => ?_, List.flatten_append⟩
  rcases List.mem_append.mp hmem with hmem | hmem
  · exact hpsfree w hw hmem
  · exact hqsfree w hw hmem

lemma IsFree.mono (h : IsFree words a) (hsub : words' ⊆ words) : IsFree words' a := by
  obtain ⟨ps, hps, hfree, heq⟩ := h
  exact ⟨ps, hps, fun w hw => hfree w (hsub hw), heq⟩

/-! ### Rows and what follows them -/

/-- What may follow a property: a text without the given words, where no order starts, not even
together with a word in front. -/
structure IsTail (words : List (List Char)) (text : List Char) : Prop where
  free : IsFree words text
  noOrder : ¬ "OrderBy".toList <:+: text
  noBy : ¬ "By".toList <+: text

/-- A text without the given words that starts with a capital letter, and in which no order starts. -/
structure IsRow (words : List (List Char)) (text : List Char) : Prop where
  free : IsFree words text
  starts : ∃ c cs, text = c :: cs ∧ c.isUpper = true
  noOrder : ¬ "OrderBy".toList <:+: text

lemma IsRow.ne_nil (h : IsRow words a) : a ≠ [] := by
  obtain ⟨c, cs, rfl, -⟩ := h.starts
  exact List.cons_ne_nil c cs

lemma IsTail.append (ha : IsTail words a) (hb : IsTail words b) : IsTail words (a ++ b) where
  free := ha.free.append hb.free
  noOrder := noOrder_append ha.noOrder hb.noOrder hb.free.startsPiece fun h => hb.noBy h.2
  noBy := by
    by_cases hne : a = []
    · rw [hne]
      exact hb.noBy
    · exact noBy_append ha.noBy hne hb.free.startsPiece

lemma IsRow.append (ha : IsRow words a) (hb : IsTail words b) : IsRow words (a ++ b) where
  free := ha.free.append hb.free
  starts := by
    obtain ⟨c, cs, rfl, hc⟩ := ha.starts
    exact ⟨c, cs ++ b, rfl, hc⟩
  noOrder := noOrder_append ha.noOrder hb.noOrder hb.free.startsPiece fun h => hb.noBy h.2

/-- Another row may follow behind a word that does not end in `Order`. -/
lemma IsTail.append_row (ha : IsTail words a) (hne : a ≠ []) (horder : ¬ "Order".toList <:+ a)
    (hb : IsRow words b) : IsTail words (a ++ b) where
  free := ha.free.append hb.free
  noOrder := noOrder_append ha.noOrder hb.noOrder hb.free.startsPiece fun h => horder h.1
  noBy := noBy_append ha.noBy hne hb.free.startsPiece

lemma IsRow.mono (h : IsRow words a) (hsub : words' ⊆ words) : IsRow words' a :=
  ⟨h.free.mono hsub, h.starts, h.noOrder⟩

/-! ### Words of keywords -/

lemma flatten_wordsOf (text : String) : (wordsOf text).flatten = text.toList :=
  List.flatten_splitBy ..

/-- A keyword may follow a property. -/
lemma isTail_toList {text : String} (hwords : ∀ w ∈ wordsOf text, IsWord w)
    (hfree : ∀ w ∈ words, w ∉ wordsOf text) (hnoOrder : ¬ "OrderBy".toList <:+: text.toList)
    (hnoBy : ¬ "By".toList <+: text.toList) : IsTail words text.toList where
  free := ⟨wordsOf text, fun w hw => (hwords w hw).isPiece, hfree, flatten_wordsOf text⟩
  noOrder := hnoOrder
  noBy := hnoBy

set_option maxRecDepth 4000 in
/-- Reserved words are words. -/
lemma isWord_of_mem_reservedWords : ∀ w ∈ reservedWords, IsWord w := by
  decide

lemma plainWords_subset : plainWords ⊆ reservedWords := List.subset_append_right ..

/-- The words that join conditions, and the first of those that let them ignore letter case. -/
def joiningWords : List (List Char) := ["And".toList, "Or".toList, "All".toList]

end DocQuery.MethodName
