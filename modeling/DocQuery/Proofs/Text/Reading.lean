import DocQuery.Proofs.Formula
import DocQuery.Proofs.Text.Tokens
/-!
# Reading conditions

How the text of a condition is understood. Parentheses are resolved from the inside; between two
of them the words `and` and `or` separate operands, except for the `and` that belongs to a
`between`. An operand is a condition in parentheses, the negation of one, or else a comparison,
which is kept as its tokens. The negation of a lone call of `contains` is a comparison too.

`Reads R cs c` says that the text `cs` is read as the chain `c`, where `R` tells which comparison
the tokens of an operand stand for. Its lemmas follow the forms in which conditions are put
together.
-/

namespace DocQuery

/-! ### Operands -/

/-- A word, or parentheses with the formula between them. -/
inductive Item where
  | word (w : List Symbol)
  | group (inside : List Token) (content : Formula (List Token))

namespace Item

/-- The tokens of an item. -/
def tokens : Item → List Token
  | .word w => [.word w]
  | .group inside _ => .opening :: (inside ++ [.closing])

/-- The connective that an item is. Behind a `between` an `and` is none. -/
def junction? (between : Bool) : Item → Option Junction
  | .word w =>
    if w = bareWord "or" then some .or
    else if w = bareWord "and" ∧ between = false then some .and
    else none
  | .group _ _ => none

/-- Whether an `and` is due behind the item. -/
def betweenAfter (between : Bool) : Item → Bool
  | .word w =>
    if w = bareWord "between" then true
    else if w = bareWord "and" then false
    else between
  | .group _ _ => between

/-- The item is no word of the chain. -/
def IsPlain : Item → Prop
  | .word w => w ≠ bareWord "or" ∧ w ≠ bareWord "and" ∧ w ≠ bareWord "between"
  | .group _ _ => True

end Item

/-- The tokens of several items. -/
def itemTokens (items : List Item) : List Token := items.flatMap Item.tokens

/-- The items in front of the first operand of a chain. -/
def attach (items : List Item) (c : Chain (List Item)) : Chain (List Item) :=
  ⟨items ++ c.first, c.rest⟩

/-- The operands between the connectives. -/
def operands (between : Bool) : List Item → Chain (List Item)
  | [] => .single []
  | i :: is =>
    match i.junction? between with
    | some j => (Chain.single []).join j (operands false is)
    | none => attach [i] (operands (i.betweenAfter between) is)

/-- The word of a connective. -/
def junctionWord : Junction → String
  | .and => "and"
  | .or => "or"

/-- The negation of a condition that stands in parentheses. -/
def negation : Formula (List Token) → Formula (List Token)
  | .atom (.word w :: ts) =>
    if w = bareWord "contains" then
      .atom (.word (bareWord "not") :: .opening :: (.word w :: ts ++ [.closing]))
    else .not (.atom (.word w :: ts))
  | content => .not content

/-- The formula of an operand. -/
def operandFormula : List Item → Formula (List Token)
  | [.group _ content] => content
  | [.word w, .group inside content] =>
    if w = bareWord "not" then negation content
    else .atom (itemTokens [.word w, .group inside content])
  | items => .atom (itemTokens items)

/-- The formula of what stands between two parentheses. -/
def itemsFormula (items : List Item) : Formula (List Token) :=
  ((operands false items).map operandFormula).formula

/-! ### Parentheses -/

/-- Takes a token to the items of the innermost open parenthesis. -/
def push : Token → List (List Item) → Option (List (List Item))
  | .word w, top :: outer => some ((top ++ [.word w]) :: outer)
  | .opening, open_ => some ([] :: open_)
  | .closing, inner :: top :: outer =>
    some ((top ++ [.group (itemTokens inner) (itemsFormula inner)]) :: outer)
  | _, _ => none

/-- Takes tokens one by one. -/
def pushAll : List Token → List (List Item) → Option (List (List Item))
  | [], open_ => some open_
  | t :: ts, open_ => (push t open_).bind (pushAll ts)

/-- The formula of a text, whose quotes and parentheses have to be closed. -/
def Formula.ofText? (text : String) : Option (Formula (List Token)) :=
  if Closed text.toList then
    match pushAll (tokens (symbols text.toList)) [[]] with
    | some [items] => some (itemsFormula items)
    | _ => none
  else none

lemma pushAll_append (a b : List Token) (open_ : List (List Item)) :
    pushAll (a ++ b) open_ = (pushAll a open_).bind (pushAll b) := by
  induction a generalizing open_ with
  | nil => rfl
  | cons t a ih =>
    rw [List.cons_append, pushAll, pushAll, Option.bind_assoc]
    congr 1
    funext s
    exact ih s

/-! ### What a text spells -/

/-- The text is closed, and its tokens make these items, whatever they are put behind. -/
structure Spells (cs : List Char) (items : List Item) : Prop where
  closed : Closed cs
  tokens_eq : tokens (symbols cs) = itemTokens items
  pushAll_eq : ∀ top outer,
    pushAll (tokens (symbols cs)) (top :: outer) = some ((top ++ items) :: outer)

lemma kind_blank : Symbol.kind ⟨' ', false⟩ = .blank := rfl

lemma kind_opening : Symbol.kind ⟨'(', false⟩ = .opening := rfl

lemma kind_closing : Symbol.kind ⟨')', false⟩ = .closing := rfl

lemma tokens_blank {a : List Char} (ha : Closed a) (b : List Char) :
    tokens (symbols (a ++ ' ' :: b)) = tokens (symbols a) ++ tokens (symbols b) := by
  rw [symbols_append ha, symbols_cons_of_not_isQuote rfl, tokens_append (by simp [kind_blank]),
    tokens_cons_blank kind_blank]

lemma tokens_paren {a : List Char} (ha : Closed a) :
    tokens (symbols ('(' :: (a ++ [')']))) =
      .opening :: (tokens (symbols a) ++ [.closing]) := by
  rw [symbols_cons_of_not_isQuote rfl, tokens_cons_opening kind_opening, symbols_append ha,
    symbols_cons_of_not_isQuote rfl, symbols_nil, tokens_append (by simp [kind_closing]),
    tokens_cons_closing kind_closing, tokens_nil]

lemma tokens_call {f : List Char} (hf : Closed f) {a : List Char} (ha : Closed a) :
    tokens (symbols (f ++ '(' :: (a ++ [')']))) =
      tokens (symbols f) ++ .opening :: (tokens (symbols a) ++ [.closing]) := by
  rw [symbols_append hf, symbols_cons_of_not_isQuote rfl, tokens_append (by simp [kind_opening]),
    ← symbols_cons_of_not_isQuote rfl, tokens_paren ha]

lemma closed_paren {a : List Char} (ha : Closed a) : Closed ('(' :: (a ++ [')'])) :=
  (closed_cons_of_not_isQuote rfl _).mpr (ha.append rfl)

namespace Spells

lemma blank {a b : List Char} {is js : List Item} (ha : Spells a is) (hb : Spells b js) :
    Spells (a ++ ' ' :: b) (is ++ js) where
  closed := ha.closed.append ((closed_cons_of_not_isQuote rfl b).mpr hb.closed)
  tokens_eq := by
    rw [tokens_blank ha.closed, ha.tokens_eq, hb.tokens_eq]
    simp [itemTokens]
  pushAll_eq := by
    intro top outer
    rw [tokens_blank ha.closed, pushAll_append, ha.pushAll_eq, Option.bind_some, hb.pushAll_eq]
    simp

lemma paren {a : List Char} {is : List Item} (ha : Spells a is) :
    Spells ('(' :: (a ++ [')'])) [.group (itemTokens is) (itemsFormula is)] where
  closed := closed_paren ha.closed
  tokens_eq := by
    rw [tokens_paren ha.closed, ha.tokens_eq]
    simp [itemTokens, Item.tokens]
  pushAll_eq := by
    intro top outer
    rw [tokens_paren ha.closed, pushAll, push, Option.bind_some, pushAll_append, ha.pushAll_eq]
    simp [pushAll, push]

/-- The formula of a text is that of the items it spells. -/
lemma ofText? {text : String} {items : List Item} (h : Spells text.toList items) :
    Formula.ofText? text = some (itemsFormula items) := by
  rw [Formula.ofText?, if_pos h.closed, h.pushAll_eq]
  rfl

/-- A function and its arguments. -/
lemma call {f a : List Char} {is js : List Item} (hf : Spells f is) (ha : Spells a js) :
    Spells (f ++ '(' :: (a ++ [')'])) (is ++ [.group (itemTokens js) (itemsFormula js)]) where
  closed := hf.closed.append (closed_paren ha.closed)
  tokens_eq := by
    rw [tokens_call hf.closed ha.closed, hf.tokens_eq, ha.tokens_eq]
    simp [itemTokens, Item.tokens]
  pushAll_eq := by
    intro top outer
    rw [tokens_call hf.closed ha.closed, pushAll_append, hf.pushAll_eq, Option.bind_some,
      pushAll, push, Option.bind_some, pushAll_append, ha.pushAll_eq]
    simp [pushAll, push]

lemma pushAll_words (ws : List (List Symbol)) (top : List Item) (outer : List (List Item)) :
    pushAll (ws.map .word) (top :: outer) = some ((top ++ ws.map .word) :: outer) := by
  induction ws generalizing top with
  | nil => simp [pushAll]
  | cons w ws ih => simp [pushAll, push, ih]

/-- A text without parentheses spells its words. -/
lemma words {cs : List Char} (hcs : Closed cs) {ws : List (List Symbol)}
    (h : tokens (symbols cs) = ws.map .word) : Spells cs (ws.map .word) where
  closed := hcs
  tokens_eq := by
    rw [h, itemTokens, List.flatMap_map]
    exact List.map_eq_flatMap
  pushAll_eq := by
    intro top outer
    rw [h, pushAll_words]

/-- Letters spell one word. -/
lemma letters {cs : List Char} (hcs : Closed cs) (h : ∀ s ∈ symbols cs, s.kind = .letter)
    (hne : symbols cs ≠ []) : Spells cs [.word (symbols cs)] :=
  have hwords : tokens (symbols cs) = [symbols cs].map .word := tokens_of_letters h hne
  words hcs hwords

lemma word {s : String} (h : s.toList.all isWordChar = true) (hne : s.toList.isEmpty = false) :
    Spells s.toList [.word (bareWord s)] := by
  have hchars := fun c hc => isWordChar_iff.mp (List.all_eq_true.mp h c hc)
  have hsymbols := symbols_of_noQuote fun c hc => (hchars c hc).1
  have hword := letters (closed_of_noQuote fun c hc => (hchars c hc).1)
    (by rw [hsymbols]; simpa using fun c hc => (hchars c hc).2) (by simpa [hsymbols] using hne)
  rwa [hsymbols] at hword

end Spells

/-! ### Balanced texts spell something -/

/-- Every parenthesis among the tokens is closed behind it. -/
inductive BalancedTokens : List Token → Prop where
  | nil : BalancedTokens []
  | word {w ts} (h : BalancedTokens ts) : BalancedTokens (.word w :: ts)
  | paren {a b} (ha : BalancedTokens a) (hb : BalancedTokens b) :
      BalancedTokens (.opening :: (a ++ .closing :: b))

lemma Balanced.tokens {ss : List Symbol} (h : Balanced ss) : BalancedTokens (tokens ss) := by
  induction h with
  | nil => exact .nil
  | @text s ss hopening hclosing _ ih =>
    cases hs : s.kind with
    | blank => rwa [tokens_cons_blank hs]
    | opening => exact absurd hs hopening
    | closing => exact absurd hs hclosing
    | letter =>
      obtain ⟨w, ts, htokens, ⟨-, rfl⟩ | hword⟩ := exists_tokens_cons_letter hs ss
      · rw [htokens]
        exact .word ih
      · rw [hword] at ih
        rw [htokens]
        cases ih with
        | word h => exact .word h
  | @paren s t a b hs ht _ _ iha ihb =>
    rw [tokens_cons_opening hs, tokens_append (by simp [ht]), tokens_cons_closing ht]
    exact .paren iha ihb

lemma BalancedTokens.exists_items {ts : List Token} (h : BalancedTokens ts) :
    ∃ items, ts = itemTokens items ∧
      ∀ top outer, pushAll ts (top :: outer) = some ((top ++ items) :: outer) := by
  induction h with
  | nil => exact ⟨[], rfl, by simp [pushAll]⟩
  | @word w ts _ ih =>
    obtain ⟨items, htokens, hpush⟩ := ih
    refine ⟨.word w :: items, by simp [itemTokens, Item.tokens, htokens], ?_⟩
    intro top outer
    simp [pushAll, push, hpush]
  | @paren a b _ _ iha ihb =>
    obtain ⟨is, his, hpushA⟩ := iha
    obtain ⟨js, hjs, hpushB⟩ := ihb
    refine ⟨.group (itemTokens is) (itemsFormula is) :: js, ?_, ?_⟩
    · simp [itemTokens, Item.tokens, his, hjs]
    · intro top outer
      simp [pushAll, push, pushAll_append, hpushA, hpushB]

lemma BalancedText.exists_spells {cs : List Char} (h : BalancedText cs) :
    ∃ items, Spells cs items := by
  obtain ⟨items, htokens, hpush⟩ := h.balanced.tokens.exists_items
  exact ⟨items, h.closed, htokens, hpush⟩

/-! ### Operands of a chain -/

section Chains

variable {β : Type} {R : List Token → β → Prop}

lemma operands_append_of_plain {items : List Item} (h : ∀ i ∈ items, i.IsPlain) (between : Bool)
    (rest : List Item) :
    operands between (items ++ rest) = attach items (operands between rest) := by
  induction items with
  | nil => rfl
  | cons i items ih =>
    have hi : i.junction? between = none ∧ i.betweenAfter between = between := by
      have hplain := h i (by simp)
      cases i with
      | word w =>
        obtain ⟨hor, hand, hbetween⟩ := hplain
        simp [Item.junction?, Item.betweenAfter, hor, hand, hbetween]
      | group => exact ⟨rfl, rfl⟩
    simp only [List.cons_append, operands, hi.1, hi.2]
    rw [ih fun j hj => h j (by simp [hj])]
    simp [attach]

/-- Items that hold no connective of the chain they stand in. -/
def Solid (items : List Item) : Prop :=
  ∀ rest, operands false (items ++ rest) = attach items (operands false rest)

lemma solid_of_plain {items : List Item} (h : ∀ i ∈ items, i.IsPlain) : Solid items :=
  operands_append_of_plain h false

/-- The `and` of a `between` is no connective. -/
lemma solid_between {a b c : List Item} (ha : ∀ i ∈ a, i.IsPlain) (hb : ∀ i ∈ b, i.IsPlain)
    (hc : ∀ i ∈ c, i.IsPlain) :
    Solid (a ++ .word (bareWord "between") :: (b ++ .word (bareWord "and") :: c)) := by
  intro rest
  have hjunction : (Item.word (bareWord "between")).junction? false = none := rfl
  have hafter : (Item.word (bareWord "between")).betweenAfter false = true := rfl
  have hjunction' : (Item.word (bareWord "and")).junction? true = none := rfl
  have hafter' : (Item.word (bareWord "and")).betweenAfter true = false := rfl
  rw [List.append_assoc, operands_append_of_plain ha, List.cons_append, List.append_assoc,
    operands, hjunction, hafter]
  simp only [List.cons_append]
  rw [operands_append_of_plain hb, operands, hjunction', hafter']
  simp only
  rw [operands_append_of_plain hc]
  simp [attach]

/-- What stands behind a connective does not change the operands in front of it. -/
def Settled (items : List Item) : Prop :=
  ∀ (j : Junction) (rest : List Item),
    operands false (items ++ .word (bareWord (junctionWord j)) :: rest) =
      (operands false items).join j (operands false rest)

lemma operands_junctionWord (j : Junction) (rest : List Item) :
    operands false (.word (bareWord (junctionWord j)) :: rest) =
      (Chain.single []).join j (operands false rest) := by
  cases j <;> rfl

lemma Solid.operands_eq {items : List Item} (h : Solid items) :
    operands false items = .single items := by
  simpa [operands, attach, Chain.single] using h []

lemma Solid.settled {items : List Item} (h : Solid items) : Settled items := by
  intro j rest
  rw [h, operands_junctionWord, h.operands_eq]
  simp [attach, Chain.join, Chain.single]

lemma Settled.join {a b : List Item} (ha : Settled a) (hb : Settled b) (j : Junction) :
    Settled (a ++ .word (bareWord (junctionWord j)) :: b) := by
  intro k rest
  rw [List.append_assoc, List.cons_append, ha, hb, ha]
  simp [Chain.join]

/-- An operand that starts with another word than `not` is a comparison. -/
lemma operandFormula_of_ne_not {w : List Symbol} (hw : w ≠ bareWord "not") (items : List Item) :
    operandFormula (.word w :: items) = .atom (itemTokens (.word w :: items)) := by
  match items with
  | [] => rfl
  | [.word _] => rfl
  | [.group inside content] => rw [operandFormula, if_neg hw]
  | i :: _ :: _ => cases i <;> rfl

/-- The text is read as a chain of operands that stand for the comparisons of `c`. -/
def Reads (R : List Token → β → Prop) (cs : List Char) (c : Chain (Formula β)) : Prop :=
  ∃ items, Spells cs items ∧ Settled items ∧
    Chain.Forall₂ R ((operands false items).map operandFormula) c

/-- A comparison is one operand. -/
lemma Reads.atom {cs : List Char} {items : List Item} {b : β} (hspells : Spells cs items)
    (hsolid : Solid items) (hformula : operandFormula items = .atom (itemTokens items))
    (hR : R (tokens (symbols cs)) b) : Reads R cs (.single (.atom b)) := by
  refine ⟨items, hspells, hsolid.settled, ?_⟩
  rw [hsolid.operands_eq, Chain.map_single, hformula, ← hspells.tokens_eq]
  exact .single (.atom hR)

lemma Reads.join {a b : List Char} {c d : Chain (Formula β)} (ha : Reads R a c)
    (hb : Reads R b d) (j : Junction) :
    Reads R (a ++ ' ' :: ((junctionWord j).toList ++ ' ' :: b)) (c.join j d) := by
  obtain ⟨is, hspellsA, hsettledA, hchainA⟩ := ha
  obtain ⟨js, hspellsB, hsettledB, hchainB⟩ := hb
  have hword : Spells (junctionWord j).toList [.word (bareWord (junctionWord j))] := by
    cases j <;> exact .word rfl rfl
  refine ⟨_, hspellsA.blank (hword.blank hspellsB), hsettledA.join hsettledB j, ?_⟩
  rw [List.singleton_append, hsettledA, Chain.map_join]
  exact hchainA.join j hchainB

/-- A condition in parentheses is one operand. -/
lemma Reads.paren {cs : List Char} {c : Chain (Formula β)} (h : Reads R cs c) :
    Reads R ('(' :: (cs ++ [')'])) (.single c.formula) := by
  obtain ⟨items, hspells, -, hchain⟩ := h
  have hsolid : Solid [.group (itemTokens items) (itemsFormula items)] :=
    solid_of_plain (by simp [Item.IsPlain])
  refine ⟨_, hspells.paren, hsolid.settled, ?_⟩
  rw [hsolid.operands_eq]
  exact .single hchain.formula

/-- A negated condition is one operand; `negated` is its formula as far as `R` goes. -/
lemma Reads.not {cs : List Char} {c : Chain (Formula β)} {negated : Formula β} (h : Reads R cs c)
    (hnegated : ∀ content, Formula.Forall₂ R content c.formula →
      Formula.Forall₂ R (negation content) negated) :
    Reads R ("not".toList ++ '(' :: (cs ++ [')'])) (.single negated) := by
  obtain ⟨items, hspells, -, hchain⟩ := h
  have hnot : Spells "not".toList [.word (bareWord "not")] := .word rfl rfl
  have hsolid : Solid [.word (bareWord "not"), .group (itemTokens items) (itemsFormula items)] :=
    solid_of_plain (by simp [Item.IsPlain]; decide)
  refine ⟨_, hnot.call hspells, hsolid.settled, ?_⟩
  rw [List.singleton_append, hsolid.operands_eq]
  exact .single (hnegated _ hchain.formula)

/-- A text that is read as a chain has the formula of the chain. -/
lemma Reads.exists_formula {text : String} {c : Chain (Formula β)} (h : Reads R text.toList c) :
    ∃ f, Formula.ofText? text = some f ∧ Formula.Forall₂ R f c.formula := by
  obtain ⟨items, hspells, -, hchain⟩ := h
  exact ⟨itemsFormula items, hspells.ofText?, hchain.formula⟩

end Chains

example : Formula.ofText? "a between 1 and 2 or not(b = \"(\") and c" =
    some (.or (.atom (tokens (symbols "a between 1 and 2".toList)))
      (.and (.not (.atom (tokens (symbols "b = \"(\"".toList))))
        (.atom (tokens (symbols "c".toList))))) := by
  rfl

end DocQuery
