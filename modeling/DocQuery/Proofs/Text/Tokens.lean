import DocQuery.Proofs.Text.Symbols
/-!
# Words and parentheses

Outside quotes a blank ends a word and a parenthesis stands for itself. A quoted run belongs to the
word that it stands in, with all its blanks and parentheses.
-/

namespace DocQuery

/-- What a symbol does to the words of a text. -/
inductive Symbol.Kind where
  | blank
  | opening
  | closing
  | letter
deriving DecidableEq

/-- Blanks and parentheses count outside quotes only. -/
def Symbol.kind (s : Symbol) : Symbol.Kind :=
  if s.quoted then .letter
  else if s.char = ' ' then .blank
  else if s.char = '(' then .opening
  else if s.char = ')' then .closing
  else .letter

/-- A word or a parenthesis. -/
inductive Token where
  | word (w : List Symbol)
  | opening
  | closing
deriving DecidableEq

/-- The symbol in front of the word that the tokens start with. -/
def extendWord (s : Symbol) : List Token → List Token
  | .word w :: ts => .word (s :: w) :: ts
  | ts => .word [s] :: ts

/-- The tokens of a text. -/
def tokens : List Symbol → List Token
  | [] => []
  | s :: ss =>
    match s.kind with
    | .blank => tokens ss
    | .opening => .opening :: tokens ss
    | .closing => .closing :: tokens ss
    | .letter =>
      if ss.head?.map Symbol.kind = some .letter then extendWord s (tokens ss)
      else .word [s] :: tokens ss

/-- A word as it stands outside quotes. -/
def bareWord (s : String) : List Symbol := s.toList.map (⟨·, false⟩)

/-- A character that is a letter of a word outside quotes. -/
def isWordChar (c : Char) : Bool := !isQuote c && Symbol.kind ⟨c, false⟩ == .letter

lemma isWordChar_iff {c : Char} :
    isWordChar c = true ↔ isQuote c = false ∧ Symbol.kind ⟨c, false⟩ = .letter := by
  simp [isWordChar]

@[simp] lemma tokens_nil : tokens [] = [] := rfl

lemma tokens_cons_blank {s : Symbol} (hs : s.kind = .blank) (ss : List Symbol) :
    tokens (s :: ss) = tokens ss := by
  simp [tokens, hs]

lemma tokens_cons_opening {s : Symbol} (hs : s.kind = .opening) (ss : List Symbol) :
    tokens (s :: ss) = .opening :: tokens ss := by
  simp [tokens, hs]

lemma tokens_cons_closing {s : Symbol} (hs : s.kind = .closing) (ss : List Symbol) :
    tokens (s :: ss) = .closing :: tokens ss := by
  simp [tokens, hs]

lemma tokens_letter {s : Symbol} (hs : s.kind = .letter) : tokens [s] = [.word [s]] := by
  simp [tokens, hs]

/-- A letter in front of a letter belongs to its word. -/
lemma tokens_letter_cons_letter {s s' : Symbol} (hs : s.kind = .letter) (hs' : s'.kind = .letter)
    (ss : List Symbol) : tokens (s :: s' :: ss) = extendWord s (tokens (s' :: ss)) := by
  simp [tokens, hs, hs']

lemma tokens_letter_cons_of_ne {s s' : Symbol} (hs : s.kind = .letter) (hs' : s'.kind ≠ .letter)
    (ss : List Symbol) : tokens (s :: s' :: ss) = .word [s] :: tokens (s' :: ss) := by
  simp [tokens, hs, hs']

/-- A text that starts with a letter starts with a word. -/
lemma exists_tokens_cons_letter {s : Symbol} (hs : s.kind = .letter) (ss : List Symbol) :
    ∃ w ts, tokens (s :: ss) = .word (s :: w) :: ts ∧
      ((w = [] ∧ ts = tokens ss) ∨ tokens ss = .word w :: ts) := by
  induction ss generalizing s with
  | nil => exact ⟨[], [], tokens_letter hs, .inl ⟨rfl, rfl⟩⟩
  | cons s' ss ih =>
    by_cases hs' : s'.kind = .letter
    · obtain ⟨w, ts, hword, -⟩ := ih hs'
      refine ⟨s' :: w, ts, ?_, .inr hword⟩
      rw [tokens_letter_cons_letter hs hs', hword, extendWord]
    · exact ⟨[], tokens (s' :: ss), tokens_letter_cons_of_ne hs hs' ss, .inl ⟨rfl, rfl⟩⟩

/-- Nothing grows together across a symbol that is no letter. -/
lemma tokens_append {x : Symbol} (hx : x.kind ≠ .letter) (a b : List Symbol) :
    tokens (a ++ x :: b) = tokens a ++ tokens (x :: b) := by
  induction a with
  | nil => rfl
  | cons s a ih =>
    cases hs : s.kind with
    | blank => rw [List.cons_append, tokens_cons_blank hs, tokens_cons_blank hs, ih]
    | opening => rw [List.cons_append, tokens_cons_opening hs, tokens_cons_opening hs, ih]; rfl
    | closing => rw [List.cons_append, tokens_cons_closing hs, tokens_cons_closing hs, ih]; rfl
    | letter =>
      -- whether `s` starts a word of its own depends on the symbol behind it, which may be `x`
      cases a with
      | nil => simpa [tokens_letter hs] using tokens_letter_cons_of_ne hs hx b
      | cons s' a =>
        by_cases hs' : s'.kind = .letter
        · obtain ⟨w, ts, hword, -⟩ := exists_tokens_cons_letter hs' a
          rw [List.cons_append, List.cons_append, tokens_letter_cons_letter hs hs',
            tokens_letter_cons_letter hs hs', ← List.cons_append, ih, hword]
          rfl
        · rw [List.cons_append, List.cons_append, tokens_letter_cons_of_ne hs hs',
            tokens_letter_cons_of_ne hs hs', ← List.cons_append, ih]
          rfl

/-- Letters alone are one word. -/
lemma tokens_of_letters {ss : List Symbol} (h : ∀ s ∈ ss, s.kind = .letter) (hne : ss ≠ []) :
    tokens ss = [.word ss] := by
  induction ss with
  | nil => exact absurd rfl hne
  | cons s ss ih =>
    cases ss with
    | nil => exact tokens_letter (h s (by simp))
    | cons s' ss =>
      rw [tokens_letter_cons_letter (h s (by simp)) (h s' (by simp)),
        ih (fun t ht => h t (by simp [ht])) (by simp), extendWord]

/-- A text without parentheses outside quotes is a list of words, made of its own symbols. -/
lemma exists_words {ss : List Symbol} (h : ∀ s ∈ ss, s.kind ≠ .opening ∧ s.kind ≠ .closing) :
    ∃ ws : List (List Symbol), tokens ss = ws.map .word ∧ ∀ w ∈ ws, ∀ s ∈ w, s ∈ ss := by
  induction ss with
  | nil => exact ⟨[], rfl, by simp⟩
  | cons s ss ih =>
    obtain ⟨ws, hws, hmem⟩ := ih fun t ht => h t (by simp [ht])
    obtain ⟨hopening, hclosing⟩ := h s (by simp)
    cases hs : s.kind with
    | blank =>
      exact ⟨ws, by rw [tokens_cons_blank hs, hws], fun w hw t ht => by simp [hmem w hw t ht]⟩
    | opening => exact absurd hs hopening
    | closing => exact absurd hs hclosing
    | letter =>
      obtain ⟨w, ts, htokens, ⟨rfl, rfl⟩ | hword⟩ := exists_tokens_cons_letter hs ss
      · refine ⟨[s] :: ws, by simp [htokens, hws], ?_⟩
        intro w hw t ht
        rcases List.mem_cons.mp hw with rfl | hw
        · simp_all
        · simp [hmem w hw t ht]
      · cases ws with
        | nil => simp [hword] at hws
        | cons w' ws =>
          obtain ⟨rfl, rfl⟩ : w = w' ∧ ts = ws.map .word := by simpa [hword] using hws
          refine ⟨(s :: w) :: ws, by simp [htokens], ?_⟩
          intro v hv t ht
          rcases List.mem_cons.mp hv with rfl | hv
          · rcases List.mem_cons.mp ht with rfl | ht
            · simp
            · simp [hmem w (by simp) t ht]
          · simp [hmem v (by simp [hv]) t ht]

/-! ### Balanced texts -/

/-- Every parenthesis outside quotes is closed behind it. -/
inductive Balanced : List Symbol → Prop where
  | nil : Balanced []
  | text {s ss} (hopening : s.kind ≠ .opening) (hclosing : s.kind ≠ .closing)
      (h : Balanced ss) : Balanced (s :: ss)
  | paren {s t a b} (hs : s.kind = .opening) (ht : t.kind = .closing) (ha : Balanced a)
      (hb : Balanced b) : Balanced (s :: (a ++ t :: b))

lemma Balanced.append {a b : List Symbol} (ha : Balanced a) (hb : Balanced b) :
    Balanced (a ++ b) := by
  induction ha with
  | nil => exact hb
  | text hopening hclosing _ ih => exact .text hopening hclosing ih
  | @paren s t a c hs ht ha _ _ ih =>
    rw [List.cons_append, List.append_assoc]
    exact .paren hs ht ha ih

lemma balanced_of_noParen {ss : List Symbol}
    (h : ∀ s ∈ ss, s.kind ≠ .opening ∧ s.kind ≠ .closing) : Balanced ss := by
  induction ss with
  | nil => exact .nil
  | cons s ss ih =>
    obtain ⟨hopening, hclosing⟩ := h s (by simp)
    exact .text hopening hclosing (ih fun t ht => h t (by simp [ht]))

/-- All quotes and parentheses of the text are closed. -/
structure BalancedText (cs : List Char) : Prop where
  closed : Closed cs
  balanced : Balanced (symbols cs)

namespace BalancedText

variable {a b : List Char}

lemma append (ha : BalancedText a) (hb : BalancedText b) : BalancedText (a ++ b) where
  closed := ha.closed.append hb.closed
  balanced := by
    rw [symbols_append ha.closed]
    exact ha.balanced.append hb.balanced

lemma of_all (h : a.all (fun c => !isQuote c && c != '(' && c != ')') = true) :
    BalancedText a := by
  have hchars : ∀ c ∈ a, (isQuote c = false ∧ c ≠ '(') ∧ c ≠ ')' := by
    intro c hc
    simpa using List.all_eq_true.mp h c hc
  have hquote : ∀ c ∈ a, isQuote c = false := fun c hc => (hchars c hc).1.1
  refine ⟨closed_of_noQuote hquote, ?_⟩
  apply balanced_of_noParen
  intro s hs
  rw [symbols_of_noQuote hquote] at hs
  obtain ⟨c, hc, rfl⟩ := List.mem_map.mp hs
  obtain ⟨⟨-, hopening⟩, hclosing⟩ := hchars c hc
  by_cases hblank : c = ' '
  · simp [Symbol.kind, hblank]
  · simp [Symbol.kind, hblank, hopening, hclosing]

lemma paren (ha : BalancedText a) : BalancedText ('(' :: (a ++ [')'])) where
  closed := (closed_cons_of_not_isQuote rfl _).mpr (ha.closed.append rfl)
  balanced := by
    rw [symbols_cons_of_not_isQuote rfl, symbols_append ha.closed]
    exact .paren rfl rfl ha.balanced .nil

end BalancedText

end DocQuery
