import DocQuery.Proofs.FieldPath
/-!
# Placeholders in a text

A scan of a text takes every `$` that stands outside quotes with the longest name behind it. A
text that has none adds nothing, and a placeholder is found if no name goes on behind it.
-/

namespace DocQuery

/-- The symbol goes on with a name. -/
def Symbol.isNamePart (s : Symbol) : Bool := !s.quoted && FieldPath.isNameChar s.char

/-- Every `$` outside quotes with the longest name behind it. -/
def scan : List Symbol → List String
  | [] => []
  | s :: ss =>
    if s = ⟨'$', false⟩ then
      String.ofList ('$' :: (ss.takeWhile Symbol.isNamePart).map (·.char)) :: scan ss
    else scan ss

lemma scan_append_of_not_mem {ss : List Symbol} (h : ⟨'$', false⟩ ∉ ss) (rest : List Symbol) :
    scan (ss ++ rest) = scan rest := by
  induction ss with
  | nil => rfl
  | cons s ss ih =>
    obtain ⟨hne, hnot⟩ : (⟨'$', false⟩ : Symbol) ≠ s ∧ ⟨'$', false⟩ ∉ ss := by simpa using h
    rw [List.cons_append, scan, if_neg (Ne.symm hne), ih hnot]

/-! ### Texts without placeholders -/

/-- A text that leaves no run open and has no `$` outside quotes. -/
structure PlainText (cs : List Char) : Prop where
  closed : Closed cs
  dollar_not_mem : '$' ∉ bare cs

namespace PlainText

variable {a b : List Char}

lemma append (ha : PlainText a) (hb : PlainText b) : PlainText (a ++ b) := by
  refine ⟨ha.closed.append hb.closed, ?_⟩
  rw [bare_append ha.closed, List.mem_append, not_or]
  exact ⟨ha.dollar_not_mem, hb.dollar_not_mem⟩

lemma of_wrap {q : Char} (hq : isQuote q = true) (s : String) :
    PlainText (Quoted.wrap q s).toList :=
  ⟨closed_wrap hq s, by simp [bare_wrap hq]⟩

lemma of_noQuote (h : ∀ c ∈ a, isQuote c = false ∧ c ≠ '$') : PlainText a := by
  have hquote : ∀ c ∈ a, isQuote c = false := fun c hc => (h c hc).1
  refine ⟨closed_of_noQuote hquote, ?_⟩
  intro hmem
  rw [bare_of_noQuote hquote] at hmem
  exact (h _ hmem).2 rfl

lemma of_all (h : a.all (fun c => !isQuote c && c != '$') = true) : PlainText a := by
  apply of_noQuote
  intro c hc
  simpa using List.all_eq_true.mp h c hc

lemma of_isQuoted {p : FieldPath} (h : p.IsQuoted) : PlainText p.text.toList :=
  ⟨h.closed, fun hmem => absurd (h.bare_eq hmem) (by decide)⟩

lemma of_nat (n : Nat) : PlainText (toString n).toList := by
  apply of_noQuote
  intro c hc
  have hname := FieldPath.isNameChar_of_mem_toString hc
  exact ⟨FieldPath.isQuote_of_isNameChar hname, FieldPath.ne_of_isNameChar hname rfl⟩

lemma scan_append (ha : PlainText a) (rest : List Char) :
    scan (symbols (a ++ rest)) = scan (symbols rest) := by
  rw [symbols_append ha.closed, scan_append_of_not_mem]
  exact fun hmem => ha.dollar_not_mem (mem_bare_of_mem_symbols hmem)

end PlainText

/-! ### Texts that are placeholders -/

/-- No name goes on at the start of the text. -/
def StartsApart (cs : List Char) : Prop := ∀ s ∈ (symbols cs).head?, s.isNamePart = false

/-- A placeholder is found as it was written. -/
lemma scan_placeholder {name : List Char} (hname : ∀ c ∈ name, FieldPath.isNameChar c = true)
    {rest : List Char} (hrest : StartsApart rest) :
    scan (symbols ('$' :: (name ++ rest))) =
      String.ofList ('$' :: name) :: scan (symbols rest) := by
  have hquote : ∀ c ∈ name, isQuote c = false := fun c hc =>
    FieldPath.isQuote_of_isNameChar (hname c hc)
  have hsymbols : symbols (name ++ rest) = name.map (⟨·, false⟩) ++ symbols rest := by
    rw [symbols_append (closed_of_noQuote hquote), symbols_of_noQuote hquote]
  have htake : (symbols (name ++ rest)).takeWhile Symbol.isNamePart = name.map (⟨·, false⟩) := by
    have hstop : (symbols rest).takeWhile Symbol.isNamePart = [] := by
      cases hrest' : symbols rest with
      | nil => rfl
      | cons s ss => simp [hrest s (by simp [hrest'])]
    rw [hsymbols, List.takeWhile_append_of_pos, hstop, List.append_nil]
    simpa [Symbol.isNamePart] using hname
  have hskip : (⟨'$', false⟩ : Symbol) ∉ name.map (⟨·, false⟩) := by
    intro hmem
    obtain ⟨c, hc, heq⟩ := List.mem_map.mp hmem
    exact FieldPath.ne_of_isNameChar (hname c hc) rfl (congrArg Symbol.char heq)
  rw [symbols_cons_of_not_isQuote rfl, scan, if_pos rfl, htake, hsymbols,
    scan_append_of_not_mem hskip]
  simp [Function.comp_def]

example : scan (symbols "`a $1` = $1 and `b` = \"$9\" or c = $22".toList) = ["$1", "$22"] := by
  rfl

end DocQuery
