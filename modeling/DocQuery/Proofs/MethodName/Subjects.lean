import DocQuery.Proofs.Json.Numbers
import DocQuery.Proofs.MethodName.Scanning
import DocQuery.Proofs.MethodName.Spelling
/-!
# Subjects of method names

Between the verb and `By` stand modifiers and the name of the subject. The modifiers say what they
were spelled from, whatever name follows them (`isDistinct_of_spells`, `limitOf_of_spells`).
-/

namespace DocQuery.MethodName

open Letter (isCapital isUppercase isWord isDecimalDigit)

/-! ### Letters and digits -/

/-- A capital letter can follow a modifier: the text is empty or starts with one. -/
def StartsCapital (cs : List Char) : Prop := ∀ c ∈ cs.head?, c.isUpper = true

lemma isDigit_iff {c : Char} : c.isDigit = true ↔ 48 ≤ c.toNat ∧ c.toNat ≤ 57 := by
  simp [Char.isDigit, UInt32.le_iff_toNat_le, ← Char.toNat_val]

lemma isAlphanum_iff {c : Char} :
    c.isAlphanum = true ↔ c.isUpper = true ∨ c.isLower = true ∨ c.isDigit = true := by
  have hdef : c.isAlphanum = (c.isUpper || c.isLower || c.isDigit) := rfl
  rw [hdef, Bool.or_eq_true, Bool.or_eq_true, or_assoc]

lemma isDecimalDigit_of_isDigit {c : Char} (h : c.isDigit = true) : isDecimalDigit c = true := by
  have hascii := isDigit_iff.mp h
  rw [isDecimalDigit, if_pos (by omega), h]

lemma isDecimalDigit_eq_false {c : Char} (hlow : 58 ≤ c.toNat) (hhigh : c.toNat < 128) :
    isDecimalDigit c = false := by
  rw [isDecimalDigit, if_pos hhigh, Bool.eq_false_iff, ne_eq, isDigit_iff]
  omega

lemma isCapital_of_isLower {c : Char} (h : c.isLower = true) : isCapital c = false := by
  have hascii := isLower_iff.mp h
  rw [isCapital, if_pos (by omega), Bool.eq_false_iff, ne_eq, isUpper_iff]
  omega

lemma StartsCapital.endsWord {cs : List Char} (h : StartsCapital cs) : endsWord cs = true := by
  cases cs with
  | nil => rfl
  | cons c cs => exact isCapital_of_isUpper (h c rfl)

/-- The digits of a limit end where a capital letter stands. -/
lemma span_digits {digits rest : List Char} (hdigits : ∀ c ∈ digits, c.isDigit = true)
    (hrest : StartsCapital rest) :
    (digits ++ rest).takeWhile isDecimalDigit = digits ∧
      (digits ++ rest).dropWhile isDecimalDigit = rest := by
  have hpos : ∀ c ∈ digits, isDecimalDigit c = true :=
    fun c hc => isDecimalDigit_of_isDigit (hdigits c hc)
  have hstop : rest.takeWhile isDecimalDigit = [] ∧ rest.dropWhile isDecimalDigit = rest := by
    cases rest with
    | nil => exact ⟨rfl, rfl⟩
    | cons c rest =>
      have hascii := isUpper_iff.mp (hrest c rfl)
      have hc : isDecimalDigit c = false := isDecimalDigit_eq_false (by omega) (by omega)
      simp [hc]
  rw [List.takeWhile_append_of_pos hpos, List.dropWhile_append_of_pos hpos, hstop.1, hstop.2,
    List.append_nil]
  exact ⟨rfl, rfl⟩

lemma dropWhile_of_isLower {c : Char} {cs : List Char} (hc : c.isLower = true) :
    (c :: cs).dropWhile isDecimalDigit = c :: cs := by
  have hascii := isLower_iff.mp hc
  rw [List.dropWhile_cons, isDecimalDigit_eq_false (by omega) (by omega)]
  rfl

/-! ### Limits -/

lemma limitValue_digits {digits : List Char} (n : Nat) (hdigits : ∀ c ∈ digits, c.isDigit = true)
    (hsize : Nat.ofDigitChars 10 digits n < UInt64.size) :
    limitValue n digits = .ok (UInt64.ofNat (Nat.ofDigitChars 10 digits n)) := by
  induction digits generalizing n with
  | nil => simp [limitValue]
  | cons c cs ih =>
    obtain ⟨hc, hcs⟩ := List.forall_mem_cons.mp hdigits
    rw [Nat.ofDigitChars_cons] at hsize ⊢
    have hle : 10 * n + (c.toNat - 0x30) ≤ Nat.ofDigitChars 10 cs (10 * n + (c.toNat - 0x30)) := by
      rw [Nat.ofDigitChars_eq_ofDigitChars_zero]
      exact Nat.le_add_right_of_le (Nat.le_mul_of_pos_left _ (Nat.pow_pos (by omega)))
    have hfits : ¬ UInt64.size ≤ 10 * n + (c.toNat - 0x30) :=
      Nat.not_le.mpr (Nat.lt_of_le_of_lt hle hsize)
    rw [limitValue, hc]
    simp only [Bool.not_true, Bool.false_eq_true, if_false, if_neg hfits]
    exact ih _ hcs hsize

/-- A limit is read from its digits. -/
lemma limitValue_toString (n : UInt64) : limitValue 0 (toString n.toNat).toList = .ok n := by
  have hdigits : (toString n.toNat).toList = Nat.toDigits 10 n.toNat := by simp
  have hvalue : Nat.ofDigitChars 10 (Nat.toDigits 10 n.toNat) 0 = n.toNat := by simp
  rw [hdigits, limitValue_digits 0 (Json.isDigits_toDigits _).2, hvalue, UInt64.ofNat_toNat]
  rw [hvalue]
  exact n.toNat_lt_size

/-! ### Where modifiers stand -/

/-- The subject behind its first `Distinct`. -/
def behindDistinct (subject : List Char) : List Char :=
  (afterWord? ["Distinct"] subject).getD subject

/-- The subject behind a limit at its start. -/
def behindLimit (subject : List Char) : List Char :=
  match afterWord? ["First", "Top"] subject with
  | some rest => rest.dropWhile isDecimalDigit
  | none => subject

/-- The limit that a text starts with. -/
def limitAt (start : List Char) : Except Fault (Option UInt64) :=
  match afterWord? ["First", "Top"] start with
  | none => .ok none
  | some rest =>
    if endsWord (rest.dropWhile isDecimalDigit) then
      match rest.takeWhile isDecimalDigit with
      | [] => .ok (some 1)
      | digits => (limitValue 0 digits).map some
    else .ok none

lemma limitOf_eq (subject : List Char) : limitOf subject = limitAt (behindDistinct subject) := rfl

lemma isDistinct_eq (subject : List Char) :
    isDistinct subject = (afterWord? ["Distinct"] (behindLimit subject)).any endsWord := rfl

/-- No modifier starts with a small letter. -/
lemma afterWord?_of_isLower {c : Char} {cs : List Char} {modifiers : List String}
    (hmodifiers : ∀ word ∈ modifiers, IsWord word.toList) (hc : c.isLower = true) :
    afterWord? modifiers (c :: cs) = none :=
  afterWord?_eq_none fun word hword =>
    not_prefix_of_isLower (hmodifiers word hword).isPiece hc

/-! ### The name of the subject -/

variable {words : List (List Char)} {rest text : List Char}

lemma IsSubjectName.startsCapital (h : IsSubjectName words) : StartsCapital words.flatten := by
  cases words with
  | nil => simp [StartsCapital]
  | cons w ws =>
    have hw := h.isWord w List.mem_cons_self
    cases w with
    | nil => exact absurd hw id
    | cons c cs =>
      intro d hd
      obtain rfl : c = d := by simpa using hd
      exact hw.1

/-- A name can start with the letters of a modifier only within a longer word. -/
lemma IsSubjectName.isLower_of_afterWord? (h : IsSubjectName words) {modifiers : List String}
    (hsub : modifiers ⊆ ["Distinct", "First", "Top"])
    (hrest : afterWord? modifiers words.flatten = some rest) :
    ∃ c cs, rest = c :: cs ∧ c.isLower = true := by
  obtain ⟨word, hword, hstarts⟩ := List.exists_of_findSome?_eq_some hrest
  have htext := List.isPrefixOf?_eq_some_iff_append_eq.mp hstarts
  have hpiece : IsPiece word.toList := by
    have htable : ∀ word ∈ ["Distinct", "First", "Top"], IsWord word.toList := by decide
    exact (htable word (hsub hword)).isPiece
  by_contra hnot
  have hstart : StartsPiece rest := by
    intro c hc
    rw [Bool.eq_false_iff]
    intro hlower
    obtain ⟨cs, rfl⟩ := List.head?_eq_some_iff.mp hc
    exact hnot ⟨c, cs, rfl, hlower⟩
  cases words with
  | nil => exact hpiece.ne_nil (List.append_eq_nil_iff.mp htext).1
  | cons w ws =>
    obtain ⟨hw, hws⟩ := List.forall_mem_cons.mp h.isWord
    have hwsStart := startsPiece_flatten fun w hw => (hws w hw).isPiece
    have heq : word.toList = w := (eq_of_append_eq hpiece hw.isPiece hstart hwsStart htext).1
    exact h.free w rfl (heq ▸ List.mem_map_of_mem (hsub hword))

lemma isWord_distinct : ∀ word ∈ ["Distinct"], IsWord word.toList := by decide

lemma isWord_limit : ∀ word ∈ ["First", "Top"], IsWord word.toList := by decide

/-- The name alone asks for no different rows, not even behind a limit. -/
lemma IsSubjectName.any_afterWord? (h : IsSubjectName words) :
    (afterWord? ["Distinct"] words.flatten).any endsWord = false := by
  cases hrest : afterWord? ["Distinct"] words.flatten with
  | none => rfl
  | some rest =>
    obtain ⟨c, cs, rfl, hc⟩ := h.isLower_of_afterWord? (by simp) hrest
    exact isCapital_of_isLower hc

lemma IsSubjectName.isDistinct (h : IsSubjectName words) : isDistinct words.flatten = false := by
  rw [isDistinct_eq, behindLimit]
  cases hrest : afterWord? ["First", "Top"] words.flatten with
  | none => exact h.any_afterWord?
  | some rest =>
    obtain ⟨c, cs, rfl, hc⟩ := h.isLower_of_afterWord? (by simp) hrest
    simp only [dropWhile_of_isLower hc, afterWord?_of_isLower isWord_distinct hc]
    rfl

/-- The name alone sets no limit, not even behind `Distinct`. -/
lemma IsSubjectName.limitAt (h : IsSubjectName words) : limitAt words.flatten = .ok none := by
  rw [MethodName.limitAt]
  cases hrest : afterWord? ["First", "Top"] words.flatten with
  | none => rfl
  | some rest =>
    obtain ⟨c, cs, rfl, hc⟩ := h.isLower_of_afterWord? (by simp) hrest
    have hends : endsWord (c :: cs) = false := isCapital_of_isLower hc
    simp only [dropWhile_of_isLower hc, hends]
    rfl

lemma IsSubjectName.limitOf (h : IsSubjectName words) : limitOf words.flatten = .ok none := by
  rw [limitOf_eq, behindDistinct]
  cases hrest : afterWord? ["Distinct"] words.flatten with
  | none => exact h.limitAt
  | some rest =>
    obtain ⟨c, cs, rfl, hc⟩ := h.isLower_of_afterWord? (by simp) hrest
    rw [Option.getD_some, MethodName.limitAt, afterWord?_of_isLower isWord_limit hc]

/-! ### Modifiers -/

variable {n : UInt64} {distinct : Bool} {limit : Option UInt64}

/-- A limit is a word and digits that say the number; for one there may be none. -/
lemma SpellsLimit.exists_digits (h : SpellsLimit n text) :
    ∃ word ∈ ["First", "Top"], ∃ digits, text = word.toList ++ digits ∧
      (∀ c ∈ digits, c.isDigit = true) ∧
        (digits = [] ∧ n = 1 ∨ digits ≠ [] ∧ limitValue 0 digits = .ok n) := by
  obtain ⟨word, hword, rfl | ⟨rfl, rfl⟩⟩ := h
  · have hdigits : Json.IsDigits (toString n.toNat).toList := by
      simpa using Json.isDigits_toDigits n.toNat
    exact ⟨word, hword, _, rfl, hdigits.2, .inr ⟨hdigits.1, limitValue_toString n⟩⟩
  · exact ⟨word, hword, [], (List.append_nil _).symm, by simp, .inl ⟨rfl, rfl⟩⟩

lemma afterWord?_limit {word : String} (hword : word ∈ ["First", "Top"]) (rest : List Char) :
    afterWord? ["First", "Top"] (word.toList ++ rest) = some rest := by
  rcases List.mem_pair.mp hword with rfl | rfl <;> rfl

lemma SpellsLimit.behindLimit (h : SpellsLimit n text) (hrest : StartsCapital rest) :
    behindLimit (text ++ rest) = rest := by
  obtain ⟨word, hword, digits, rfl, hdigits, -⟩ := h.exists_digits
  rw [MethodName.behindLimit, List.append_assoc, afterWord?_limit hword]
  exact (span_digits hdigits hrest).2

lemma SpellsLimit.limitAt (h : SpellsLimit n text) (hrest : StartsCapital rest) :
    limitAt (text ++ rest) = .ok (some n) := by
  obtain ⟨word, hword, digits, rfl, hdigits, hvalue⟩ := h.exists_digits
  obtain ⟨htake, hdrop⟩ := span_digits hdigits hrest
  rw [MethodName.limitAt, List.append_assoc, afterWord?_limit hword]
  simp only [htake, hdrop, hrest.endsWord]
  rcases hvalue with ⟨rfl, rfl⟩ | ⟨hne, hvalue⟩
  · rfl
  · obtain ⟨d, ds, rfl⟩ := List.exists_cons_of_ne_nil hne
    simp only [hvalue]
    rfl

lemma SpellsLimit.behindDistinct (h : SpellsLimit n text) (rest : List Char) :
    behindDistinct (text ++ rest) = text ++ rest := by
  obtain ⟨word, hword, digits, rfl, -⟩ := h.exists_digits
  rcases List.mem_pair.mp hword with rfl | rfl <;> rfl

lemma SpellsLimit.startsCapital (h : SpellsLimit n text) (rest : List Char) :
    StartsCapital (text ++ rest) := by
  obtain ⟨word, hword, digits, rfl, -⟩ := h.exists_digits
  rcases List.mem_pair.mp hword with rfl | rfl <;> simp [StartsCapital]

lemma afterWord?_distinct (rest : List Char) :
    afterWord? ["Distinct"] ("Distinct".toList ++ rest) = some rest := rfl

lemma behindLimit_distinct (rest : List Char) :
    behindLimit ("Distinct".toList ++ rest) = "Distinct".toList ++ rest := rfl

lemma behindDistinct_distinct (rest : List Char) :
    behindDistinct ("Distinct".toList ++ rest) = rest := rfl

lemma startsCapital_distinct (rest : List Char) : StartsCapital ("Distinct".toList ++ rest) := by
  simp [StartsCapital]

/-- The decoder reads from the modifiers whether different rows are asked for. -/
theorem isDistinct_of_spells (h : SpellsModifiers distinct limit text) (hwords : IsSubjectName words) :
    isDistinct (text ++ words.flatten) = distinct := by
  have hname := hwords.startsCapital
  cases h with
  | none => exact hwords.isDistinct
  | distinct =>
    rw [isDistinct_eq, behindLimit_distinct, afterWord?_distinct]
    exact hname.endsWord
  | limit h =>
    rw [isDistinct_eq, h.behindLimit hname]
    exact hwords.any_afterWord?
  | distinctLimit h =>
    rw [isDistinct_eq, List.append_assoc, behindLimit_distinct, afterWord?_distinct]
    exact (h.startsCapital _).endsWord
  | limitDistinct h =>
    rw [isDistinct_eq, List.append_assoc, h.behindLimit (startsCapital_distinct _),
      afterWord?_distinct]
    exact hname.endsWord

/-- The decoder reads the limit from the modifiers. -/
theorem limitOf_of_spells (h : SpellsModifiers distinct limit text) (hwords : IsSubjectName words) :
    limitOf (text ++ words.flatten) = .ok limit := by
  have hname := hwords.startsCapital
  cases h with
  | none => exact hwords.limitOf
  | distinct =>
    rw [limitOf_eq, behindDistinct_distinct]
    exact hwords.limitAt
  | limit h =>
    rw [limitOf_eq, h.behindDistinct]
    exact h.limitAt hname
  | distinctLimit h =>
    rw [limitOf_eq, List.append_assoc, behindDistinct_distinct]
    exact h.limitAt hname
  | limitDistinct h =>
    rw [limitOf_eq, List.append_assoc, h.behindDistinct]
    exact h.limitAt (startsCapital_distinct _)

/-! ### Where the subject ends -/

/-- A text of letters and digits that starts with a capital letter, unless it is empty, and in which
`By` does not stand. -/
structure IsSubject (text : List Char) : Prop where
  isAlphanum : ∀ c ∈ text, c.isAlphanum = true
  starts : StartsCapital text
  noBy : ¬ "By".toList <:+: text

lemma infix_of_infix_append {c : Char} {w a b : List Char} (hc : c ∉ a) (h : c :: w <:+: a ++ b) :
    c :: w <:+: b := by
  induction a with
  | nil => exact h
  | cons d a ih =>
    rw [List.mem_cons, not_or] at hc
    rw [List.cons_append, List.infix_cons_iff] at h
    rcases h with ⟨t, ht⟩ | h
    · exact absurd (List.cons.inj ht).1 hc.1
    · exact ih hc.2 h

lemma IsWord.isAlphanum {w : List Char} (h : IsWord w) : ∀ c ∈ w, c.isAlphanum = true := by
  cases w with
  | nil => simp
  | cons c cs =>
    refine List.forall_mem_cons.mpr ⟨isAlphanum_iff.mpr (.inl h.1), fun d hd => ?_⟩
    exact isAlphanum_iff.mpr (.inr (.inl (h.2 d hd)))

lemma IsWord.isAlphanum_and_ne {w : List Char} (h : IsWord w) (hB : 'B' ∉ w) :
    ∀ c ∈ w, c.isAlphanum = true ∧ c ≠ 'B' :=
  fun c hc => ⟨h.isAlphanum c hc, ne_of_mem_of_not_mem hc hB⟩

/-- Modifiers consist of letters and digits, and have no `B`. -/
lemma SpellsModifiers.isAlphanum (h : SpellsModifiers distinct limit text) :
    ∀ c ∈ text, c.isAlphanum = true ∧ c ≠ 'B' := by
  have hdistinct : ∀ c ∈ "Distinct".toList, c.isAlphanum = true ∧ c ≠ 'B' :=
    IsWord.isAlphanum_and_ne (by decide) (by decide)
  have hlimit : ∀ {n : UInt64} {text : List Char}, SpellsLimit n text →
      ∀ c ∈ text, c.isAlphanum = true ∧ c ≠ 'B' := by
    intro n text h
    obtain ⟨word, hword, digits, rfl, hdigits, -⟩ := h.exists_digits
    have hwordB : 'B' ∉ word.toList := by
      rcases List.mem_pair.mp hword with rfl | rfl <;> decide
    refine List.forall_mem_append.mpr
      ⟨(isWord_limit word hword).isAlphanum_and_ne hwordB, fun c hc => ⟨?_, ?_⟩⟩
    · exact isAlphanum_iff.mpr (.inr (.inr (hdigits c hc)))
    · rintro rfl
      exact absurd (hdigits _ hc) (by decide)
  cases h with
  | none => simp
  | distinct => exact hdistinct
  | limit h => exact hlimit h
  | distinctLimit h => exact List.forall_mem_append.mpr ⟨hdistinct, hlimit h⟩
  | limitDistinct h => exact List.forall_mem_append.mpr ⟨hlimit h, hdistinct⟩

lemma SpellsModifiers.startsCapital (h : SpellsModifiers distinct limit text)
    (hrest : StartsCapital rest) : StartsCapital (text ++ rest) := by
  cases h with
  | none => exact hrest
  | distinct => exact startsCapital_distinct _
  | limit h => exact h.startsCapital _
  | distinctLimit h =>
    rw [List.append_assoc]
    exact startsCapital_distinct _
  | limitDistinct h =>
    rw [List.append_assoc]
    exact h.startsCapital _

/-- Modifiers and a name make a subject. -/
lemma SpellsModifiers.isSubject (h : SpellsModifiers distinct limit text)
    (hwords : IsSubjectName words) : IsSubject (text ++ words.flatten) where
  isAlphanum := by
    refine List.forall_mem_append.mpr ⟨fun c hc => (h.isAlphanum c hc).1, fun c hc => ?_⟩
    obtain ⟨w, hw, hmem⟩ := List.mem_flatten.mp hc
    exact (hwords.isWord w hw).isAlphanum c hmem
  starts := h.startsCapital hwords.startsCapital
  noBy := fun hby => hwords.noBy (infix_of_infix_append (fun hc => (h.isAlphanum _ hc).2 rfl) hby)

lemma isWord_of_isAlphanum {c : Char} (h : c.isAlphanum = true) : isWord c = true ∧ c ≠ '\n' := by
  refine ⟨?_, ?_⟩
  · have hascii : c.toNat < 0x80 := by
      rw [isAlphanum_iff, isUpper_iff, isLower_iff, isDigit_iff] at h
      omega
    rw [isWord, if_pos hascii, h, Bool.true_or]
  · rintro rfl
    exact absurd h (by decide)

/-- The subject ends at the first `By`. -/
theorem subject?_by (h : IsSubject text) (rest : List Char) :
    subject? (text ++ ("By".toList ++ rest)) = some (text, some rest) := by
  cases text with
  | nil => rfl
  | cons c cs =>
    obtain ⟨-, hcs⟩ := List.forall_mem_cons.mp h.isAlphanum
    have hline : '\n' ∉ cs := fun hmem => (isWord_of_isAlphanum (hcs _ hmem)).2 rfl
    have hstart : ¬ "By".toList <+: c :: (cs ++ ("By".toList ++ rest)) :=
      not_prefix_append (by decide) (List.cons_ne_nil c cs) h.noBy rest
    rw [List.cons_append, subject?_cons (isCapital_of_isUpper (h.starts c rfl)) hstart,
      cutAtBy?_append hline (mt List.infix_cons h.noBy)]

/-- Without a `By` the subject is the whole text. -/
theorem subject?_alone (h : IsSubject text) : subject? text = some (text, none) := by
  cases text with
  | nil => rfl
  | cons c cs =>
    obtain ⟨-, hcs⟩ := List.forall_mem_cons.mp h.isAlphanum
    have hall : cs.all isWord = true :=
      List.all_eq_true.mpr fun d hd => (isWord_of_isAlphanum (hcs d hd)).1
    rw [subject?_cons (isCapital_of_isUpper (h.starts c rfl)) fun hby => h.noBy hby.isInfix,
      cutAtBy?_eq_none (mt List.infix_cons h.noBy)]
    exact if_pos hall

end DocQuery.MethodName
