import DocQuery.Json.Reader
import DocQuery.Json.Writer
import Mathlib.Tactic.Lemma
/-!
# Numbers in JSON

Whole numbers and finite doubles are written as numerals: digits without a leading zero, a fraction
and an exponent. A numeral is read in front of any text that does not go on with it, a whole number
as itself (`isNumeral_int`). What a double is read as is left to the arithmetic of doubles
(`isNumeral_float`).
-/

namespace DocQuery.Json

/-- Whether a numeral ends before the text. -/
def endsNumeral : List Char → Bool
  | [] => true
  | c :: _ => !(c.isDigit || c == '.' || c == 'e' || c == 'E')

/-- The text is read as the numeral in front of all that does not go on with it. -/
def IsNumeral (cs : List Char) (n : Numeral) : Prop :=
  ∀ rest, endsNumeral rest = true → readNumeral (cs ++ rest) = some (n, rest)

/-! ### Digits -/

/-- A row of digits, at least one. -/
def IsDigits (ds : List Char) : Prop := ds ≠ [] ∧ ∀ c ∈ ds, c.isDigit = true

/-- A row of digits that starts with no zero before another digit. -/
def IsWhole (ds : List Char) : Prop := IsDigits ds ∧ (ds.head? = some '0' → ds.length = 1)

/-- Whether a row of digits ends before the text. -/
def endsDigits : List Char → Bool
  | [] => true
  | c :: _ => !c.isDigit

variable {ds rest : List Char}

lemma readDigits_append (h : IsDigits ds) (hrest : endsDigits rest = true) :
    readDigits (ds ++ rest) = some (ds, rest) := by
  have htail : rest.takeWhile Char.isDigit = [] ∧ rest.dropWhile Char.isDigit = rest := by
    cases rest with
    | nil => exact ⟨rfl, rfl⟩
    | cons c rest =>
      have hc : c.isDigit = false := by simpa [endsDigits] using hrest
      simp [hc]
  unfold readDigits
  rw [List.takeWhile_append_of_pos h.2, List.dropWhile_append_of_pos h.2, htail.1, htail.2,
    List.append_nil]
  cases ds with
  | nil => exact absurd rfl h.1
  | cons d ds => rfl

lemma readWhole_append (h : IsWhole ds) (hrest : endsDigits rest = true) :
    readWhole (ds ++ rest) = some (ds, rest) := by
  have hzero : ¬ (ds.head? = some '0' ∧ ds.length > 1) := by
    rintro ⟨hhead, hlength⟩
    have := h.2 hhead
    omega
  rw [readWhole, readDigits_append h.1 hrest]
  exact if_neg hzero

lemma endsDigits_of_endsNumeral (h : endsNumeral rest = true) : endsDigits rest = true := by
  cases rest with
  | nil => rfl
  | cons c rest => simp_all [endsNumeral, endsDigits]

/-- The digits of a number start with zero only if there is no other. -/
lemma head?_toDigits {n : Nat} (h : (Nat.toDigits 10 n).head? = some '0') : n = 0 := by
  induction n using Nat.strongRecOn with
  | ind n ih =>
    rcases Nat.lt_or_ge n 10 with hn | hn
    · simpa [Nat.toDigits_of_lt_base hn] using h
    · obtain ⟨d, ds, hds⟩ := List.exists_cons_of_ne_nil (Nat.toDigits_ne_nil (n := n / 10) (b := 10))
      rw [Nat.toDigits_of_base_le (by omega) hn, hds] at h
      have hhead : (Nat.toDigits 10 (n / 10)).head? = some '0' := by rw [hds]; exact h
      have := ih (n / 10) (by omega) hhead
      omega

lemma isDigits_toDigits (n : Nat) : IsDigits (Nat.toDigits 10 n) :=
  ⟨Nat.toDigits_ne_nil, fun _ hc => Nat.isDigit_of_mem_toDigits (by omega) (by omega) hc⟩

lemma isWhole_toDigits (n : Nat) : IsWhole (Nat.toDigits 10 n) := by
  refine ⟨isDigits_toDigits n, fun h => ?_⟩
  rw [head?_toDigits h]
  rfl

lemma digitsValue_toDigits (n : Nat) : digitsValue (Nat.toDigits 10 n) = n :=
  Nat.ofDigitChars_ten_toDigits

/-! ### Numerals -/

/-- The fraction of a numeral as it is written. -/
def fractionText : Option (List Char) → List Char
  | none => []
  | some ds => '.' :: ds

lemma readFraction_append {fraction : Option (List Char)} (h : ∀ ds ∈ fraction, IsDigits ds)
    (hrest : endsDigits rest = true) (hpoint : rest.head? ≠ some '.') :
    readFraction (fractionText fraction ++ rest) = some (fraction, rest) := by
  cases fraction with
  | some ds =>
    rw [fractionText, List.cons_append, readFraction, readDigits_append (h ds rfl) hrest]
    rfl
  | none =>
    rw [fractionText, List.nil_append]
    unfold readFraction
    split
    · exact absurd rfl hpoint
    · rfl

/-- A numeral is read before any text that an exponent can be read from. -/
lemma readUnsigned_append {negative : Bool} {whole : List Char} {fraction : Option (List Char)}
    {exponent : Option Int} {cs : List Char} (hwhole : IsWhole whole)
    (hfraction : ∀ ds ∈ fraction, IsDigits ds) (hcs : endsDigits cs = true)
    (hpoint : cs.head? ≠ some '.') (hexponent : readExponent cs = some (exponent, rest)) :
    readUnsigned negative (whole ++ (fractionText fraction ++ cs)) =
      some (⟨negative, whole, fraction, exponent⟩, rest) := by
  have hends : endsDigits (fractionText fraction ++ cs) = true := by
    cases fraction with
    | none => exact hcs
    | some ds => rfl
  rw [readUnsigned, readWhole_append hwhole hends]
  simp only [Option.bind_eq_bind, Option.bind_some, readFraction_append hfraction hcs hpoint,
    hexponent]
  rfl

/-- The sign of a numeral as it is written. -/
def signText (negative : Bool) : List Char := if negative then ['-'] else []

lemma readNumeral_sign (negative : Bool) {cs : List Char} (h : cs.head? ≠ some '-') :
    readNumeral (signText negative ++ cs) = readUnsigned negative cs := by
  cases negative with
  | true => rfl
  | false =>
    unfold readNumeral
    split
    · next heq => exact absurd (congrArg List.head? heq) (by simpa [signText] using h)
    · rfl

lemma head?_whole_append (h : IsWhole ds) (cs : List Char) : (ds ++ cs).head? ≠ some '-' := by
  obtain ⟨d, ds, rfl⟩ := List.exists_cons_of_ne_nil h.1.1
  intro heq
  obtain rfl : d = '-' := by simpa using heq
  exact absurd (h.1.2 '-' (by simp)) (by decide)

lemma head?_of_endsNumeral (h : endsNumeral rest = true) :
    rest.head? ≠ some '.' ∧ readExponent rest = some (none, rest) := by
  cases rest with
  | nil => exact ⟨by simp, rfl⟩
  | cons c rest =>
    simp only [endsNumeral, Bool.not_eq_true', Bool.or_eq_false_iff, beq_eq_false_iff_ne] at h
    obtain ⟨⟨⟨-, hpoint⟩, he⟩, hE⟩ := h
    refine ⟨by simpa using hpoint, ?_⟩
    unfold readExponent
    split
    · next heq => exact absurd (List.cons.inj heq).1 he
    · next heq => exact absurd (List.cons.inj heq).1 hE
    · rfl

/-- Digits with a fraction, if there is one, are a numeral. -/
lemma isNumeral_of_whole (negative : Bool) (whole : List Char) (fraction : Option (List Char))
    (hwhole : IsWhole whole) (hfraction : ∀ ds ∈ fraction, IsDigits ds) :
    IsNumeral (signText negative ++ (whole ++ fractionText fraction))
      ⟨negative, whole, fraction, none⟩ := by
  intro rest hrest
  obtain ⟨hpoint, hexponent⟩ := head?_of_endsNumeral hrest
  rw [List.append_assoc, List.append_assoc,
    readNumeral_sign negative (head?_whole_append hwhole _)]
  exact readUnsigned_append hwhole hfraction (endsDigits_of_endsNumeral hrest) hpoint hexponent

/-- The exponent of a numeral as it is written, always with its sign. -/
def exponentText (negative : Bool) (ds : List Char) : List Char :=
  'e' :: (if negative then '-' else '+') :: ds

lemma readExponent_append (below : Bool) (h : IsDigits ds) (hrest : endsDigits rest = true) :
    readExponent (exponentText below ds ++ rest) =
      some (some (if below then -(digitsValue ds : Int) else digitsValue ds), rest) := by
  cases below <;> simp [exponentText, readExponent, readSigned, readDigits_append h hrest]

/-- Digits with a fraction, if there is one, and an exponent are a numeral. -/
lemma isNumeral_of_exponent (negative below : Bool) {whole : List Char}
    (fraction : Option (List Char)) (hwhole : IsWhole whole)
    (hfraction : ∀ ds ∈ fraction, IsDigits ds) (hds : IsDigits ds) :
    IsNumeral (signText negative ++ (whole ++ (fractionText fraction ++ exponentText below ds)))
      ⟨negative, whole, fraction,
        some (if below then -(digitsValue ds : Int) else digitsValue ds)⟩ := by
  intro rest hrest
  rw [List.append_assoc, List.append_assoc, List.append_assoc,
    readNumeral_sign negative (head?_whole_append hwhole _)]
  exact readUnsigned_append hwhole hfraction rfl (by simp [exponentText])
    (readExponent_append below hds (endsDigits_of_endsNumeral hrest))

/-! ### Whole numbers -/

lemma toList_toString (n : Int) :
    (toString n).toList = signText (decide (n < 0)) ++ Nat.toDigits 10 n.natAbs := by
  cases n with
  | ofNat m =>
    have hnonneg : ¬ Int.ofNat m < 0 := by simp
    rw [decide_eq_false hnonneg]
    exact Nat.toList_repr
  | negSucc m =>
    rw [decide_eq_true (Int.negSucc_lt_zero m)]
    exact (String.toList_append ..).trans (congrArg ('-' :: ·) Nat.toList_repr)

/-- A whole number of 64 bits, with or without a sign, is read as itself. -/
theorem isNumeral_int {n : Int} (hlow : Int64.minValue.toInt ≤ n) (hhigh : n < UInt64.size) :
    ∃ m, IsNumeral (toString n).toList m ∧ m.toJson = .int n := by
  refine ⟨⟨decide (n < 0), Nat.toDigits 10 n.natAbs, none, none⟩, ?_, ?_⟩
  · have h := isNumeral_of_whole (decide (n < 0)) _ none (isWhole_toDigits n.natAbs) (by simp)
    rwa [fractionText, List.append_nil, ← toList_toString] at h
  · have hint : Numeral.toInt? ⟨decide (n < 0), Nat.toDigits 10 n.natAbs, none, none⟩ = some n := by
      simp only [Numeral.toInt?, Option.isNone_none, and_self, if_true, digitsValue_toDigits]
      by_cases hneg : n < 0
      · have habs : -(n.natAbs : Int) = n := by omega
        simp only [hneg, decide_true, if_true, habs]
        exact if_pos ⟨by omega, hlow⟩
      · have habs : (n.natAbs : Int) = n := by omega
        simp only [hneg, decide_false, Bool.false_eq_true, if_false, habs]
        exact if_pos (by omega)
    rw [Numeral.toJson, hint]

/-! ### Doubles -/

lemma isDigits_append {ds es : List Char} (hds : IsDigits ds) (hes : ∀ c ∈ es, c.isDigit = true) :
    IsDigits (ds ++ es) := by
  refine ⟨by simp [hds.1], fun c hc => ?_⟩
  rcases List.mem_append.mp hc with hc | hc
  · exact hds.2 c hc
  · exact hes c hc

lemma isDigit_of_mem_zeros {n : Nat} {c : Char} (h : c ∈ List.replicate n '0') :
    c.isDigit = true := by
  rw [List.eq_of_mem_replicate h]
  rfl

/-- Digits that start with no zero can be followed by others. -/
lemma isWhole_of_head? {ds : List Char} (hds : IsDigits ds) (h : ds.head? ≠ some '0') :
    IsWhole ds :=
  ⟨hds, fun hzero => absurd hzero h⟩

end DocQuery.Json

namespace DocQuery.Decimal

open Json

/-! ### The digits of doubles -/

lemma digits_stripZeros {fuel : Nat} {d : Digits} (h : d.digits ≠ 0) :
    (stripZeros fuel d).digits ≠ 0 := by
  induction fuel generalizing d with
  | zero => exact h
  | succ fuel ih =>
    rw [stripZeros]
    split
    · next hzero =>
      refine ih ?_
      show d.digits / 10 ≠ 0
      omega
    · exact h

/-- A double other than zero stays away from zero, and so does its rounding interval. -/
lemma interval_pos {x : Dyadic} (h : x.mantissa ≠ 0) :
    0 < x.interval.low ∧ 0 < x.interval.value := by
  unfold Dyadic.interval
  generalize hunit : (if 0 ≤ x.exponent then Nat.pow 2 x.exponent.toNat
    else Nat.pow 5 (-x.exponent).toNat) = unit
  have hpos : 0 < unit := by
    rw [← hunit]
    split
    · exact Nat.pow_pos (by omega)
    · exact Nat.pow_pos (by omega)
  have hvalue : unit ≤ x.mantissa * unit := Nat.le_mul_of_pos_left unit (Nat.pos_of_ne_zero h)
  refine ⟨?_, Nat.lt_of_lt_of_le hpos hvalue⟩
  show 0 < 4 * (x.mantissa * unit) - (if x.closeBelow then unit else 2 * unit)
  split <;> omega

lemma ne_zero_of_contains {i : Interval} (hlow : 0 < i.low) {n : Nat} (h : i.contains n = true) :
    n ≠ 0 := by
  rintro rfl
  rw [Interval.contains] at h
  split at h
  · simp at h
    omega
  · simp at h

/-- What is found on a grid reads back. -/
lemma contains_of_onGrid? {tie : Tie} {i : Interval} {grid n : Nat}
    (h : i.onGrid? tie grid = some n) : i.contains n = true := by
  simp only [Interval.onGrid?] at h
  split at h
  · next hbelow _ => exact Option.some.inj h ▸ hbelow
  · next _ habove => exact Option.some.inj h ▸ habove
  · exact absurd h (by simp)
  · next hbelow habove =>
    split at h
    · exact Option.some.inj h ▸ hbelow
    · split at h
      · exact Option.some.inj h ▸ habove
      · cases tie with
        | even =>
          simp only at h
          split at h
          · exact Option.some.inj h ▸ hbelow
          · exact Option.some.inj h ▸ habove
        | up => exact Option.some.inj h ▸ habove

/-- The shortest decimal of a double other than zero is no zero. -/
lemma digits_shortest {tie : Tie} {x : Dyadic} (h : x.mantissa ≠ 0) :
    (x.shortest tie).digits ≠ 0 := by
  obtain ⟨hlow, hvalue⟩ := interval_pos h
  rw [Dyadic.shortest, if_neg h]
  apply digits_stripZeros
  cases hfound : (List.range 17).findSome? fun n =>
      x.interval.onGrid? tie (Nat.pow 10 (digitCount x.interval.value - (n + 1))) with
  | none =>
    simp only [Option.getD_none]
    exact Nat.ne_of_gt hvalue
  | some n =>
    obtain ⟨_, _, hn⟩ := List.exists_of_findSome?_eq_some hfound
    simp only [Option.getD_some]
    exact ne_zero_of_contains hlow (contains_of_onGrid? hn)

/-- Only zero itself has zero for its digits, without an exponent. -/
lemma exponent_shortest {x : Dyadic} {tie : Tie} (h : (x.shortest tie).digits = 0) :
    (x.shortest tie).exponent = 0 := by
  by_cases hzero : x.mantissa = 0
  · rw [Dyadic.shortest, if_pos hzero]
  · exact absurd h (digits_shortest hzero)

/-! ### Layouts -/

lemma isWhole_take {n : Nat} (hn : n ≠ 0) {count : Nat} (hcount : 0 < count) :
    IsWhole ((digitChars n).take count) := by
  obtain ⟨c, cs, hcs⟩ := List.exists_cons_of_ne_nil (isDigits_toDigits n).1
  obtain ⟨k, rfl⟩ : ∃ k, count = k + 1 := ⟨count - 1, by omega⟩
  apply isWhole_of_head?
  · refine ⟨by simp [digitChars, hcs], fun c hc => ?_⟩
    exact (isDigits_toDigits n).2 c (List.mem_of_mem_take hc)
  · intro hhead
    apply hn
    apply head?_toDigits
    rw [hcs]
    rwa [digitChars, hcs] at hhead

lemma exists_isNumeral_positional {d : Digits} (h : d.digits = 0 → d.exponent = 0)
    (negative : Bool) :
    ∃ n, IsNumeral (signText negative ++ Json.numberLayout.positionalText d) n := by
  have hdigits : IsDigits (digitChars d.digits) := isDigits_toDigits d.digits
  simp only [Layout.positionalText, Json.numberLayout, if_true]
  split
  · next hexponent =>
    -- digits and zeros, then `.0`
    refine ⟨_, isNumeral_of_whole negative
      (digitChars d.digits ++ List.replicate d.exponent.toNat '0') (some ['0']) ?_ ?_⟩
    · refine ⟨isDigits_append hdigits fun c hc => isDigit_of_mem_zeros hc, fun hhead => ?_⟩
      obtain ⟨c, cs, hcs⟩ := List.exists_cons_of_ne_nil hdigits.1
      have hzero : d.digits = 0 := by
        apply head?_toDigits
        rw [digitChars] at hcs
        rw [hcs]
        simpa [digitChars, hcs] using hhead
      simp [hzero, h hzero, digitChars]
    · rintro ds ⟨rfl⟩
      exact ⟨by simp, by simp⟩
  · next hexponent =>
    have hne : d.digits ≠ 0 := fun hzero => by simp [h hzero] at hexponent
    split
    · next hpoint =>
      -- the point stands among the digits
      refine ⟨_, isNumeral_of_whole negative _ (some ((digitChars d.digits).drop _))
        (isWhole_take hne (by omega)) ?_⟩
      rintro ds ⟨rfl⟩
      refine ⟨?_, fun c hc => hdigits.2 c (List.mem_of_mem_drop hc)⟩
      rw [ne_eq, List.drop_eq_nil_iff]
      omega
    · -- the point stands before all digits
      refine ⟨_, isNumeral_of_whole negative ['0']
        (some (List.replicate _ '0' ++ digitChars d.digits)) ?_ ?_⟩
      · exact ⟨⟨by simp, by simp⟩, fun _ => rfl⟩
      · rintro ds ⟨rfl⟩
        refine ⟨by simp [hdigits.1], fun c hc => ?_⟩
        rcases List.mem_append.mp hc with hc | hc
        · exact isDigit_of_mem_zeros hc
        · exact hdigits.2 c hc

lemma exists_isNumeral_scientific {d : Digits} (h : d.digits ≠ 0) (negative : Bool) :
    ∃ n, IsNumeral (signText negative ++ scientificText d) n := by
  have hdigits : IsDigits (digitChars d.digits) := isDigits_toDigits d.digits
  have hwhole : IsWhole ((digitChars d.digits).take 1) := isWhole_take h (by omega)
  simp only [scientificText]
  generalize ((digitChars d.digits).length : Int) + d.exponent - 1 = exponent
  have hds := isDigits_toDigits exponent.natAbs
  cases htail : (digitChars d.digits).tail with
  | nil =>
    have hn := isNumeral_of_exponent negative (decide (exponent < 0)) none hwhole (by simp) hds
    exact ⟨_, by simpa [fractionText, exponentText, digitChars] using hn⟩
  | cons c cs =>
    have hfraction : IsDigits (c :: cs) :=
      ⟨by simp, fun e he => hdigits.2 e (List.mem_of_mem_tail (htail ▸ he))⟩
    have hn := isNumeral_of_exponent negative (decide (exponent < 0)) (some (c :: cs)) hwhole
      (by rintro ds ⟨rfl⟩; exact hfraction) hds
    exact ⟨_, by simpa [fractionText, exponentText, digitChars] using hn⟩

/-- A finite double is written as a numeral. -/
lemma exists_isNumeral_text (negative : Bool) (x : Dyadic) (tie : Tie) :
    ∃ n, IsNumeral (Json.numberLayout.text negative (x.shortest tie)).toList n := by
  have htext : ∀ body : List Char,
      (if negative then '-' :: body else body) = signText negative ++ body := by
    intro body
    cases negative <;> rfl
  have hpositional := exists_isNumeral_positional (@exponent_shortest x tie) negative
  simp only [Layout.text, String.toList_ofList, htext]
  split
  · exact hpositional
  · split
    · exact hpositional
    · next hrange =>
      exact exists_isNumeral_scientific (fun hzero => hrange (.inl hzero)) negative

end DocQuery.Decimal

namespace DocQuery.Json

/-- The text of a double is a numeral unless it is `null`, which stands for no number. -/
theorem isNumeral_float (x : Float) :
    floatText x = "null" ∨ ∃ n, IsNumeral (floatText x).toList n := by
  rw [floatText]
  cases Decimal.Double.ofFloat x with
  | finite negative magnitude => exact .inr (Decimal.exists_isNumeral_text negative magnitude _)
  | infinite negative => exact .inl rfl
  | nan => exact .inl rfl

end DocQuery.Json
