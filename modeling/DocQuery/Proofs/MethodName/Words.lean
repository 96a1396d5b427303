import Mathlib.Data.List.Basic
import Mathlib.Data.List.Infix
import Mathlib.Data.List.SplitBy
import Mathlib.Tactic.Lemma
/-!
# Words without separators

A text of capitalized words has but one way to be taken apart, so that a row of words can start and
end only where words of the text do (`eq_of_prefix_append`, `isSuffix_of_flatten`). Underscores
between the words do no harm, and are taken for pieces of their own.
-/

namespace DocQuery.MethodName

/-- An upper-case letter of ASCII and any lower-case letters behind it. -/
def IsWord : List Char → Prop
  | [] => False
  | c :: cs => c.isUpper = true ∧ ∀ d ∈ cs, d.isLower = true

/-- A character other than a lower-case letter, and any lower-case letters behind it. -/
def IsPiece : List Char → Prop
  | [] => False
  | c :: cs => c.isLower = false ∧ ∀ d ∈ cs, d.isLower = true

instance : DecidablePred IsWord
  | [] => inferInstanceAs (Decidable False)
  | c :: cs => decidable_of_iff (c.isUpper = true ∧ cs.all Char.isLower = true) <|
    and_congr_right fun _ => List.all_eq_true

/-- A piece can start here: the text does not start with a lower-case letter. -/
def StartsPiece (cs : List Char) : Prop := ∀ c ∈ cs.head?, c.isLower = false

/-! ### Letters -/

lemma isUpper_iff {c : Char} : c.isUpper = true ↔ 65 ≤ c.toNat ∧ c.toNat ≤ 90 := by
  have hdef : c.isUpper = decide (c.val ≥ 'A'.val ∧ c.val ≤ 'Z'.val) := rfl
  simp [hdef, UInt32.le_iff_toNat_le, ← Char.toNat_val]

lemma isLower_iff {c : Char} : c.isLower = true ↔ 97 ≤ c.toNat ∧ c.toNat ≤ 122 := by
  have hdef : c.isLower = (decide (c.val ≥ 'a'.val) && decide (c.val ≤ 'z'.val)) := rfl
  simp [hdef, UInt32.le_iff_toNat_le, ← Char.toNat_val]

lemma isLower_of_isUpper {c : Char} (h : c.isUpper = true) : c.isLower = false := by
  rw [isUpper_iff] at h
  rw [Bool.eq_false_iff, ne_eq, isLower_iff]
  omega

/-! ### Pieces -/

lemma IsPiece.exists_cons {p : List Char} (h : IsPiece p) :
    ∃ c cs, p = c :: cs ∧ c.isLower = false ∧ ∀ d ∈ cs, d.isLower = true := by
  cases p with
  | nil => exact absurd h id
  | cons c cs => exact ⟨c, cs, rfl, h.1, h.2⟩

lemma IsWord.isPiece {w : List Char} (h : IsWord w) : IsPiece w := by
  cases w with
  | nil => exact h
  | cons c cs => exact ⟨isLower_of_isUpper h.1, h.2⟩

lemma IsPiece.ne_nil {p : List Char} (h : IsPiece p) : p ≠ [] := by
  rintro rfl
  exact h

lemma IsPiece.startsPiece {p : List Char} (h : IsPiece p) (rest : List Char) :
    StartsPiece (p ++ rest) := by
  obtain ⟨c, cs, rfl, hc, -⟩ := h.exists_cons
  simpa [StartsPiece] using hc

lemma startsPiece_nil : StartsPiece [] := by
  simp [StartsPiece]

lemma startsPiece_flatten {ps : List (List Char)} (h : ∀ p ∈ ps, IsPiece p) :
    StartsPiece ps.flatten := by
  cases ps with
  | nil => exact startsPiece_nil
  | cons p ps => exact (h p (by simp)).startsPiece _

lemma startsPiece_append {cs rest : List Char} (h : StartsPiece cs) (hrest : StartsPiece rest) :
    StartsPiece (cs ++ rest) := by
  cases cs with
  | nil => exact hrest
  | cons c cs => exact h

lemma takeWhile_isLower {cs rest : List Char} (h : ∀ d ∈ cs, d.isLower = true)
    (hrest : StartsPiece rest) : (cs ++ rest).takeWhile Char.isLower = cs := by
  have hstop : rest.takeWhile Char.isLower = [] := by
    cases rest with
    | nil => rfl
    | cons c rest => rw [List.takeWhile_cons_of_neg (by simp [hrest c rfl])]
  rw [List.takeWhile_append_of_pos h, hstop, List.append_nil]

/-- The first piece of a text is determined. -/
lemma eq_of_append_eq {p q xs ys : List Char} (hp : IsPiece p) (hq : IsPiece q)
    (hxs : StartsPiece xs) (hys : StartsPiece ys) (h : p ++ xs = q ++ ys) : p = q ∧ xs = ys := by
  obtain ⟨c, cs, rfl, -, hcs⟩ := hp.exists_cons
  obtain ⟨d, ds, rfl, -, hds⟩ := hq.exists_cons
  obtain ⟨rfl, htail⟩ : c = d ∧ cs ++ xs = ds ++ ys := List.cons.inj h
  have hlower : cs = ds := by
    rw [← takeWhile_isLower hcs hxs, htail, takeWhile_isLower hds hys]
  subst hlower
  exact ⟨rfl, List.append_cancel_left htail⟩

/-- A text that starts with a piece and more pieces behind it starts with this piece. -/
lemma eq_of_prefix_append {p q ks rest : List Char} (hp : IsPiece p) (hq : IsPiece q)
    (hks : StartsPiece ks) (hne : ks ≠ []) (hrest : StartsPiece rest)
    (h : q ++ ks <+: p ++ rest) : p = q ∧ ks <+: rest := by
  obtain ⟨t, ht⟩ := h
  have hkst : StartsPiece (ks ++ t) := by
    obtain ⟨c, cs, rfl⟩ := List.exists_cons_of_ne_nil hne
    exact hks
  rw [List.append_assoc] at ht
  obtain ⟨rfl, rfl⟩ := eq_of_append_eq hp hq hrest hkst ht.symm
  exact ⟨rfl, t, rfl⟩

/-- The pieces of a text are determined. -/
lemma eq_of_flatten_eq {ps qs : List (List Char)} (hps : ∀ p ∈ ps, IsPiece p)
    (hqs : ∀ q ∈ qs, IsPiece q) (h : ps.flatten = qs.flatten) : ps = qs := by
  induction ps generalizing qs with
  | nil =>
    cases qs with
    | nil => rfl
    | cons q qs => exact absurd h.symm (by simp [(hqs q (by simp)).ne_nil])
  | cons p ps ih =>
    cases qs with
    | nil => exact absurd h (by simp [(hps p (by simp)).ne_nil])
    | cons q qs =>
      obtain ⟨hp, hps⟩ := List.forall_mem_cons.mp hps
      obtain ⟨hq, hqs⟩ := List.forall_mem_cons.mp hqs
      obtain ⟨heq, hrest⟩ :=
        eq_of_append_eq hp hq (startsPiece_flatten hps) (startsPiece_flatten hqs) h
      rw [heq, ih hps hqs hrest]

/-- A text can end in a row of pieces only if these are its last pieces. -/
lemma isSuffix_of_flatten {ps qs : List (List Char)} (hps : ∀ p ∈ ps, IsPiece p)
    (hqs : ∀ q ∈ qs, IsPiece q) (h : qs.flatten <:+ ps.flatten) : qs <:+ ps := by
  induction ps with
  | nil =>
    have hnil : qs = [] := eq_of_flatten_eq hqs hps (List.suffix_nil.mp h)
    rw [hnil]
  | cons p ps ih =>
    obtain ⟨hp, htail⟩ := List.forall_mem_cons.mp hps
    obtain ⟨t, ht⟩ := h
    rcases List.append_eq_append_iff.mp ht with ⟨as, hpas, hqsas⟩ | ⟨bs, -, hpsbs⟩
    · cases t with
      | nil =>
        rw [List.nil_append] at hpas
        have heq : qs = p :: ps := eq_of_flatten_eq hqs hps (by rw [hqsas, ← hpas]; rfl)
        rw [heq]
      | cons c t =>
        cases as with
        | nil =>
          have heq : qs = ps := eq_of_flatten_eq hqs htail hqsas
          rw [heq]
          exact List.suffix_cons p ps
        | cons d as =>
          -- the row of pieces would start inside `p`
          obtain ⟨_, cs, rfl, -, hcs⟩ := hp.exists_cons
          obtain ⟨-, rfl⟩ := List.cons.inj hpas
          have hlower : d.isLower = true := hcs d (by simp)
          have hupper : d.isLower = false := startsPiece_flatten hqs d (by rw [hqsas]; rfl)
          exact absurd hlower (by simp [hupper])
    · exact (ih htail ⟨bs, hpsbs.symm⟩).trans (List.suffix_cons p ps)

end DocQuery.MethodName
