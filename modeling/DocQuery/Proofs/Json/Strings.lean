import DocQuery.Json.Reader
import DocQuery.Json.Writer
import Mathlib.Tactic.Lemma
/-!
# Strings in JSON

A string is read back from the text it is written as, whatever stands behind its closing quote
(`readString_escaped`).
-/

namespace DocQuery.Json

/-! ### Characters -/

/-- The control characters that are written with a letter of their own. -/
def letteredControls : List Char := ['\x08', '\x0C', '\n', '\r', '\t']

/-- How a character is read: a control character without a letter of its own as a code unit. -/
def stringItem (c : Char) : StringItem :=
  if c.toNat < 0x20 ∧ c ∉ letteredControls then .unit c.toNat else .char c

lemma hexDigit?_hexDigit : ∀ n < 16, hexDigit? (hexDigit n) = some n := by decide

lemma codeUnit?_hexDigit {n : Nat} (h : n < 0x20) :
    codeUnit? '0' '0' (hexDigit (n / 16)) (hexDigit (n % 16)) = some n := by
  have hzero : hexDigit? '0' = some 0 := rfl
  rw [codeUnit?, hzero, hexDigit?_hexDigit _ (by omega), hexDigit?_hexDigit _ (by omega)]
  refine congrArg some ?_
  show ((0 * 16 + 0) * 16 + n / 16) * 16 + n % 16 = n
  omega

variable {items : List StringItem} {cs rest : List Char}

/-- A character is read from its escape. -/
lemma readStringItems_escape (c : Char) (h : readStringItems cs = some (items, rest)) :
    readStringItems (escape c ++ cs) = some (stringItem c :: items, rest) := by
  unfold escape
  split
  · simp [readStringItems, escaped?, h, stringItem]
  · simp [readStringItems, escaped?, h, stringItem]
  · simp [readStringItems, escaped?, h, stringItem, letteredControls]
  · simp [readStringItems, escaped?, h, stringItem, letteredControls]
  · simp [readStringItems, escaped?, h, stringItem, letteredControls]
  · simp [readStringItems, escaped?, h, stringItem, letteredControls]
  · simp [readStringItems, escaped?, h, stringItem, letteredControls]
  · next hquote hbackslash hb hf hn hr ht =>
    split
    · next hcontrol =>
      have hlettered : c ∉ letteredControls := by
        simpa [letteredControls] using ⟨hb, hf, hn, hr, ht⟩
      simp [readStringItems, codeUnit?_hexDigit hcontrol, h, stringItem, hcontrol, hlettered]
    · next hcontrol =>
      have hplain : ¬ (c.toNat < 0x20 ∨ c = '\\') := not_or.mpr ⟨hcontrol, hbackslash⟩
      rw [List.singleton_append, readStringItems, if_neg hplain, h]
      · simp [stringItem, hcontrol]
      · exact hquote
      · intro _ _ _ _ _ heq
        exact absurd heq hbackslash
      · intro _ _ heq
        exact absurd heq hbackslash

lemma readStringItems_flatMap_escape (s rest : List Char) :
    readStringItems (s.flatMap escape ++ '"' :: rest) = some (s.map stringItem, rest) := by
  induction s with
  | nil => rfl
  | cons c s ih =>
    rw [List.flatMap_cons, List.append_assoc, List.map_cons]
    exact readStringItems_escape c ih

/-! ### Strings -/

lemma joinStringItems_cons (c : Char) (items : List StringItem) :
    joinStringItems (stringItem c :: items) = (joinStringItems items).map (c :: ·) := by
  unfold stringItem
  split
  · next hcontrol =>
    -- a control character is no half of a surrogate pair
    have hhigh : isHighSurrogate c.toNat = false := by
      rw [isHighSurrogate, decide_eq_false (by omega), Bool.false_and]
    have hlow : isLowSurrogate c.toNat = false := by
      rw [isLowSurrogate, decide_eq_false (by omega), Bool.false_and]
    cases items with
    | nil => simp [joinStringItems, hhigh, hlow]
    | cons item items => cases item <;> simp [joinStringItems, hhigh, hlow]
  · rfl

lemma joinStringItems_map (s : List Char) : joinStringItems (s.map stringItem) = some s := by
  induction s with
  | nil => rfl
  | cons c s ih => rw [List.map_cons, joinStringItems_cons, ih, Option.map_some]

/-- The text of a string without its opening quote. -/
lemma toList_stringText (s : String) :
    (stringText s).toList = '"' :: (s.toList.flatMap escape ++ ['"']) :=
  String.toList_ofList

/-- A string is read back behind its opening quote, up to its closing one. -/
theorem readString_escaped (s : String) (rest : List Char) :
    readString (s.toList.flatMap escape ++ '"' :: rest) = some (some s, rest) := by
  rw [readString, readStringItems_flatMap_escape]
  simp only [Option.map_some, joinStringItems_map, String.ofList_toList]

end DocQuery.Json
