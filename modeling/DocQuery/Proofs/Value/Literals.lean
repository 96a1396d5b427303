import DocQuery.Proofs.Json.Reading
import DocQuery.Proofs.Text.Symbols
import DocQuery.Value
/-!
# Literals of values

A literal can be read: from the front of a text that does not go on with it, it gives the value it
is the literal of and leaves the rest of the text (`readLiteral?_append`). So values without doubles
have different literals (`literal_determines_value`).
-/

namespace DocQuery.Value

/-! ### Reading literals -/

mutual

/-- Reads a literal. -/
def readLiteral (fuel : Nat) (cs : List Char) : Option (Value × List Char) :=
  match fuel with
  | 0 => none
  | fuel + 1 =>
    match cs with
    | 'n' :: 'u' :: 'l' :: 'l' :: rest => some (.null, rest)
    | 't' :: 'r' :: 'u' :: 'e' :: rest => some (.bool true, rest)
    | 'f' :: 'a' :: 'l' :: 's' :: 'e' :: rest => some (.bool false, rest)
    | '"' :: rest =>
      (Quoted.readRun '"' rest).map fun (run, rest) => (.string (String.ofList run), rest)
    | '[' :: ']' :: rest => some (.array [], rest)
    | '[' :: rest => (readLiterals fuel rest).map fun (items, rest) => (.array items, rest)
    | cs => (Json.readSigned cs).map fun (n, rest) => (.int (Int64.ofInt n), rest)

/-- Reads the literals of an array up to its closing bracket, at least one. -/
def readLiterals (fuel : Nat) (cs : List Char) : Option (List Value × List Char) :=
  match fuel with
  | 0 => none
  | fuel + 1 => do
    let (item, rest) ← readLiteral fuel cs
    match rest with
    | ',' :: ' ' :: rest => do
      let (items, rest) ← readLiterals fuel rest
      return (item :: items, rest)
    | ']' :: rest => return ([item], rest)
    | _ => none

end

/-- Reads a literal from the front of a text: its value, and the rest of the text. -/
def readLiteral? (cs : List Char) : Option (Value × List Char) := readLiteral (cs.length + 1) cs

/-- Whether a literal ends before the text: strings do not go on with a quote, and numbers with no
digit. -/
def endsLiteral : List Char → Bool
  | [] => true
  | c :: _ => !(c == '"' || c.isDigit)

/-- The value is no double and holds none. -/
inductive IsFloatFree : Value → Prop where
  | null : IsFloatFree .null
  | bool (b : Bool) : IsFloatFree (.bool b)
  | int (n : Int64) : IsFloatFree (.int n)
  | string (s : String) : IsFloatFree (.string s)
  | array {items : List Value} (h : ∀ v ∈ items, IsFloatFree v) : IsFloatFree (.array items)

/-! ### Whole numbers -/

variable {rest : List Char}

lemma head?_ne_of_endsLiteral (h : endsLiteral rest = true) : rest.head? ≠ some '"' := by
  cases rest with
  | nil => simp
  | cons c rest =>
    intro heq
    obtain rfl := Option.some.inj heq
    simp [endsLiteral] at h

lemma endsDigits_of_endsLiteral (h : endsLiteral rest = true) : Json.endsDigits rest = true := by
  cases rest with
  | nil => rfl
  | cons c rest => simp_all [endsLiteral, Json.endsDigits]

/-- A whole number is read from its decimal text. -/
lemma readSigned_append (n : Int) (h : Json.endsDigits rest = true) :
    Json.readSigned ((toString n).toList ++ rest) = some (n, rest) := by
  have hdigits := Json.isDigits_toDigits n.natAbs
  have hread := Json.readDigits_append hdigits h
  rw [Json.toList_toString, List.append_assoc]
  by_cases hneg : n < 0
  · have habs : -(n.natAbs : Int) = n := by omega
    simp only [Json.signText, decide_eq_true hneg, if_true, List.cons_append, List.nil_append,
      Json.readSigned, hread, Option.map_some, Json.digitsValue_toDigits, habs]
  · have habs : (n.natAbs : Int) = n := by omega
    obtain ⟨d, ds, hds⟩ := List.exists_cons_of_ne_nil hdigits.1
    have hd : d.isDigit = true := hdigits.2 d (by simp [hds])
    have hminus : d ≠ '-' := by
      rintro rfl
      exact absurd hd (by decide)
    have hplus : d ≠ '+' := by
      rintro rfl
      exact absurd hd (by decide)
    simp only [Json.signText, decide_eq_false hneg, Bool.false_eq_true, if_false, List.nil_append]
    rw [hds] at hread ⊢
    rw [List.cons_append] at hread ⊢
    unfold Json.readSigned
    split
    · next heq => exact absurd (List.cons.inj heq).1 hminus
    · next heq => exact absurd (List.cons.inj heq).1 hplus
    · rw [hread, ← hds]
      simp only [Option.map_some, Json.digitsValue_toDigits, habs]

/-! ### Texts of arrays -/

/-- The literals of the items of an array, without its brackets. -/
def itemsText (vs : List Value) : List Char := (String.intercalate ", " (literals vs)).toList

lemma toList_literal_array (items : List Value) :
    (literal (.array items)).toList = '[' :: (itemsText items ++ [']']) := by
  rw [literal, String.toList_append, String.toList_append]
  rfl

lemma itemsText_singleton (v : Value) : itemsText [v] = v.literal.toList := by
  simp [itemsText, literals]

lemma itemsText_cons_cons (v w : Value) (vs : List Value) :
    itemsText (v :: w :: vs) = v.literal.toList ++ ',' :: ' ' :: itemsText (w :: vs) := by
  simp [itemsText, literals, String.intercalate_cons_cons]

/-- The text of an array starts with its first item. -/
lemma exists_itemsText_eq (v : Value) (vs : List Value) :
    ∃ cs, itemsText (v :: vs) = v.literal.toList ++ cs := by
  cases vs with
  | nil => exact ⟨[], by rw [itemsText_singleton, List.append_nil]⟩
  | cons w vs => exact ⟨_, itemsText_cons_cons v w vs⟩

/-! ### Literals that are read back -/

/-- The value is read from its literal in front of any text that does not go on with it. -/
structure IsReadBack (v : Value) : Prop where
  starts : ∃ c cs, v.literal.toList = c :: cs ∧ c ≠ ']'
  reads (fuel : Nat) (rest : List Char) : v.literal.toList.length ≤ fuel →
    endsLiteral rest = true → readLiteral (fuel + 1) (v.literal.toList ++ rest) = some (v, rest)

lemma isReadBack_null : IsReadBack .null where
  starts := ⟨'n', _, rfl, by decide⟩
  reads _ _ _ _ := by simp [literal, readLiteral]

lemma isReadBack_bool (b : Bool) : IsReadBack (.bool b) where
  starts := by cases b <;> exact ⟨_, _, rfl, by decide⟩
  reads _ _ _ _ := by cases b <;> simp [literal, boolText, readLiteral]

lemma isReadBack_string (s : String) : IsReadBack (.string s) where
  starts := ⟨'"', _, String.toList_ofList, by decide⟩
  reads _ rest _ hrest := by
    have hread := Quoted.readRun_double '"' s.toList rest (head?_ne_of_endsLiteral hrest)
    simp [literal, Quoted.literal, Quoted.wrap, readLiteral, hread]

/-- Digits and their sign are read as a whole number. -/
lemma readLiteral_numeral {c : Char} (h : Json.startsNumeral c = true) (fuel : Nat)
    (cs : List Char) :
    readLiteral (fuel + 1) (c :: cs) =
      (Json.readSigned (c :: cs)).map fun (n, rest) => (.int (Int64.ofInt n), rest) := by
  have hne : ∀ d, Json.startsNumeral d = false → c ≠ d := by
    rintro d hd rfl
    rw [h] at hd
    exact absurd hd (by simp)
  rw [readLiteral]
  -- none of the other forms starts like a number
  all_goals
    intro _ heq
    exact hne _ rfl (List.cons.inj heq).1

lemma isReadBack_int (n : Int64) : IsReadBack (.int n) := by
  obtain ⟨m, hm, -⟩ := Json.isNumeral_int n.minValue_le_toInt (Int.lt_trans n.toInt_lt (by decide))
  have hempty := hm [] rfl
  rw [List.append_nil] at hempty
  obtain ⟨c, cs, htext, hc⟩ := Json.exists_cons_of_readNumeral hempty
  refine ⟨⟨c, cs, htext, ?_⟩, fun fuel rest _ hrest => ?_⟩
  · rintro rfl
    exact absurd hc (by decide)
  · have hread := readSigned_append n.toInt (endsDigits_of_endsLiteral hrest)
    rw [htext, List.cons_append] at hread
    rw [literal, htext, List.cons_append, readLiteral_numeral hc, hread]
    simp

lemma readLiterals_append (fuel : Nat) (rest : List Char) {vs : List Value} (hne : vs ≠ [])
    (h : ∀ v ∈ vs, v.IsReadBack) (hfuel : (itemsText vs).length < fuel) :
    readLiterals (fuel + 1) (itemsText vs ++ ']' :: rest) = some (vs, rest) := by
  induction vs generalizing fuel with
  | nil => exact absurd rfl hne
  | cons v vs ih =>
    obtain ⟨fuel, rfl⟩ : ∃ n, fuel = n + 1 := ⟨fuel - 1, by omega⟩
    obtain ⟨hv, hvs⟩ := List.forall_mem_cons.mp h
    cases vs with
    | nil =>
      rw [itemsText_singleton] at hfuel ⊢
      have hread := hv.reads fuel (']' :: rest) (by omega) rfl
      simp [readLiterals, hread]
    | cons w vs =>
      rw [itemsText_cons_cons] at hfuel ⊢
      rw [List.length_append, List.length_cons, List.length_cons] at hfuel
      have hread := hv.reads fuel (',' :: ' ' :: (itemsText (w :: vs) ++ ']' :: rest)) (by omega) rfl
      have htail := ih fuel (by simp) hvs (by omega)
      rw [List.append_assoc, List.cons_append, List.cons_append, readLiterals, hread]
      simp [htail]

lemma isReadBack_array {items : List Value} (h : ∀ v ∈ items, v.IsReadBack) :
    IsReadBack (.array items) where
  starts := ⟨'[', _, toList_literal_array items, by decide⟩
  reads fuel rest hfuel _ := by
    rw [toList_literal_array] at hfuel ⊢
    rw [List.cons_append, List.append_assoc, List.singleton_append]
    cases items with
    | nil => simp [itemsText, literals, readLiteral]
    | cons v vs =>
      obtain ⟨fuel, rfl⟩ : ∃ n, fuel = n + 1 := ⟨fuel - 1, by simp at hfuel; omega⟩
      have hread := readLiterals_append fuel rest (by simp) h (by simp at hfuel; omega)
      -- the first item does not start with the bracket of an empty array
      obtain ⟨c, cs, hc, hbracket⟩ := (h v (by simp)).starts
      obtain ⟨cs', hcs'⟩ := exists_itemsText_eq v vs
      rw [hcs', hc, List.cons_append, List.cons_append] at hread ⊢
      rw [readLiteral]
      · rw [hread, Option.map_some]
      · intro rest' heq
        exact hbracket (List.cons.inj heq).1

/-- Every value without doubles is read from its literal. -/
theorem isReadBack {v : Value} (h : v.IsFloatFree) : v.IsReadBack := by
  induction h with
  | null => exact isReadBack_null
  | bool b => exact isReadBack_bool b
  | int n => exact isReadBack_int n
  | string s => exact isReadBack_string s
  | array _ ih => exact isReadBack_array ih

/-- A value without doubles is read from its literal, in front of any text that does not go on with
it. -/
theorem readLiteral?_append {v : Value} (h : v.IsFloatFree) {rest : List Char}
    (hrest : endsLiteral rest = true) :
    readLiteral? (v.literal.toList ++ rest) = some (v, rest) := by
  refine (isReadBack h).reads _ rest ?_ hrest
  rw [List.length_append]
  exact Nat.le_add_right ..

/-! ### Values and their literals -/

/-- Values without doubles that have one literal are one value, and each is read from its literal,
in front of any text that does not go on with it. -/
theorem literal_determines_value {v : Value} (h : v.IsFloatFree) :
    (∀ w : Value, w.IsFloatFree → v.literal = w.literal → v = w) ∧
    ∀ rest : List Char, endsLiteral rest = true →
      readLiteral? (v.literal.toList ++ rest) = some (v, rest) := by
  refine ⟨fun w hw heq => ?_, fun rest hrest => readLiteral?_append h hrest⟩
  have hv : readLiteral? (v.literal.toList ++ []) = some (v, []) := readLiteral?_append h rfl
  rw [heq, readLiteral?_append hw rfl] at hv
  exact (Prod.mk.inj (Option.some.inj hv)).1.symm

/-- A string that looks like the inside of an array, and stands in one, is told from the items that
it names. -/
theorem literal_of_arrayOfText :
    let v : Value := .array [.string "null, \"a\"], [", .array [], .int (-12)]
    v.IsFloatFree ∧
      v.literal ≠ (Value.array [.null, .string "a", .array [.array [], .int (-12)]]).literal ∧
      readLiteral? (v.literal.toList ++ " and true".toList) = some (v, " and true".toList) := by
  intro v
  have hv : v.IsFloatFree := .array (by simpa using ⟨.string _, .array (by simp), .int _⟩)
  have hw : (Value.array [.null, .string "a", .array [.array [], .int (-12)]]).IsFloatFree :=
    .array (by simpa using ⟨.null, .string _, .array (by simpa using ⟨.array (by simp), .int _⟩)⟩)
  obtain ⟨hinjective, hread⟩ := literal_determines_value hv
  exact ⟨hv, fun heq => absurd (hinjective _ hw heq) (by simp [v]), hread _ (by decide)⟩

end DocQuery.Value
