import DocQuery.CommandLine.Invocation
import DocQuery.Proofs.Json.Numbers
/-!
# Words that are read

What the words of a command add to the keys that are given: options with their values attached,
arguments with any word as their value, and the positional word behind two hyphens
(`readAll_of_adds`).
-/

namespace DocQuery.CommandLine

/-! ### Numbers -/

lemma le_ofDigitChars (n : Nat) (cs : List Char) : n ≤ Nat.ofDigitChars 10 cs n := by
  induction cs generalizing n with
  | nil => exact Nat.le_refl n
  | cons c cs ih =>
    rw [Nat.ofDigitChars_cons]
    exact Nat.le_trans (by omega) (ih _)

/-- Digits are read as the number that they write behind those read before. -/
lemma numberFrom?_of_isDigit {n : Nat} {cs : List Char} (h : ∀ c ∈ cs, c.isDigit = true)
    (hsize : Nat.ofDigitChars 10 cs n < UInt64.size) :
    numberFrom? n cs = some (UInt64.ofNat (Nat.ofDigitChars 10 cs n)) := by
  induction cs generalizing n with
  | nil => rfl
  | cons c cs ih =>
    obtain ⟨hc, hcs⟩ := List.forall_mem_cons.mp h
    rw [Nat.ofDigitChars_cons] at hsize ⊢
    have hle := le_ofDigitChars (10 * n + (c.toNat - '0'.toNat)) cs
    rw [numberFrom?, if_pos ⟨hc, Nat.lt_of_le_of_lt hle hsize⟩]
    exact ih hcs hsize

/-- A number is read from its decimal digits. -/
lemma number?_toString (n : UInt64) : number? (toString n) = some n := by
  have hdigits := Json.isDigits_toDigits n.toNat
  have htext : (toString n).toList = Nat.toDigits 10 n.toNat := Nat.toList_repr
  have hread : numberFrom? 0 (Nat.toDigits 10 n.toNat) = some n := by
    rw [numberFrom?_of_isDigit hdigits.2, Nat.ofDigitChars_ten_toDigits, UInt64.ofNat_toNat]
    rw [Nat.ofDigitChars_ten_toDigits]
    exact n.toNat_lt
  have hplus : '+' ∉ Nat.toDigits 10 n.toNat := fun h => absurd (hdigits.2 _ h) (by decide)
  rw [number?, htext]
  split
  · next hnil => exact absurd hnil hdigits.1
  · next heq => exact absurd (by simp [heq]) hplus
  · next heq => exact absurd (by simp [heq]) hplus
  · exact hread

/-! ### Keys -/

variable {fs : List String} {g : Grammar} {given given' : List (Key × String)}

lemma State.has_eq_false {s : State} {key : Key} (h : key ∉ s.given.map (·.1)) :
    s.has key = false := by
  have hnone : s.value? key = none := by
    refine List.lookup_eq_none_iff.mpr fun p hp => bne_iff_ne.mpr ?_
    rintro rfl
    exact h (List.mem_map_of_mem (List.mem_reverse.mp hp))
  rw [has, hnone]
  rfl

/-- A good value is taken for a key that is not given yet. -/
lemma State.accept_of_new {s : State} {key : Key} {value : String}
    (hnew : key ∉ s.given.map (·.1)) (hvalue : valueFault? fs value key = none) :
    s.accept fs key value = .ok { s with given := s.given ++ [(key, value)] } := by
  simp [accept, has_eq_false hnew, hvalue]

/-! ### Single words -/

/-- The state in which keys are given and the positional words are to come. The value of the last
argument may not be settled yet. -/
inductive Says (g : Grammar) : List (Key × String) → State → Prop where
  | settled (given : List (Key × String)) : Says g given ⟨given, none, g.positionals, false⟩
  | pending (given : List (Key × String)) (text : String) :
    Says g (given ++ [(.arg, text)]) ⟨given, some (.arg, some text), g.positionals, false⟩

namespace Says

variable {s : State}

lemma trailing (h : Says g given s) : s.trailing = false := by cases h <;> rfl

lemma awaited? (h : Says g given s) : s.awaited? = none := by cases h <;> rfl

lemma positionals (h : Says g given s) : s.positionals = g.positionals := by cases h <;> rfl

/-- Settling does not mind the end of the options. -/
lemma settle (h : Says g given s) (trailing : Bool) :
    { s with trailing := trailing }.settle fs = .ok ⟨given, none, g.positionals, trailing⟩ := by
  cases h with
  | settled => rfl
  | pending => simp [State.settle, State.accept, valueFault?]

lemma settle_self (h : Says g given s) : s.settle fs = .ok ⟨given, none, g.positionals, false⟩ := by
  have hself : { s with trailing := false } = s := by
    rw [← h.trailing]
  rw [← h.settle false, hself]

/-- A word that starts with two hyphens is the name of a switch. -/
lemma readWord_long (h : Says g given s) {word : String} {cs : List Char} (hcs : cs ≠ [])
    (hword : word.toList = '-' :: '-' :: cs) : readWord fs g s word = readLong fs g s cs := by
  obtain ⟨c, cs, rfl⟩ := List.exists_cons_of_ne_nil hcs
  simp [readWord, h.trailing, h.awaited?, hword]

end Says

lemma cutAtEquals_of_notMem {name : List Char} (h : '=' ∉ name) (rest : List Char) :
    cutAtEquals (name ++ '=' :: rest) = (name, some rest) := by
  induction name with
  | nil => rfl
  | cons c name ih =>
    obtain ⟨hc, hname⟩ : '=' ≠ c ∧ '=' ∉ name := by simpa using h
    rw [List.cons_append, cutAtEquals, if_neg hc.symm, ih hname]

/-! ### Rows of words -/

/-- An option with its value attached. -/
def optionWord (name value : String) : String := "--" ++ name ++ "=" ++ value

/-- Reading the words changes what is given. -/
def Adds (fs : List String) (g : Grammar) (words : List String)
    (given given' : List (Key × String)) : Prop :=
  ∀ s, Says g given s →
    ∃ t, Says g given' t ∧ ∀ rest, readWords fs g s (words ++ rest) = readWords fs g t rest

namespace Adds

variable {words words' : List String} {given'' : List (Key × String)}

lemma nil : Adds fs g [] given given := fun s h => ⟨s, h, fun _ => rfl⟩

lemma append (h : Adds fs g words given given') (h' : Adds fs g words' given' given'') :
    Adds fs g (words ++ words') given given'' := by
  intro s hs
  obtain ⟨t, ht, hread⟩ := h s hs
  obtain ⟨u, hu, hread'⟩ := h' t ht
  exact ⟨u, hu, fun rest => by rw [List.append_assoc, hread, hread']⟩

end Adds

section

variable (hcommands : g.commands = [])

include hcommands

lemma readWords_of_readWord {s t : State} {word : String} (h : readWord fs g s word = .ok t)
    (rest : List String) : readWords fs g s (word :: rest) = readWords fs g t rest := by
  have hcommand : g.commands.contains word = false := by
    rw [hcommands]
    rfl
  rw [readWords, hcommand, Bool.and_false, if_neg Bool.false_ne_true, h]
  rfl

lemma adds_option {name value : String} {switch : Switch} (hname : '=' ∉ name.toList)
    (hswitch : g.switches.find? (·.long == name) = some switch) (htakes : switch.takesValue = true)
    (hnew : switch.key ∉ given.map (·.1)) (hvalue : valueFault? fs value switch.key = none) :
    Adds fs g [optionWord name value] given (given ++ [(switch.key, value)]) := by
  intro s hs
  refine ⟨_, .settled _, readWords_of_readWord hcommands ?_⟩
  have hword : (optionWord name value).toList =
      '-' :: '-' :: (name.toList ++ '=' :: value.toList) := by simp [optionWord]
  rw [hs.readWord_long (by simp) hword, readLong, cutAtEquals_of_notMem hname]
  simp only [String.ofList_toList, hswitch, htakes, if_true, Option.map_some, State.switch,
    hs.settle_self]
  exact State.accept_of_new hnew hvalue

/-- The flag that asks for the count. -/
lemma adds_count
    (hswitch : g.switches.find? (·.long == "count") = some ⟨.count, none, "count", false⟩)
    (hnew : .count ∉ given.map (·.1)) :
    Adds fs g ["--count"] given (given ++ [(.count, "")]) := by
  intro s hs
  refine ⟨_, .settled _, readWords_of_readWord hcommands ?_⟩
  have hcut : cutAtEquals "count".toList = ("count".toList, none) := rfl
  have hread : readWord fs g s "--count" = readLong fs g s "count".toList :=
    hs.readWord_long (by simp) rfl
  have haccept : State.accept fs ⟨given, none, g.positionals, false⟩ .count "" =
      .ok ⟨given ++ [(.count, "")], none, g.positionals, false⟩ := State.accept_of_new hnew rfl
  rw [hread, readLong, hcut]
  simp only [String.ofList_toList, hswitch, Bool.false_eq_true, if_false, Option.isSome_none,
    State.flag, hs.settle_self]
  exact haccept

/-- An argument takes any word as its value. -/
lemma adds_arg
    (hswitch : g.switches.find? (·.long == "arg") = some ⟨.arg, some 'a', "arg", true⟩)
    (text : String) : Adds fs g ["--arg", text] given (given ++ [(.arg, text)]) := by
  intro s hs
  have hcut : cutAtEquals "arg".toList = ("arg".toList, none) := rfl
  -- the name waits for its value, and the next word is the value before it is anything else
  have hname : readWord fs g s "--arg" =
      .ok ⟨given, some (.arg, none), g.positionals, false⟩ := by
    have hread : readWord fs g s "--arg" = readLong fs g s "arg".toList :=
      hs.readWord_long (by simp) rfl
    rw [hread, readLong, hcut]
    simp only [String.ofList_toList, hswitch, if_true, Option.map_none, State.switch,
      hs.settle_self]
    rfl
  refine ⟨_, .pending given text, fun rest => ?_⟩
  rw [List.cons_append, List.cons_append, List.nil_append,
    readWords_of_readWord hcommands hname, readWords_of_readWord hcommands]
  rfl

lemma adds_args
    (hswitch : g.switches.find? (·.long == "arg") = some ⟨.arg, some 'a', "arg", true⟩)
    (texts : List String) :
    Adds fs g (texts.flatMap fun text => ["--arg", text]) given
      (given ++ texts.map (Key.arg, ·)) := by
  induction texts generalizing given with
  | nil => simpa using Adds.nil
  | cons text texts ih =>
    have h : Adds fs g ["--arg", text] given (given ++ [(.arg, text)]) :=
      adds_arg hcommands hswitch text
    simpa using h.append ih

/-- A command is read up to its positional word, which stands behind two hyphens. -/
lemma readAll_of_adds {words : List String} {key : Key} {word : String}
    (hpositionals : g.positionals = [key]) (h : Adds formats g words [] given)
    (hnew : key ∉ given.map (·.1)) (hvalue : valueFault? formats word key = none) :
    readAll g (words ++ ["--", word]) = .ok ⟨given ++ [(key, word)], none, [], true⟩ := by
  obtain ⟨t, ht, hread⟩ := h (.start g) (.settled [])
  have hhyphens : readWord formats g t "--" = .ok { t with trailing := true } := by
    simp [readWord, ht.trailing, ht.awaited?]
  have hsettle : { t with trailing := true }.settle formats =
      .ok ⟨given, none, g.positionals, true⟩ := ht.settle true
  have hword : readWord formats g { t with trailing := true } word =
      .ok ⟨given, some (key, some word), [], true⟩ := by
    rw [ht.positionals, hpositionals] at hsettle
    simp only [readWord, if_true, readPositional, ht.positionals, hpositionals, hsettle]
    rfl
  rw [readAll, hread, readWords_of_readWord hcommands hhyphens,
    readWords_of_readWord hcommands hword]
  exact State.accept_of_new hnew hvalue

end

end DocQuery.CommandLine
