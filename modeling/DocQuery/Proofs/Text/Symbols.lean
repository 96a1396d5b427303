import DocQuery.Quoted
import Mathlib.Tactic.Lemma
/-!
# Text inside and outside quotes

A statement is read from the left. A backtick or a double quote opens a run, and the same quote
closes it. A quote that is written twice inside a run closes it and opens it again at once, so
that both characters stay inside. A text that was doubled for its run can be read back from it
(`Quoted.readRun_double`).
-/

namespace DocQuery

/-- A character of a statement, and whether it belongs to a quoted run. -/
structure Symbol where
  char : Char
  quoted : Bool
deriving DecidableEq

/-- A character that opens a quoted run. -/
def isQuote (c : Char) : Bool := c == Quoted.backtick || c == '"'

/-- The quote of the run that is open behind `c`, given the one that is open in front of it. -/
def runAfter : Option Char → Char → Option Char
  | some q, c => if c = q then none else some q
  | none, c => if isQuote c then some c else none

/-- The symbols of a text in front of which the run of a quote is open, or none. -/
def symbolsFrom (run : Option Char) : List Char → List Symbol
  | [] => []
  | c :: cs => ⟨c, run.isSome || isQuote c⟩ :: symbolsFrom (runAfter run c) cs

/-- The run that is open behind a text. -/
def runBehind (run : Option Char) (cs : List Char) : Option Char := cs.foldl runAfter run

/-- The symbols of a text. -/
def symbols (cs : List Char) : List Symbol := symbolsFrom none cs

/-- Every run of the text is closed in it. -/
def Closed (cs : List Char) : Prop := runBehind none cs = none

instance (cs : List Char) : Decidable (Closed cs) := inferInstanceAs (Decidable (_ = _))

/-- The characters of a text that stand outside quotes. -/
def bare (cs : List Char) : List Char := ((symbols cs).filter (!·.quoted)).map (·.char)

/-! ### Joined texts -/

@[simp] lemma symbols_nil : symbols [] = [] := rfl

@[simp] lemma bare_nil : bare [] = [] := rfl

@[simp] lemma closed_nil : Closed [] := rfl

lemma symbolsFrom_append (run : Option Char) (a b : List Char) :
    symbolsFrom run (a ++ b) = symbolsFrom run a ++ symbolsFrom (runBehind run a) b := by
  induction a generalizing run with
  | nil => rfl
  | cons c a ih => simp [symbolsFrom, runBehind, ih]

lemma runBehind_append (run : Option Char) (a b : List Char) :
    runBehind run (a ++ b) = runBehind (runBehind run a) b := by
  simp [runBehind]

lemma symbols_append {a : List Char} (ha : Closed a) (b : List Char) :
    symbols (a ++ b) = symbols a ++ symbols b := by
  rw [symbols, symbolsFrom_append, show runBehind none a = none from ha]
  rfl

lemma Closed.append {a b : List Char} (ha : Closed a) (hb : Closed b) : Closed (a ++ b) := by
  rw [Closed, runBehind_append, show runBehind none a = none from ha]
  exact hb

lemma bare_append {a : List Char} (ha : Closed a) (b : List Char) :
    bare (a ++ b) = bare a ++ bare b := by
  simp [bare, symbols_append ha]

lemma mem_bare_of_mem_symbols {cs : List Char} {c : Char} (h : ⟨c, false⟩ ∈ symbols cs) :
    c ∈ bare cs :=
  List.mem_map.mpr ⟨⟨c, false⟩, List.mem_filter.mpr ⟨h, rfl⟩, rfl⟩

/-! ### Texts without quotes -/

lemma symbols_cons_of_not_isQuote {c : Char} (hc : isQuote c = false) (cs : List Char) :
    symbols (c :: cs) = ⟨c, false⟩ :: symbols cs := by
  simp [symbols, symbolsFrom, runAfter, hc]

lemma closed_cons_of_not_isQuote {c : Char} (hc : isQuote c = false) (cs : List Char) :
    Closed (c :: cs) ↔ Closed cs := by
  simp [Closed, runBehind, runAfter, hc]

lemma bare_cons_of_not_isQuote {c : Char} (hc : isQuote c = false) (cs : List Char) :
    bare (c :: cs) = c :: bare cs := by
  simp [bare, symbols_cons_of_not_isQuote hc]

/-- A text without quotes is all outside. -/
lemma symbols_of_noQuote {cs : List Char} (h : ∀ c ∈ cs, isQuote c = false) :
    symbols cs = cs.map (⟨·, false⟩) := by
  induction cs with
  | nil => rfl
  | cons c cs ih =>
    rw [symbols_cons_of_not_isQuote (h c (by simp)), ih fun d hd => h d (by simp [hd])]
    rfl

lemma closed_of_noQuote {cs : List Char} (h : ∀ c ∈ cs, isQuote c = false) : Closed cs := by
  induction cs with
  | nil => rfl
  | cons c cs ih =>
    rw [closed_cons_of_not_isQuote (h c (by simp))]
    exact ih fun d hd => h d (by simp [hd])

lemma bare_of_noQuote {cs : List Char} (h : ∀ c ∈ cs, isQuote c = false) : bare cs = cs := by
  simp [bare, symbols_of_noQuote h, List.filter_map, Function.comp_def]

/-! ### Quoted texts -/

/-- Inside a run every character is quoted, and a doubled text leaves the run open. -/
lemma symbolsFrom_double {q : Char} (hq : isQuote q = true) (cs rest : List Char) :
    symbolsFrom (some q) (Quoted.double q cs ++ rest) =
      (Quoted.double q cs).map (⟨·, true⟩) ++ symbolsFrom (some q) rest := by
  induction cs with
  | nil => rfl
  | cons c cs ih =>
    by_cases hc : c = q
    · subst hc
      simp [Quoted.double, symbolsFrom, runAfter, hq, ih]
    · simp [Quoted.double, symbolsFrom, runAfter, hc, ih]

lemma runBehind_double {q : Char} (hq : isQuote q = true) (cs : List Char) :
    runBehind (some q) (Quoted.double q cs) = some q := by
  induction cs with
  | nil => rfl
  | cons c cs ih =>
    rw [runBehind] at ih
    by_cases hc : c = q
    · subst hc
      simp [Quoted.double, runBehind, runAfter, hq, ih]
    · simp [Quoted.double, runBehind, runAfter, hc, ih]

lemma symbols_wrap {q : Char} (hq : isQuote q = true) (s : String) :
    symbols (Quoted.wrap q s).toList = (Quoted.wrap q s).toList.map (⟨·, true⟩) := by
  simp [Quoted.wrap, symbols, symbolsFrom, runAfter, hq, symbolsFrom_double hq]

lemma closed_wrap {q : Char} (hq : isQuote q = true) (s : String) :
    Closed (Quoted.wrap q s).toList := by
  have h : runBehind none (q :: Quoted.double q s.toList) = some q := by
    rw [runBehind, List.foldl_cons, runAfter, if_pos hq]
    exact runBehind_double hq s.toList
  rw [Closed, Quoted.wrap, String.toList_ofList, runBehind_append, h]
  simp [runBehind, runAfter]

lemma bare_wrap {q : Char} (hq : isQuote q = true) (s : String) :
    bare (Quoted.wrap q s).toList = [] := by
  simp [bare, symbols_wrap hq]

/-! ### Reading runs back -/

namespace Quoted

/-- Reads a run up to the quote that closes it: the text of the run and what follows the quote.
The opening quote is already read; `none` if the run is never closed. -/
def readRun (q : Char) : List Char → Option (List Char × List Char)
  | [] => none
  | [c] => if c = q then some ([], []) else none
  | c :: d :: cs =>
    if c = q then
      if d = q then (readRun q cs).map fun (run, rest) => (q :: run, rest)
      else some ([], d :: cs)
    else (readRun q (d :: cs)).map fun (run, rest) => (c :: run, rest)

lemma readRun_cons_of_ne {q c : Char} (h : c ≠ q) (cs : List Char) :
    readRun q (c :: cs) = (readRun q cs).map fun (run, rest) => (c :: run, rest) := by
  cases cs <;> simp [readRun, h]

/-- A doubled text reads back before any text that does not go on with the quote. -/
lemma readRun_double (q : Char) (cs rest : List Char) (h : rest.head? ≠ some q) :
    readRun q (double q cs ++ q :: rest) = some (cs, rest) := by
  induction cs with
  | nil =>
    cases rest with
    | nil => simp [double, readRun]
    | cons d r =>
      have hd : d ≠ q := by simpa using h
      simp [double, readRun, hd]
  | cons c cs ih =>
    by_cases hc : c = q
    · subst hc; simp [double, readRun, ih]
    · simp [double, hc, readRun_cons_of_ne hc, ih]

end Quoted

end DocQuery
