import DocQuery.Entity
import DocQuery.Proofs.FieldPath.Segments
import DocQuery.Proofs.Text.Tokens
/-!
# Storage paths and parameter names

A resolved path is a sequence of quoted segments: outside quotes it has nothing but dots, and its
segments can be read back from it, so that it has no others (`FieldPath.eq_of_ofSegments_eq`). The
name of a parameter has nothing but letters, digits and underscores.
-/

namespace DocQuery

lemma isDigit_of_mem_toString {n : Nat} {c : Char} (h : c ∈ (toString n).toList) :
    c.isDigit = true :=
  Nat.isDigit_of_mem_toDigits (b := 10) (by simp) (by simp) (by simpa using h)

namespace FieldPath

/-! ### Parameter names -/

lemma isNameChar_of_mem_nameChars {last : Option Char} {cs : List Char} {c : Char}
    (h : c ∈ nameChars last cs) : isNameChar c = true := by
  induction cs generalizing last with
  | nil => simp [nameChars] at h
  | cons d cs ih =>
    rw [nameChars] at h
    split at h
    · rcases List.mem_cons.mp h with rfl | h
      · assumption
      · exact ih h
    · split at h
      · rcases List.mem_cons.mp h with rfl | h
        · rfl
        · exact ih h
      · exact ih h

/-- A parameter name is made of name characters. -/
lemma isNameChar_of_mem_parameterName {p : FieldPath} {c : Char}
    (h : c ∈ p.parameterName.toList) : isNameChar c = true := by
  rw [parameterName] at h
  split at h
  · obtain rfl : c = 'p' := by simpa using h
    rfl
  · exact isNameChar_of_mem_nameChars (by simpa using h)

/-- The digits of a number are name characters. -/
lemma isNameChar_of_mem_toString {n : Nat} {c : Char} (h : c ∈ (toString n).toList) :
    isNameChar c = true := by
  simp [isNameChar, Char.isAlphanum, isDigit_of_mem_toString h]

lemma ne_of_isNameChar {c d : Char} (hc : isNameChar c = true) (hd : isNameChar d = false) :
    c ≠ d := by
  rintro rfl
  simp [hc] at hd

lemma isQuote_of_isNameChar {c : Char} (h : isNameChar c = true) : isQuote c = false := by
  have hbacktick : c ≠ Quoted.backtick := ne_of_isNameChar h rfl
  have hdouble : c ≠ '"' := ne_of_isNameChar h rfl
  simp [isQuote, hbacktick, hdouble]

lemma kind_of_isNameChar {c : Char} (h : isNameChar c = true) :
    Symbol.kind ⟨c, false⟩ = .letter := by
  have hblank : c ≠ ' ' := ne_of_isNameChar h rfl
  have hopening : c ≠ '(' := ne_of_isNameChar h rfl
  have hclosing : c ≠ ')' := ne_of_isNameChar h rfl
  simp [Symbol.kind, hblank, hopening, hclosing]

/-! ### Quoted paths -/

/-- A path of quoted segments, one at least. -/
def IsQuoted (p : FieldPath) : Prop := ∃ segment segments, p = ofSegments (segment :: segments)

lemma text_ofSegments_cons_cons (segment next : String) (segments : List String) :
    (ofSegments (segment :: next :: segments)).text.toList =
      (Quoted.identifier segment).toList ++ '.' :: (ofSegments (next :: segments)).text.toList := by
  simp [ofSegments]

lemma text_ofSegments_singleton (segment : String) :
    (ofSegments [segment]).text.toList = (Quoted.identifier segment).toList := by
  simp [ofSegments]

lemma IsQuoted.isSegmented {p : FieldPath} (hp : p.IsQuoted) : IsSegmented p.text.toList := by
  obtain ⟨segment, segments, rfl⟩ := hp
  induction segments generalizing segment with
  | nil =>
    rw [text_ofSegments_singleton]
    exact .of_wrap rfl segment
  | cons next segments ih =>
    rw [text_ofSegments_cons_cons]
    exact .of_wrap_dot rfl segment (ih next)

/-- A quoted path starts with a quote. -/
lemma IsQuoted.exists_symbols {p : FieldPath} (hp : p.IsQuoted) :
    ∃ rest, symbols p.text.toList = ⟨Quoted.backtick, true⟩ :: rest := by
  obtain ⟨segment, segments, rfl⟩ := hp
  have hwrap : ∀ more, ∃ rest,
      symbols ((Quoted.identifier segment).toList ++ more) = ⟨Quoted.backtick, true⟩ :: rest := by
    intro more
    rw [Quoted.identifier, symbols_append (closed_wrap rfl segment), symbols_wrap rfl segment]
    exact ⟨_, by rw [Quoted.wrap, String.toList_ofList]; rfl⟩
  cases segments with
  | nil => simpa [text_ofSegments_singleton] using hwrap []
  | cons next segments =>
    rw [text_ofSegments_cons_cons]
    exact hwrap _

lemma IsQuoted.closed {p : FieldPath} (hp : p.IsQuoted) : Closed p.text.toList :=
  hp.isSegmented.closed

lemma IsQuoted.bare_eq {p : FieldPath} (hp : p.IsQuoted) {c : Char}
    (hc : c ∈ bare p.text.toList) : c = '.' :=
  hp.isSegmented.eq_of_mem_bare c hc

/-- A quoted path is one word. -/
lemma IsQuoted.kind_eq {p : FieldPath} (hp : p.IsQuoted) :
    ∀ s ∈ symbols p.text.toList, s.kind = .letter := by
  rintro ⟨c, quoted⟩ hs
  cases quoted with
  | true => rfl
  | false =>
    obtain rfl := hp.bare_eq (mem_bare_of_mem_symbols hs)
    rfl

/-! ### Reading a path back -/

/-- What stands behind the first segment of a path. -/
def behindFirst : List String → List Char
  | [] => []
  | next :: segments => '.' :: (ofSegments (next :: segments)).text.toList

lemma head?_behindFirst_ne (segments : List String) :
    (behindFirst segments).head? ≠ some Quoted.backtick := by
  cases segments with
  | nil => simp [behindFirst]
  | cons next segments => simpa [behindFirst] using (by decide : '.' ≠ Quoted.backtick)

/-- The first segment of a path is read back, and what stands behind it is left. -/
lemma exists_readRun_ofSegments (segment : String) (segments : List String) :
    ∃ cs, (ofSegments (segment :: segments)).text.toList = Quoted.backtick :: cs ∧
      Quoted.readRun Quoted.backtick cs = some (segment.toList, behindFirst segments) := by
  refine ⟨Quoted.double Quoted.backtick segment.toList ++ Quoted.backtick :: behindFirst segments,
    ?_, Quoted.readRun_double _ _ _ (head?_behindFirst_ne segments)⟩
  cases segments with
  | nil => simp [text_ofSegments_singleton, Quoted.identifier, Quoted.wrap, behindFirst]
  | cons next segments =>
    simp [text_ofSegments_cons_cons, Quoted.identifier, Quoted.wrap, behindFirst]

variable {segment segment' : String} {segments segments' : List String}

lemma first_eq_of_ofSegments_eq
    (h : ofSegments (segment :: segments) = ofSegments (segment' :: segments')) :
    segment = segment' ∧ behindFirst segments = behindFirst segments' := by
  obtain ⟨cs, htext, hread⟩ := exists_readRun_ofSegments segment segments
  obtain ⟨cs', htext', hread'⟩ := exists_readRun_ofSegments segment' segments'
  rw [h, htext', List.cons.injEq] at htext
  obtain ⟨-, rfl⟩ := htext
  rw [hread'] at hread
  obtain ⟨hfirst, hbehind⟩ := Prod.mk.inj (Option.some.inj hread)
  exact ⟨(String.toList_inj.mp hfirst).symm, hbehind.symm⟩

/-- Rows of segments with one path are one row. -/
lemma eq_of_ofSegments_eq
    (h : ofSegments (segment :: segments) = ofSegments (segment' :: segments')) :
    segment :: segments = segment' :: segments' := by
  induction segments generalizing segment segment' segments' with
  | nil =>
    obtain ⟨rfl, hbehind⟩ := first_eq_of_ofSegments_eq h
    cases segments' with
    | nil => rfl
    | cons next' segments' => simp [behindFirst] at hbehind
  | cons next segments ih =>
    obtain ⟨rfl, hbehind⟩ := first_eq_of_ofSegments_eq h
    cases segments' with
    | nil => simp [behindFirst] at hbehind
    | cons next' segments' =>
      have htext := (List.cons.inj hbehind).2
      have hpath : ofSegments (next :: segments) = ofSegments (next' :: segments') :=
        congrArg FieldPath.mk (String.toList_inj.mp htext)
      rw [ih hpath]

end FieldPath

/-! ### Resolved paths -/

lemma splitOn_ne_nil (c : Char) (cs : List Char) : splitOn c cs ≠ [] := by
  cases cs with
  | nil => simp [splitOn]
  | cons d cs =>
    rw [splitOn]
    split
    · simp
    · split <;> simp

namespace Entity

lemma length_of_walk? {properties : List Property} {names : List String} {ps : List Property}
    (h : walk? properties names = some ps) : ps.length = names.length := by
  induction names generalizing properties ps with
  | nil =>
    obtain rfl : [] = ps := by simpa [walk?] using h
    rfl
  | cons name names ih =>
    simp only [walk?, Option.bind_eq_bind, Option.bind_eq_some_iff] at h
    obtain ⟨p, -, rest, hrest, heq⟩ := h
    obtain rfl : p :: rest = ps := by simpa using heq
    simp [ih hrest]

/-- A path that resolves leads through at least one property. -/
lemma resolve_eq_ok {e : Entity} {path : String} {field : FieldPath}
    (h : e.resolve path = .ok field) :
    ∃ p ps, walk? e.properties (dottedSegments path) = some (p :: ps) ∧
      field = .ofSegments ((p :: ps).map (·.fieldName)) := by
  rw [resolve] at h
  split at h
  · next ps hwalk =>
    obtain rfl := Except.ok.inj h
    have hlength := length_of_walk? hwalk
    cases ps with
    | nil =>
      have hnil : splitOn '.' path.toList = [] := by simpa [dottedSegments] using hlength.symm
      exact absurd hnil (splitOn_ne_nil '.' path.toList)
    | cons p ps => exact ⟨p, ps, hwalk, rfl⟩
  · exact absurd h (by simp)

/-- A path that resolves is quoted. -/
theorem isQuoted_of_resolve {e : Entity} {path : String} {p : FieldPath}
    (h : e.resolve path = .ok p) : p.IsQuoted := by
  obtain ⟨q, ps, -, rfl⟩ := resolve_eq_ok h
  exact ⟨q.fieldName, ps.map (·.fieldName), rfl⟩

lemma resolve_eq_error {e : Entity} {path : String} {fault : Fault}
    (h : e.resolve path = .error fault) : fault = .unknownProperty path := by
  rw [resolve] at h
  split at h
  · simp at h
  · exact (Except.error.inj h).symm

/-- An entity with a field whose name needs its quotes. -/
def person : Entity :=
  ⟨"Person", none, [⟨"name", some "full (name) $1", .string, []⟩, ⟨"age", none, .number, []⟩]⟩

end Entity

end DocQuery
