import DocQuery.Proofs.FieldPath.Keys
/-!
# Reading paths

The dots that stand outside backticks part the segments of a path, whatever characters these hold
(`segments?_ofSegments`). A path is a key for itself: its text is kept (`ofKey_text`).
-/

namespace DocQuery

namespace Quoted

variable {q : Char}

/-- The text that stands between two `q` with every `q` doubled; `none` if there is anything else. -/
def unwrap? (q : Char) : List Char → Option (List Char)
  | [] => none
  | c :: cs =>
    if c = q then
      match readRun q cs with
      | some (run, []) => some run
      | _ => none
    else none

lemma unwrap?_wrap (q : Char) (s : String) : unwrap? q (wrap q s).toList = some s.toList := by
  have hread := readRun_double q s.toList [] (by simp)
  simp [wrap, unwrap?, hread]

/-- Between two `q` a text looks quoted. -/
lemma isWrappedIn_cons_append (q : Char) (inside : List Char) :
    isWrappedIn q (q :: (inside ++ [q])) = true := by
  cases inside with
  | nil => simp [isWrappedIn]
  | cons c inside =>
    rw [List.cons_append, isWrappedIn, ← List.cons_append, List.getLast?_concat]
    simp

end Quoted

namespace FieldPath

/-! ### Segments -/

/-- The pieces of a text between the dots that stand outside backticks. A backtick opens a run and
the next one closes it; `quoted` says whether a run is open in front of the text. -/
def pieces (quoted : Bool) : List Char → List (List Char)
  | [] => [[]]
  | c :: cs =>
    if c = '.' ∧ quoted = false then [] :: pieces false cs
    else (pieces (quoted ^^ (c == Quoted.backtick)) cs).modifyHead (c :: ·)

/-- The segments of a path, read from its text. -/
def segments? (p : FieldPath) : Option (List String) :=
  (pieces false p.text.toList).mapM fun piece =>
    (Quoted.unwrap? Quoted.backtick piece).map String.ofList

/-- A backtick opens a run. -/
lemma pieces_open (cs : List Char) :
    pieces false (Quoted.backtick :: cs) = (pieces true cs).modifyHead (Quoted.backtick :: ·) := by
  rw [pieces, if_neg (by decide)]
  rfl

/-- In a run, a backtick closes it. -/
lemma pieces_close (cs : List Char) :
    pieces true (Quoted.backtick :: cs) = (pieces false cs).modifyHead (Quoted.backtick :: ·) := by
  rw [pieces, if_neg (by decide)]
  rfl

lemma pieces_inside {c : Char} (hc : c ≠ Quoted.backtick) (cs : List Char) :
    pieces true (c :: cs) = (pieces true cs).modifyHead (c :: ·) := by
  rw [pieces, if_neg (by simp), beq_false_of_ne hc, Bool.xor_false]

/-- A doubled text does not leave the run that it stands in. -/
lemma pieces_double (cs rest : List Char) :
    pieces true (Quoted.double Quoted.backtick cs ++ rest) =
      (pieces true rest).modifyHead (Quoted.double Quoted.backtick cs ++ ·) := by
  induction cs with
  | nil => exact (congrFun List.modifyHead_id _).symm
  | cons c cs ih =>
    by_cases hc : c = Quoted.backtick
    · subst hc
      -- the first of the two backticks closes the run and the second one opens it again
      rw [Quoted.double, if_pos rfl, List.cons_append, List.cons_append, pieces_close, pieces_open,
        ih, List.modifyHead_modifyHead, List.modifyHead_modifyHead]
      rfl
    · rw [Quoted.double, if_neg hc, List.cons_append, pieces_inside hc, ih,
        List.modifyHead_modifyHead]
      rfl

lemma pieces_identifier (s : String) (rest : List Char) :
    pieces false ((Quoted.identifier s).toList ++ rest) =
      (pieces false rest).modifyHead ((Quoted.identifier s).toList ++ ·) := by
  rw [Quoted.identifier, Quoted.toList_wrap_append, pieces_open, pieces_double, pieces_close,
    List.modifyHead_modifyHead, List.modifyHead_modifyHead]
  refine congrArg (List.modifyHead · _) (funext fun piece => ?_)
  exact (Quoted.toList_wrap_append Quoted.backtick s piece).symm

/-- The dots outside backticks are those between the segments. -/
lemma pieces_ofSegments (segment : String) (segments : List String) :
    pieces false (ofSegments (segment :: segments)).text.toList =
      (segment :: segments).map fun s => (Quoted.identifier s).toList := by
  induction segments generalizing segment with
  | nil =>
    rw [text_ofSegments_singleton, ← List.append_nil (Quoted.identifier segment).toList,
      pieces_identifier]
    simp [pieces]
  | cons next segments ih =>
    rw [text_ofSegments_cons_cons, pieces_identifier, pieces, if_pos ⟨rfl, rfl⟩, ih]
    simp

/-- The segments of a path are read back. -/
theorem segments?_ofSegments (segment : String) (segments : List String) :
    (ofSegments (segment :: segments)).segments? = some (segment :: segments) := by
  have hunwrap : ∀ s : String, (Quoted.unwrap? Quoted.backtick (Quoted.identifier s).toList).map
      String.ofList = some s := by
    intro s
    rw [Quoted.identifier, Quoted.unwrap?_wrap, Option.map_some, String.ofList_toList]
  have hread : ∀ names : List String, (names.map fun s => (Quoted.identifier s).toList).mapM
      (fun piece => (Quoted.unwrap? Quoted.backtick piece).map String.ofList) = some names := by
    intro names
    induction names with
    | nil => rfl
    | cons name names ih => simp [List.mapM_cons, hunwrap, ih]
  rw [segments?, pieces_ofSegments, hread]

/-! ### Keys -/

/-- A quoted path begins and ends with a backtick. -/
lemma isQuoted_text_ofSegments (segment : String) (segments : List String) :
    Quoted.isQuoted (ofSegments (segment :: segments)).text = true := by
  have hends : ∃ inside, (ofSegments (segment :: segments)).text.toList =
      Quoted.backtick :: (inside ++ [Quoted.backtick]) := by
    induction segments generalizing segment with
    | nil =>
      refine ⟨Quoted.double Quoted.backtick segment.toList, ?_⟩
      rw [text_ofSegments_singleton, Quoted.identifier, Quoted.wrap, String.toList_ofList,
        List.cons_append]
    | cons next segments ih =>
      obtain ⟨inside, hinside⟩ := ih next
      refine ⟨Quoted.double Quoted.backtick segment.toList ++
        Quoted.backtick :: '.' :: Quoted.backtick :: inside, ?_⟩
      rw [text_ofSegments_cons_cons, hinside, Quoted.identifier, Quoted.toList_wrap_append,
        List.append_assoc]
      rfl
  obtain ⟨inside, hinside⟩ := hends
  rw [Quoted.isQuoted, hinside, Quoted.isWrappedIn_cons_append, Bool.true_or]

/-- The text of a quoted path is a key for the path. -/
lemma IsQuoted.ofKey_text {p : FieldPath} (hp : p.IsQuoted) : ofKey p.text = p := by
  obtain ⟨segment, segments, rfl⟩ := hp
  rw [ofKey, if_pos (.inl (isQuoted_text_ofSegments segment segments))]

/-- The path of a key is the path of its own text. -/
lemma ofKey_text_ofKey (key : String) : ofKey (ofKey key).text = ofKey key := by
  by_cases hkept : Quoted.isQuoted key = true ∨ '(' ∈ key.toList
  · have hkey : ofKey key = ⟨key⟩ := by rw [ofKey, if_pos hkept]
    rw [hkey, hkey]
  · obtain ⟨hquoted, hcall⟩ := not_or.mp hkept
    exact (isQuoted_ofKey hcall (by simpa using hquoted)).ofKey_text

/-- A path is read back as the segments it is made of, so that no others have the same path. The text
of a path, be it made of a key, of segments or of properties, is a key for the path. -/
theorem paths_are_unambiguous :
    (∀ (segment : String) (segments : List String),
      (ofSegments (segment :: segments)).segments? = some (segment :: segments)) ∧
    (∀ (segment segment' : String) (segments segments' : List String),
      ofSegments (segment :: segments) = ofSegments (segment' :: segments') ↔
        segment :: segments = segment' :: segments') ∧
    (∀ key : String, ofKey (ofKey key).text = ofKey key) ∧
    (∀ (segment : String) (segments : List String),
      ofKey (ofSegments (segment :: segments)).text = ofSegments (segment :: segments)) ∧
    ∀ (e : Entity) (path : String) (p : FieldPath), e.resolve path = .ok p → ofKey p.text = p := by
  refine ⟨segments?_ofSegments, ?_, ofKey_text_ofKey, ?_, ?_⟩
  · intro segment segment' segments segments'
    exact ⟨eq_of_ofSegments_eq, fun h => congrArg ofSegments h⟩
  · intro segment segments
    exact IsQuoted.ofKey_text ⟨segment, segments, rfl⟩
  · intro e path p hp
    exact (Entity.isQuoted_of_resolve hp).ofKey_text

/-- Backticks and dots in the segments and in the name of a field do no harm. -/
theorem paths_of_backticks :
    let segments := ["a`.`b", "", "`", "c."]
    (ofSegments segments).text = "`a``.``b`.``.````.`c.`" ∧
    (ofSegments segments).segments? = some segments ∧
    Entity.person.resolve "name" = .ok ⟨"`full (name) $1`"⟩ ∧
    ofKey "`full (name) $1`" = ⟨"`full (name) $1`"⟩ := by
  have hname : Entity.person.resolve "name" = .ok ⟨"`full (name) $1`"⟩ := by rfl
  exact ⟨by rfl, paths_are_unambiguous.1 _ _, hname,
    paths_are_unambiguous.2.2.2.2 Entity.person "name" _ hname⟩

end FieldPath

end DocQuery
