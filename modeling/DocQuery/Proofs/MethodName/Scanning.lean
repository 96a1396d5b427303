import DocQuery.MethodName.Decode
import DocQuery.Proofs.MethodName.Words
/-!
# Looking for keywords

The decoder looks for keywords character by character. In a text of pieces it finds them only where
they stand as pieces of their own, and passes over all others.
-/

namespace DocQuery.MethodName

open Letter (isCapital isUppercase isWord isDecimalDigit)

/-! ### Letters -/

lemma isCapital_of_isUpper {c : Char} (h : c.isUpper = true) : isCapital c = true := by
  have hascii := isUpper_iff.mp h
  rw [isCapital, if_pos (by omega), h]

lemma isUppercase_of_isUpper {c : Char} (h : c.isUpper = true) : isUppercase c = true := by
  have hascii := isUpper_iff.mp h
  rw [isUppercase, if_pos (by omega), h]

lemma isLower_of_isUppercase {c : Char} (h : isUppercase c = true) : c.isLower = false := by
  rw [isUppercase] at h
  split at h
  · exact isLower_of_isUpper h
  · rw [Bool.eq_false_iff, ne_eq, isLower_iff]
    omega

/-! ### Prefixes -/

lemma isPrefixOf?_eq_none {word cs : List Char} (h : ¬ word <+: cs) : word.isPrefixOf? cs = none := by
  cases hrest : word.isPrefixOf? cs with
  | none => rfl
  | some rest => exact absurd ⟨rest, List.isPrefixOf?_eq_some_iff_append_eq.mp hrest⟩ h

lemma afterWord?_eq_none {words : List String} {cs : List Char}
    (h : ∀ word ∈ words, ¬ word.toList <+: cs) : afterWord? words cs = none := by
  rw [afterWord?, List.findSome?_eq_none_iff]
  exact fun word hword => isPrefixOf?_eq_none (h word hword)

/-- No keyword starts inside a piece. -/
lemma not_prefix_of_isLower {word rest : List Char} {c : Char} (hword : IsPiece word)
    (hc : c.isLower = true) : ¬ word <+: c :: rest := by
  obtain ⟨d, ds, rfl, hd, -⟩ := hword.exists_cons
  rintro ⟨t, ht⟩
  obtain ⟨rfl, -⟩ := List.cons.inj ht
  exact absurd hc (by simp [hd])

/-! ### Cutting at a word -/

/-- A word whose first letter does not come again does not overlap with itself. -/
lemma not_prefix_append {c : Char} {w b : List Char} (hc : c ∉ w) (hb : b ≠ [])
    (hfree : ¬ (c :: w) <:+: b) (rest : List Char) : ¬ (c :: w) <+: b ++ (c :: w ++ rest) := by
  rintro ⟨t, ht⟩
  rcases List.append_eq_append_iff.mp ht with ⟨as, hbas, -⟩ | ⟨bs, hwbs, hrest⟩
  · exact hfree ⟨[], as, by rw [hbas]; rfl⟩
  · cases bs with
    | nil => exact hfree ⟨[], [], by simpa using hwbs⟩
    | cons d bs =>
      obtain ⟨rfl, -⟩ := List.cons.inj hrest
      obtain ⟨e, b, rfl⟩ := List.exists_cons_of_ne_nil hb
      obtain ⟨-, rfl⟩ := List.cons.inj hwbs
      exact hc (by simp)

lemma cutAt?_eq_some {c : Char} {w before rest : List Char} (hc : c ∉ w)
    (hfree : ¬ (c :: w) <:+: before) :
    cutAt? (c :: w) (before ++ (c :: w ++ rest)) = some (before, rest) := by
  induction before with
  | nil =>
    have hrest : (c :: w).isPrefixOf? (c :: w ++ rest) = some rest :=
      List.isPrefixOf?_eq_some_iff_append_eq.mpr rfl
    rw [List.nil_append, List.cons_append] at *
    rw [cutAt?, hrest]
  | cons d before ih =>
    have hnone := isPrefixOf?_eq_none (not_prefix_append hc (List.cons_ne_nil d before) hfree rest)
    rw [List.cons_append] at hnone ⊢
    rw [cutAt?, hnone, ih (mt List.infix_cons hfree)]
    rfl

lemma cutAt?_eq_none {word cs : List Char} (hfree : ¬ word <:+: cs) : cutAt? word cs = none := by
  induction cs with
  | nil => rfl
  | cons c cs ih =>
    have hnone := isPrefixOf?_eq_none fun h : word <+: c :: cs => hfree h.isInfix
    rw [cutAt?, hnone, ih (mt List.infix_cons hfree)]
    rfl

lemma isLower_of_mem_tail {p : List Char} (hp : IsPiece p) {c d : Char} {cs ds : List Char}
    (h : p = c :: (cs ++ d :: ds)) : d.isLower = true := by
  obtain ⟨_, es, rfl, -, hes⟩ := hp.exists_cons
  obtain ⟨-, rfl⟩ := List.cons.inj h
  exact hes d (by simp)

/-- Two words in a row can be cut only between them if what comes behind the cut starts a piece. -/
lemma eq_of_append_eq_append {w w' cs bs : List Char} (hw : IsPiece w) (hw' : IsPiece w')
    (hcs : cs ≠ []) (hbs : bs ≠ []) (hstart : StartsPiece bs) (h : w ++ w' = cs ++ bs) :
    w = cs ∧ w' = bs := by
  obtain ⟨c, cs, rfl⟩ := List.exists_cons_of_ne_nil hcs
  obtain ⟨b, bs, rfl⟩ := List.exists_cons_of_ne_nil hbs
  have hupper : b.isLower = false := hstart b rfl
  rcases List.append_eq_append_iff.mp h with ⟨ys, hys, hw'ys⟩ | ⟨xs, hxs, hbxs⟩
  · cases ys with
    | nil => exact ⟨by simpa using hys.symm, by simpa using hw'ys⟩
    | cons y ys =>
      have hlower : b.isLower = true := isLower_of_mem_tail hw' hw'ys
      exact absurd hlower (by simp [hupper])
  · cases xs with
    | nil => exact ⟨by simpa using hxs, by simpa using hbxs.symm⟩
    | cons x xs =>
      obtain ⟨rfl, -⟩ := List.cons.inj hbxs
      have hlower : b.isLower = true := isLower_of_mem_tail hw hxs
      exact absurd hlower (by simp [hupper])

/-- A row of two words stands in a text made of two parts only if it stands in one of them, or ends
the first and starts the second. -/
lemma infix_append {w w' a b : List Char} (hw : IsPiece w) (hw' : IsPiece w') (hb : StartsPiece b)
    (h : w ++ w' <:+: a ++ b) :
    w ++ w' <:+: a ∨ w ++ w' <:+: b ∨ (w <:+ a ∧ w' <+: b) := by
  obtain ⟨s, t, h⟩ := h
  rcases List.append_eq_append_iff.mp h with ⟨as, ha, -⟩ | ⟨bs, hsw, rfl⟩
  · exact .inl ⟨s, as, ha.symm⟩
  · rcases List.append_eq_append_iff.mp hsw with ⟨cs, rfl, hww⟩ | ⟨ds, -, hbs⟩
    · by_cases hcs : cs = []
      · exact .inr (.inl ⟨[], t, by rw [hww, hcs]; rfl⟩)
      · by_cases hbs : bs = []
        · exact .inl ⟨s, [], by rw [hww, hbs]; simp⟩
        · have hstart : StartsPiece bs := by
            obtain ⟨b, bs, rfl⟩ := List.exists_cons_of_ne_nil hbs
            exact hb
          obtain ⟨rfl, rfl⟩ := eq_of_append_eq_append hw hw' hcs hbs hstart hww
          exact .inr (.inr ⟨⟨s, rfl⟩, ⟨t, rfl⟩⟩)
    · exact .inr (.inl ⟨ds, t, by rw [hbs]⟩)

/-! ### Ignoring letter case everywhere -/

/-- The words that ignore letter case everywhere start with `All`. -/
lemma eq_append_of_mem_allIgnoreCase {word : String}
    (h : word ∈ ["AllIgnoreCase", "AllIgnoringCase"]) :
    ∃ ks, word.toList = "All".toList ++ ks ∧ StartsPiece ks ∧ ks ≠ [] := by
  rcases List.mem_pair.mp h with rfl | rfl
  · exact ⟨"IgnoreCase".toList, rfl, by simp [StartsPiece], by decide⟩
  · exact ⟨"IgnoringCase".toList, rfl, by simp [StartsPiece], by decide⟩

lemma isPiece_all : IsPiece "All".toList := by
  have hword : IsWord "All".toList := by decide
  exact hword.isPiece

/-- They do not start inside a piece, and at its start only if the piece is `All`. -/
lemma withoutAllIgnoreCase?_piece {p rest : List Char} (hp : IsPiece p) (hall : p ≠ "All".toList)
    (hrest : StartsPiece rest) :
    withoutAllIgnoreCase? (p ++ rest) = (withoutAllIgnoreCase? rest).map (p ++ ·) := by
  have hinside : ∀ cs : List Char, (∀ c ∈ cs, c.isLower = true) →
      withoutAllIgnoreCase? (cs ++ rest) = (withoutAllIgnoreCase? rest).map (cs ++ ·) := by
    intro cs hcs
    induction cs with
    | nil => simp
    | cons c cs ih =>
      obtain ⟨hc, hcs⟩ := List.forall_mem_cons.mp hcs
      have hnone : afterWord? ["AllIgnoreCase", "AllIgnoringCase"] (c :: (cs ++ rest)) = none := by
        refine afterWord?_eq_none fun word hword hstarts => ?_
        obtain ⟨ks, hks, -⟩ := eq_append_of_mem_allIgnoreCase hword
        rw [hks] at hstarts
        exact not_prefix_of_isLower isPiece_all hc ((List.prefix_append _ ks).trans hstarts)
      rw [List.cons_append, withoutAllIgnoreCase?, hnone, ih hcs, Option.map_map]
      rfl
  have hstart : afterWord? ["AllIgnoreCase", "AllIgnoringCase"] (p ++ rest) = none := by
    refine afterWord?_eq_none fun word hword hstarts => ?_
    obtain ⟨ks, hks, hpiece, hne⟩ := eq_append_of_mem_allIgnoreCase hword
    rw [hks] at hstarts
    exact hall (eq_of_prefix_append hp isPiece_all hpiece hne hrest hstarts).1
  obtain ⟨c, cs, rfl, -, hcs⟩ := hp.exists_cons
  rw [List.cons_append] at hstart ⊢
  rw [withoutAllIgnoreCase?, hstart, hinside cs hcs, Option.map_map]
  rfl

lemma withoutAllIgnoreCase?_pieces {ps : List (List Char)} {rest : List Char}
    (hps : ∀ p ∈ ps, IsPiece p) (hall : "All".toList ∉ ps) (hrest : StartsPiece rest) :
    withoutAllIgnoreCase? (ps.flatten ++ rest) =
      (withoutAllIgnoreCase? rest).map (ps.flatten ++ ·) := by
  induction ps with
  | nil => simp
  | cons p ps ih =>
    obtain ⟨hp, hps⟩ := List.forall_mem_cons.mp hps
    rw [List.mem_cons, not_or] at hall
    have hstart : StartsPiece (ps.flatten ++ rest) :=
      startsPiece_append (startsPiece_flatten hps) hrest
    rw [List.flatten_cons, List.append_assoc, withoutAllIgnoreCase?_piece hp (Ne.symm hall.1) hstart,
      ih hps hall.2, Option.map_map]
    simp [Function.comp_def]

/-! ### Splitting at a word -/

/-- A break is a piece of its own. -/
lemma eq_of_breaksAt {word p rest : List Char} (hword : IsPiece word) (hp : IsPiece p)
    (hrest : StartsPiece rest) (h : breaksAt word (p ++ rest) = true) : p = word := by
  unfold breaksAt at h
  split at h
  · next c tail hstarts =>
    have hstart : StartsPiece (c :: tail) := by
      intro d hd
      obtain rfl : c = d := by simpa using hd
      exact isLower_of_isUppercase h
    have heq := List.isPrefixOf?_eq_some_iff_append_eq.mp hstarts
    exact (eq_of_append_eq hp hword hrest hstart heq.symm).1
  · exact absurd h (by simp)

lemma breaksAt_eq_false_of_isLower {word rest : List Char} {c : Char} (hword : IsPiece word)
    (hc : c.isLower = true) : breaksAt word (c :: rest) = false := by
  rw [breaksAt, isPrefixOf?_eq_none (not_prefix_of_isLower hword hc)]

/-- A row of characters in front of the first piece. -/
def consPieces (cs : List Char) (pieces : List (List Char)) : List (List Char) :=
  cs.foldr consPiece pieces

lemma consPieces_cons_of_ne_nil (cs : List Char) (piece : List Char) (pieces : List (List Char)) :
    consPieces cs (piece :: pieces) = (cs ++ piece) :: pieces := by
  induction cs with
  | nil => rfl
  | cons c cs ih =>
    rw [consPieces, List.foldr_cons]
    rw [consPieces] at ih
    rw [ih]
    rfl

lemma splitPieces_lower {word cs rest : List Char} (hword : IsPiece word)
    (hcs : ∀ c ∈ cs, c.isLower = true) :
    splitPieces word 0 false (cs ++ rest) = consPieces cs (splitPieces word 0 false rest) := by
  induction cs with
  | nil => rfl
  | cons c cs ih =>
    obtain ⟨hc, hcs⟩ := List.forall_mem_cons.mp hcs
    rw [List.cons_append, splitPieces, breaksAt_eq_false_of_isLower hword hc, ih hcs]
    rfl

/-- Nothing breaks at a piece other than the word. -/
lemma splitPieces_piece {word p rest : List Char} (fresh : Bool) (hword : IsPiece word)
    (hp : IsPiece p) (hne : p ≠ word) (hrest : StartsPiece rest) :
    splitPieces word 0 fresh (p ++ rest) = consPieces p (splitPieces word 0 false rest) := by
  have hbreak : breaksAt word (p ++ rest) = false := by
    rw [Bool.eq_false_iff]
    exact fun h => hne (eq_of_breaksAt hword hp hrest h)
  obtain ⟨c, cs, rfl, -, hcs⟩ := hp.exists_cons
  rw [List.cons_append] at hbreak ⊢
  rw [splitPieces, hbreak, splitPieces_lower hword hcs]
  simp [consPieces]

lemma splitPieces_pieces {word rest : List Char} {ps : List (List Char)} (fresh : Bool)
    (hword : IsPiece word) (hps : ∀ p ∈ ps, IsPiece p) (hfree : word ∉ ps) (hne : ps ≠ [])
    (hrest : StartsPiece rest) :
    splitPieces word 0 fresh (ps.flatten ++ rest) =
      consPieces ps.flatten (splitPieces word 0 false rest) := by
  induction ps generalizing fresh with
  | nil => exact absurd rfl hne
  | cons p ps ih =>
    obtain ⟨hp, hps⟩ := List.forall_mem_cons.mp hps
    rw [List.mem_cons, not_or] at hfree
    have hstart : StartsPiece (ps.flatten ++ rest) :=
      startsPiece_append (startsPiece_flatten hps) hrest
    rw [List.flatten_cons, List.append_assoc,
      splitPieces_piece fresh hword hp (Ne.symm hfree.1) hstart]
    by_cases hlast : ps = []
    · simp [hlast]
    · rw [ih false hps hfree.2 hlast, consPieces, consPieces, consPieces, List.foldr_append]

lemma splitPieces_skip (word cs rest : List Char) :
    splitPieces word cs.length true (cs ++ rest) = splitPieces word 0 true rest := by
  induction cs with
  | nil => rfl
  | cons c cs ih => rw [List.length_cons, List.cons_append, splitPieces, ih]

/-- Behind a break the next piece of the text starts. -/
lemma splitPieces_break {word rest : List Char} {c : Char} (hword : word ≠ [])
    (hc : isUppercase c = true) :
    splitPieces word 0 false (word ++ c :: rest) = [] :: splitPieces word 0 true (c :: rest) := by
  obtain ⟨w, ws, rfl⟩ := List.exists_cons_of_ne_nil hword
  have hbreak : breaksAt (w :: ws) (w :: (ws ++ c :: rest)) = true := by
    have hstarts : (w :: ws).isPrefixOf? (w :: ws ++ c :: rest) = some (c :: rest) :=
      List.isPrefixOf?_eq_some_iff_append_eq.mpr rfl
    rw [List.cons_append] at hstarts
    rw [breaksAt, hstarts]
    exact hc
  rw [List.cons_append, splitPieces, hbreak]
  exact congrArg ([] :: ·) (splitPieces_skip (w :: ws) ws (c :: rest))

lemma splitAtWord_last {word : String} {ps : List (List Char)} (hword : IsPiece word.toList)
    (hps : ∀ p ∈ ps, IsPiece p) (hfree : word.toList ∉ ps) (hne : ps ≠ []) :
    splitAtWord word ps.flatten = [ps.flatten] := by
  have hsplit := splitPieces_pieces true hword hps hfree hne startsPiece_nil
  rw [List.append_nil] at hsplit
  rw [splitAtWord, hsplit, splitPieces, consPieces_cons_of_ne_nil, List.append_nil]

lemma splitAtWord_cons {word : String} {ps : List (List Char)} {rest : List Char} {c : Char}
    (hword : IsPiece word.toList) (hps : ∀ p ∈ ps, IsPiece p) (hfree : word.toList ∉ ps)
    (hne : ps ≠ []) (hc : isUppercase c = true) :
    splitAtWord word (ps.flatten ++ (word.toList ++ c :: rest)) =
      ps.flatten :: splitAtWord word (c :: rest) := by
  rw [splitAtWord, splitPieces_pieces true hword hps hfree hne (hword.startsPiece _),
    splitPieces_break hword.ne_nil hc, consPieces_cons_of_ne_nil, List.append_nil]
  rfl

/-! ### Orders -/

lemma isPiece_directionWord (d : Direction) : IsPiece (directionWord d).toList := by
  have hword : IsWord (directionWord d).toList := by cases d <;> decide
  exact hword.isPiece

/-- Whether a direction ends where a text goes on, if it stands there at all. -/
def endsDirection : Option (List Char) → Bool
  | some [] => true
  | some (c :: _) => isUppercase c
  | none => false

lemma directionAt?_eq_find? (cs : List Char) :
    directionAt? cs = [Direction.asc, .desc].find? fun d =>
      endsDirection ((directionWord d).toList.isPrefixOf? cs) :=
  rfl

lemma startsPiece_of_endsDirection {rest : List Char} (h : endsDirection (some rest) = true) :
    StartsPiece rest := by
  cases rest with
  | nil => exact startsPiece_nil
  | cons c rest =>
    intro d hd
    obtain rfl : c = d := by simpa using hd
    exact isLower_of_isUppercase h

/-- A direction is a piece of its own. -/
lemma directionAt?_eq_none {p rest : List Char} (hp : IsPiece p)
    (hne : ∀ d, p ≠ (directionWord d).toList) (hrest : StartsPiece rest) :
    directionAt? (p ++ rest) = none := by
  rw [directionAt?_eq_find?, List.find?_eq_none]
  intro d _ h
  cases hstarts : (directionWord d).toList.isPrefixOf? (p ++ rest) with
  | none => exact absurd h (by simp [hstarts, endsDirection])
  | some tail =>
    rw [hstarts] at h
    have heq := List.isPrefixOf?_eq_some_iff_append_eq.mp hstarts
    have hstart := startsPiece_of_endsDirection h
    exact hne d (eq_of_append_eq hp (isPiece_directionWord d) hrest hstart heq.symm).1

lemma directionAt?_of_isLower {c : Char} (hc : c.isLower = true) (rest : List Char) :
    directionAt? (c :: rest) = none := by
  rw [directionAt?_eq_find?, List.find?_eq_none]
  intro d _
  rw [isPrefixOf?_eq_none (not_prefix_of_isLower (isPiece_directionWord d) hc)]
  simp [endsDirection]

lemma directionAt?_directionWord (d : Direction) {rest : List Char}
    (h : endsDirection (some rest) = true) :
    directionAt? ((directionWord d).toList ++ rest) = some d := by
  have hfound : endsDirection ((directionWord d).toList.isPrefixOf?
      ((directionWord d).toList ++ rest)) = true := by
    rw [List.isPrefixOf?_eq_some_iff_append_eq.mpr rfl, h]
  cases d with
  | asc => simp only [directionAt?_eq_find?, List.find?_cons, hfound]
  | desc =>
    have hasc : endsDirection ((directionWord .asc).toList.isPrefixOf?
        ((directionWord .desc).toList ++ rest)) = false := rfl
    simp only [directionAt?_eq_find?, List.find?_cons, hasc, hfound]

lemma orderPieces_lower {property cs rest : List Char} (hcs : ∀ c ∈ cs, c.isLower = true) :
    orderPieces 0 property (cs ++ rest) = orderPieces 0 (property ++ cs) rest := by
  induction cs generalizing property with
  | nil => rw [List.nil_append, List.append_nil]
  | cons c cs ih =>
    obtain ⟨hc, hcs⟩ := List.forall_mem_cons.mp hcs
    rw [List.cons_append, orderPieces, directionAt?_of_isLower hc, ite_self]
    simp only
    rw [ih hcs, List.append_assoc, List.singleton_append]

/-- A piece other than a direction belongs to the property. -/
lemma orderPieces_piece {property p rest : List Char} (hp : IsPiece p)
    (hne : ∀ d, p ≠ (directionWord d).toList) (hrest : StartsPiece rest) :
    orderPieces 0 property (p ++ rest) = orderPieces 0 (property ++ p) rest := by
  have hnone := directionAt?_eq_none hp hne hrest
  obtain ⟨c, cs, rfl, -, hcs⟩ := hp.exists_cons
  rw [List.cons_append] at hnone ⊢
  rw [orderPieces, hnone, ite_self]
  simp only
  rw [orderPieces_lower hcs, List.append_assoc, List.singleton_append]

lemma orderPieces_pieces {property rest : List Char} {ps : List (List Char)}
    (hps : ∀ p ∈ ps, IsPiece p) (hfree : ∀ d, (directionWord d).toList ∉ ps)
    (hrest : StartsPiece rest) :
    orderPieces 0 property (ps.flatten ++ rest) = orderPieces 0 (property ++ ps.flatten) rest := by
  induction ps generalizing property with
  | nil => simp
  | cons p ps ih =>
    obtain ⟨hp, hps⟩ := List.forall_mem_cons.mp hps
    have hne : ∀ d, p ≠ (directionWord d).toList := fun d heq => hfree d (by simp [heq])
    have hstart : StartsPiece (ps.flatten ++ rest) :=
      startsPiece_append (startsPiece_flatten hps) hrest
    rw [List.flatten_cons, List.append_assoc, orderPieces_piece hp hne hstart,
      ih hps fun d hd => hfree d (List.mem_cons_of_mem p hd), List.append_assoc]

lemma orderPieces_skip (cs rest : List Char) :
    orderPieces cs.length [] (cs ++ rest) = orderPieces 0 [] rest := by
  induction cs with
  | nil => rfl
  | cons c cs ih => rw [List.length_cons, List.cons_append, orderPieces, ih]

/-- A direction ends its property. -/
lemma orderPieces_direction {property rest : List Char} (d : Direction) (hne : property ≠ [])
    (hrest : endsDirection (some rest) = true) :
    orderPieces 0 property ((directionWord d).toList ++ rest) =
      (property, d) :: orderPieces 0 [] rest := by
  have hfound := directionAt?_directionWord d hrest
  obtain ⟨c, cs, hcs⟩ := List.exists_cons_of_ne_nil (isPiece_directionWord d).ne_nil
  have hskip : (directionWord d).length - 1 = cs.length := by
    rw [← String.length_toList, hcs]
    rfl
  rw [hcs, List.cons_append] at hfound ⊢
  rw [orderPieces, hfound, if_neg (by simpa using hne)]
  simp only
  rw [hskip, orderPieces_skip]

lemma orderPieces_nil {property : List Char} (hne : property ≠ []) :
    orderPieces 0 property [] = [(property, .asc)] := by
  rw [orderPieces, if_neg (by simpa using hne)]

/-! ### The subject -/

lemma cutAtBy?_cons {c : Char} {cs : List Char} (hby : ¬ "By".toList <+: c :: cs) :
    cutAtBy? (c :: cs) =
      if c = '\n' then none else (cutAtBy? cs).map fun (before, rest) => (c :: before, rest) := by
  rw [cutAtBy?]
  rintro tail rfl rfl
  exact hby ⟨tail, rfl⟩

/-- The first `By` is found behind a text without one. -/
lemma cutAtBy?_append {cs : List Char} (hline : '\n' ∉ cs) (hfree : ¬ "By".toList <:+: cs)
    (rest : List Char) : cutAtBy? (cs ++ ("By".toList ++ rest)) = some (cs, rest) := by
  induction cs with
  | nil => rfl
  | cons c cs ih =>
    rw [List.mem_cons, not_or] at hline
    have hstart : ¬ "By".toList <+: c :: (cs ++ ("By".toList ++ rest)) :=
      not_prefix_append (by decide) (List.cons_ne_nil c cs) hfree rest
    rw [List.cons_append, cutAtBy?_cons hstart, if_neg (Ne.symm hline.1),
      ih hline.2 (mt List.infix_cons hfree)]
    rfl

lemma cutAtBy?_eq_none {cs : List Char} (hfree : ¬ "By".toList <:+: cs) : cutAtBy? cs = none := by
  induction cs with
  | nil => rfl
  | cons c cs ih =>
    rw [cutAtBy?_cons fun h => hfree h.isInfix, ih (mt List.infix_cons hfree), Option.map_none,
      ite_self]

/-- A subject that starts with a capital letter goes on to the first `By` behind it. -/
lemma subject?_cons {c : Char} {cs : List Char} (hc : isCapital c = true)
    (hby : ¬ "By".toList <+: c :: cs) :
    subject? (c :: cs) = match cutAtBy? cs with
      | some (before, rest) => some (c :: before, some rest)
      | none => if cs.all isWord then some (c :: cs, none) else none := by
  rw [subject?]
  · exact if_pos hc
  · rintro tail rfl rfl
    exact hby ⟨tail, rfl⟩

end DocQuery.MethodName
