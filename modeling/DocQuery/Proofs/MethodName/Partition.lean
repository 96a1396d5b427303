import DocQuery.Proofs.MethodName.Scanning
import DocQuery.Proofs.MethodName.Spelling
import DocQuery.Proofs.Outcome
/-!
# What the decoder makes of a text

Whatever the text is, the pieces that the decoder takes out of it are the whole text: put together
again with the words between them they give the text back, and no piece is empty.
-/

namespace DocQuery.MethodName

open Letter (isCapital isUppercase isWord)

/-! ### Places of words -/

lemma append_of_cutAt? {word cs before rest : List Char}
    (h : cutAt? word cs = some (before, rest)) : cs = before ++ (word ++ rest) := by
  induction cs generalizing before with
  | nil => simp [cutAt?] at h
  | cons c cs ih =>
    rw [cutAt?] at h
    split at h
    · next tail hstarts =>
      obtain ⟨rfl, rfl⟩ := Prod.mk.inj (Option.some.inj h)
      exact (List.isPrefixOf?_eq_some_iff_append_eq.mp hstarts).symm
    · obtain ⟨⟨before', rest'⟩, hcut, heq⟩ := Option.map_eq_some_iff.mp h
      obtain ⟨rfl, rfl⟩ := Prod.mk.inj heq
      rw [ih hcut, List.cons_append]

lemma mem_of_afterWord? {words : List String} {cs rest : List Char}
    (h : afterWord? words cs = some rest) : ∃ word ∈ words, cs = word.toList ++ rest := by
  obtain ⟨word, hword, hstarts⟩ := List.exists_of_findSome?_eq_some h
  exact ⟨word, hword, (List.isPrefixOf?_eq_some_iff_append_eq.mp hstarts).symm⟩

lemma not_infix_cons {word cs : List Char} {c : Char} (hstart : ¬ word <+: c :: cs)
    (hfree : ¬ word <:+: cs) : ¬ word <:+: c :: cs := by
  rw [List.infix_cons_iff, not_or]
  exact ⟨hstart, hfree⟩

lemma not_prefix_of_append {word before rest : List Char} (h : ¬ word <+: before ++ rest) :
    ¬ word <+: before :=
  mt (fun hstarts => hstarts.trans (List.prefix_append before rest)) h

/-! ### The subject -/

lemma mem_of_verb? {cs rest : List Char} {projection : Projection}
    (h : verb? cs = some (projection, rest)) :
    ∃ verb, (verb, projection) ∈ verbs ∧ cs = verb.toList ++ rest := by
  obtain ⟨⟨verb, projection'⟩, hverb, hstarts⟩ := List.exists_of_findSome?_eq_some h
  obtain ⟨rest', hrest, heq⟩ := Option.map_eq_some_iff.mp hstarts
  obtain ⟨rfl, rfl⟩ := Prod.mk.inj heq
  exact ⟨verb, hverb, (List.isPrefixOf?_eq_some_iff_append_eq.mp hrest).symm⟩

lemma by_prefix_iff {cs : List Char} : "By".toList <+: cs ↔ ∃ tail, cs = 'B' :: 'y' :: tail := by
  constructor
  · rintro ⟨tail, rfl⟩
    exact ⟨tail, rfl⟩
  · rintro ⟨tail, rfl⟩
    exact ⟨tail, rfl⟩

/-- The cut is at the first `By`. -/
lemma append_of_cutAtBy? {cs before rest : List Char} (h : cutAtBy? cs = some (before, rest)) :
    cs = before ++ ("By".toList ++ rest) ∧ ¬ "By".toList <:+: before := by
  induction cs generalizing before with
  | nil => simp [cutAtBy?] at h
  | cons c cs ih =>
    by_cases hby : "By".toList <+: c :: cs
    · obtain ⟨tail, htail⟩ := by_prefix_iff.mp hby
      obtain ⟨rfl, rfl⟩ := List.cons.inj htail
      obtain ⟨rfl, rfl⟩ := Prod.mk.inj (Option.some.inj h)
      exact ⟨rfl, by decide⟩
    · rw [cutAtBy?_cons hby] at h
      split at h
      · simp at h
      · obtain ⟨⟨before', rest'⟩, hcut, heq⟩ := Option.map_eq_some_iff.mp h
        obtain ⟨rfl, rfl⟩ := Prod.mk.inj heq
        obtain ⟨rfl, hfree⟩ := ih hcut
        exact ⟨rfl, not_infix_cons (not_prefix_of_append hby) hfree⟩

/-- In a row of word characters every `By` is found. -/
lemma not_infix_of_cutAtBy? {cs : List Char} (h : cutAtBy? cs = none)
    (hword : ∀ c ∈ cs, isWord c = true) : ¬ "By".toList <:+: cs := by
  induction cs with
  | nil => decide
  | cons c cs ih =>
    obtain ⟨hc, hcs⟩ := List.forall_mem_cons.mp hword
    have hby : ¬ "By".toList <+: c :: cs := by
      intro hby
      obtain ⟨tail, htail⟩ := by_prefix_iff.mp hby
      rw [htail] at h
      simp [cutAtBy?] at h
    have hline : c ≠ '\n' := by
      rintro rfl
      exact absurd hc (by decide)
    rw [cutAtBy?_cons hby, if_neg hline, Option.map_eq_none_iff] at h
    exact not_infix_cons hby (ih h hcs)

/-- What follows the subject is nothing, or `By` and what the predicate is made of. -/
def behindSubject : Option (List Char) → List Char
  | none => []
  | some rest => "By".toList ++ rest

/-- A subject ends at the first `By`. -/
lemma append_of_subject? {cs subject : List Char} {predicate : Option (List Char)}
    (h : subject? cs = some (subject, predicate)) :
    cs = subject ++ behindSubject predicate ∧ ¬ "By".toList <:+: subject := by
  cases cs with
  | nil =>
    obtain ⟨rfl, rfl⟩ := Prod.mk.inj (Option.some.inj h)
    exact ⟨rfl, by decide⟩
  | cons c cs =>
    by_cases hby : "By".toList <+: c :: cs
    · obtain ⟨tail, htail⟩ := by_prefix_iff.mp hby
      obtain ⟨rfl, rfl⟩ := List.cons.inj htail
      obtain ⟨rfl, rfl⟩ := Prod.mk.inj (Option.some.inj h)
      exact ⟨rfl, by decide⟩
    · have hcapital : isCapital c = true := by
        by_contra hcapital
        rw [subject?, if_neg hcapital] at h
        · simp at h
        · rintro tail rfl rfl
          exact hby ⟨tail, rfl⟩
      rw [subject?_cons hcapital hby] at h
      split at h
      · next before rest hcut =>
        obtain ⟨rfl, rfl⟩ := Prod.mk.inj (Option.some.inj h)
        obtain ⟨rfl, hfree⟩ := append_of_cutAtBy? hcut
        exact ⟨rfl, not_infix_cons (not_prefix_of_append hby) hfree⟩
      · next hcut =>
        split at h
        · next hword =>
          obtain ⟨rfl, rfl⟩ := Prod.mk.inj (Option.some.inj h)
          have hfree := not_infix_of_cutAtBy? hcut (List.all_eq_true.mp hword)
          exact ⟨by simp [behindSubject], not_infix_cons hby hfree⟩
        · simp at h

/-! ### Ignoring letter case everywhere -/

/-- The text without the first of the words that ignore letter case everywhere, if there is one. -/
inductive Strips : Bool → List Char → List Char → Prop
  | kept {cs : List Char}
      (h : ∀ word ∈ ["AllIgnoreCase", "AllIgnoringCase"], ¬ word.toList <:+: cs) :
      Strips false cs cs
  | removed {word : String} {before after : List Char}
      (hword : word ∈ ["AllIgnoreCase", "AllIgnoringCase"])
      (hfirst : ∀ word' ∈ ["AllIgnoreCase", "AllIgnoringCase"], ∀ before' after',
        before ++ (word.toList ++ after) = before' ++ (word'.toList ++ after') →
          before.length ≤ before'.length) :
      Strips true (before ++ (word.toList ++ after)) (before ++ after)

lemma Strips.cons {c : Char} {cs stripped : List Char} (h : Strips true cs stripped)
    (hstart : ∀ word ∈ ["AllIgnoreCase", "AllIgnoringCase"], ¬ word.toList <+: c :: cs) :
    Strips true (c :: cs) (c :: stripped) := by
  cases h with
  | @removed word before after hword hfirst =>
    rw [← List.cons_append, ← List.cons_append]
    apply Strips.removed hword
    intro word' hword' before' after' heq
    cases before' with
    | nil => exact absurd ⟨after', heq.symm⟩ (hstart word' hword')
    | cons d before' =>
      have htail := hfirst word' hword' before' after' (List.cons.inj heq).2
      simpa using htail

lemma strips_withoutAllIgnoreCase? (cs : List Char) :
    Strips (withoutAllIgnoreCase? cs).isSome cs ((withoutAllIgnoreCase? cs).getD cs) := by
  induction cs with
  | nil => exact .kept (by decide)
  | cons c cs ih =>
    rw [withoutAllIgnoreCase?]
    split
    · next rest hrest =>
      obtain ⟨word, hword, hcs⟩ := mem_of_afterWord? hrest
      rw [hcs, ← List.nil_append (word.toList ++ rest)]
      exact .removed hword (by simp)
    · next hnone =>
      have hstart : ∀ word ∈ ["AllIgnoreCase", "AllIgnoringCase"], ¬ word.toList <+: c :: cs := by
        rintro word hword ⟨rest, hrest⟩
        rw [afterWord?, List.findSome?_eq_none_iff] at hnone
        have hstarts := hnone word hword
        rw [List.isPrefixOf?_eq_some_iff_append_eq.mpr hrest] at hstarts
        simp at hstarts
      cases hcs : withoutAllIgnoreCase? cs with
      | some stripped =>
        rw [hcs] at ih
        exact ih.cons hstart
      | none =>
        rw [hcs] at ih
        cases ih with
        | kept h =>
          apply Strips.kept
          intro word hword
          exact not_infix_cons (hstart word hword) (h word hword)

/-! ### Splitting at a word -/

namespace SpellsJoined

variable {α β : Type} {R : α → List Char → Prop} {S : β → List Char → Prop} {Q : α → β → Prop}
  {word : String} {as : List α} {text : List Char}

lemma ne_nil (h : SpellsJoined R word as text) : as ≠ [] := by
  cases h <;> simp

lemma forall_mem (h : SpellsJoined R word as text) {p : α → Prop} (hp : ∀ a text, R a text → p a) :
    ∀ a ∈ as, p a := by
  induction h with
  | single h => simpa using hp _ _ h
  | cons h _ ih => exact List.forall_mem_cons.mpr ⟨hp _ _ h, ih⟩

/-- The items may be replaced one by one. -/
lemma forall₂ (h : SpellsJoined R word as text) {bs : List β} (hab : List.Forall₂ Q as bs)
    (hS : ∀ a b text, R a text → Q a b → S b text) : SpellsJoined S word bs text := by
  induction h generalizing bs with
  | single h =>
    cases hab with
    | cons hq hnil =>
      cases hnil
      exact .single (hS _ _ _ h hq)
  | cons h _ ih =>
    cases hab with
    | cons hq hab => exact .cons (hS _ _ _ h hq) (ih hab)

end SpellsJoined

/-- A piece stands for itself, and is not empty. -/
def IsText (piece text : List Char) : Prop := text = piece ∧ text ≠ []

lemma exists_of_breaksAt {word cs : List Char} (h : breaksAt word cs = true) :
    ∃ c rest, cs = word ++ c :: rest ∧ isUppercase c = true := by
  unfold breaksAt at h
  split at h
  · next c rest hstarts =>
    exact ⟨c, rest, (List.isPrefixOf?_eq_some_iff_append_eq.mp hstarts).symm, h⟩
  · simp at h

/-- The pieces of a text of which some characters have been passed over. -/
lemma joined_splitPieces {word : String} (hword : word.toList ≠ []) (passed cs : List Char)
    (hpassed : passed ≠ []) :
    SpellsJoined IsText word (consPieces passed (splitPieces word.toList 0 false cs))
      (passed ++ cs) := by
  induction hlength : cs.length using Nat.strong_induction_on generalizing passed cs with
  | _ n ih =>
    subst hlength
    cases cs with
    | nil =>
      rw [splitPieces, consPieces_cons_of_ne_nil, List.append_nil]
      exact .single ⟨rfl, hpassed⟩
    | cons c cs =>
      by_cases hbreak : breaksAt word.toList (c :: cs) = true
      · obtain ⟨d, rest, hcs, hd⟩ := exists_of_breaksAt hbreak
        have hshorter : rest.length < (c :: cs).length := by
          rw [hcs, List.length_append, List.length_cons]
          omega
        rw [hcs, splitPieces_break hword hd, consPieces_cons_of_ne_nil, List.append_nil]
        exact .cons ⟨rfl, hpassed⟩ (ih _ hshorter [d] rest (by simp) rfl)
      · have hrest := ih cs.length (by simp) (passed ++ [c]) cs (by simp) rfl
        rw [consPieces, List.foldr_append, List.append_assoc] at hrest
        rw [splitPieces, if_neg (by simp [hbreak])]
        exact hrest

/-- The pieces of a text, with the word between them, are the text. -/
lemma joined_splitAtWord {word : String} (hword : word.toList ≠ []) {cs : List Char}
    (hcs : cs ≠ []) : SpellsJoined IsText word (splitAtWord word cs) cs := by
  obtain ⟨c, cs, rfl⟩ := List.exists_cons_of_ne_nil hcs
  exact joined_splitPieces hword [c] cs (by simp)

/-! ### Orders -/

/-- The text of properties with a direction behind each, which may be missing behind the last. -/
inductive JoinsOrders : List (List Char × Direction) → List Char → Prop
  | ascending {property : List Char} (hne : property ≠ []) : JoinsOrders [(property, .asc)] property
  | single {property : List Char} (hne : property ≠ []) (d : Direction) :
      JoinsOrders [(property, d)] (property ++ (directionWord d).toList)
  | cons {property : List Char} (hne : property ≠ []) (d : Direction)
      {pieces : List (List Char × Direction)} {rest : List Char} (h : JoinsOrders pieces rest) :
      JoinsOrders ((property, d) :: pieces) (property ++ ((directionWord d).toList ++ rest))

lemma exists_of_directionAt? {cs : List Char} {d : Direction} (h : directionAt? cs = some d) :
    ∃ rest, cs = (directionWord d).toList ++ rest ∧ endsDirection (some rest) = true := by
  rw [directionAt?_eq_find?] at h
  have hends := List.find?_some h
  cases hstarts : (directionWord d).toList.isPrefixOf? cs with
  | none => simp [hstarts, endsDirection] at hends
  | some rest =>
    rw [hstarts] at hends
    exact ⟨rest, (List.isPrefixOf?_eq_some_iff_append_eq.mp hstarts).symm, hends⟩

/-- The orders of a text in front of which a part of a property has been read. -/
lemma joinsOrders_orderPieces (property cs : List Char) (hne : property ++ cs ≠ []) :
    JoinsOrders (orderPieces 0 property cs) (property ++ cs) := by
  induction hlength : cs.length using Nat.strong_induction_on generalizing property cs with
  | _ n ih =>
    subst hlength
    cases cs with
    | nil =>
      rw [List.append_nil] at hne ⊢
      rw [orderPieces_nil hne]
      exact .ascending hne
    | cons c cs =>
      by_cases hdirection : property ≠ [] ∧ ∃ d, directionAt? (c :: cs) = some d
      · obtain ⟨hproperty, d, hd⟩ := hdirection
        obtain ⟨rest, hcs, hends⟩ := exists_of_directionAt? hd
        rw [hcs, orderPieces_direction d hproperty hends]
        cases rest with
        | nil =>
          rw [List.append_nil]
          exact .single hproperty d
        | cons e rest =>
          have hshorter : (e :: rest).length < (c :: cs).length := by
            have hword := List.length_pos_iff.mpr (isPiece_directionWord d).ne_nil
            rw [hcs, List.length_append]
            omega
          exact .cons hproperty d (ih _ hshorter [] (e :: rest) (by simp) rfl)
      · have hnone : (if property.isEmpty then none else directionAt? (c :: cs)) = none := by
          split
          · rfl
          · next hproperty =>
            rw [Option.eq_none_iff_forall_ne_some]
            intro d hd
            exact hdirection ⟨by simpa using hproperty, d, hd⟩
        have hrest := ih cs.length (by simp) (property ++ [c]) cs (by simp) rfl
        rw [List.append_assoc] at hrest
        rw [orderPieces, hnone]
        exact hrest

end DocQuery.MethodName
