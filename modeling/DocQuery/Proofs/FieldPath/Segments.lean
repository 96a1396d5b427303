import DocQuery.Proofs.Text.Symbols
/-!
# Segmented texts

A segmented text is a row of quoted segments with dots between them. Its runs are closed, and
nothing stands outside them but the dots (`IsSegmented.closed`, `IsSegmented.eq_of_mem_bare`).
-/

namespace DocQuery

namespace Quoted

/-- Every `q` in the text stands there twice. -/
inductive Doubled (q : Char) : List Char → Prop where
  | nil : Doubled q []
  | other {c : Char} {cs : List Char} (hc : c ≠ q) (h : Doubled q cs) : Doubled q (c :: cs)
  | twice {cs : List Char} (h : Doubled q cs) : Doubled q (q :: q :: cs)

variable {q : Char}

lemma doubled_double (cs : List Char) : Doubled q (double q cs) := by
  induction cs with
  | nil => exact .nil
  | cons c cs ih =>
    rw [double]
    split
    · exact .twice ih
    · next hc => exact .other hc ih

lemma Doubled.exists_eq_double {inside : List Char} (h : Doubled q inside) :
    ∃ cs, inside = double q cs := by
  induction h with
  | nil => exact ⟨[], rfl⟩
  | @other c _ hc _ ih =>
    obtain ⟨cs, rfl⟩ := ih
    exact ⟨c :: cs, by rw [double, if_neg hc]⟩
  | twice _ ih =>
    obtain ⟨cs, rfl⟩ := ih
    exact ⟨q :: cs, by rw [double, if_pos rfl]⟩

lemma toList_wrap_append (q : Char) (s : String) (rest : List Char) :
    (wrap q s).toList ++ rest = q :: (double q s.toList ++ q :: rest) := by
  simp [wrap]

/-- Between two quotes, a text in which they are doubled is a quoted text. -/
lemma Doubled.exists_eq_wrap {inside : List Char} (h : Doubled q inside) :
    ∃ s, ∀ rest, q :: (inside ++ q :: rest) = (wrap q s).toList ++ rest := by
  obtain ⟨cs, rfl⟩ := h.exists_eq_double
  refine ⟨String.ofList cs, fun rest => ?_⟩
  rw [toList_wrap_append, String.toList_ofList]

end Quoted

/-- Segments with dots between them, each in quotes of one kind that are doubled inside it. -/
inductive IsSegmented : List Char → Prop where
  | single {q : Char} {inside : List Char} (hq : isQuote q = true) (h : Quoted.Doubled q inside) :
      IsSegmented (q :: (inside ++ [q]))
  | dotted {q : Char} {inside rest : List Char} (hq : isQuote q = true)
      (h : Quoted.Doubled q inside) (hrest : IsSegmented rest) :
      IsSegmented (q :: (inside ++ q :: '.' :: rest))

namespace IsSegmented

variable {cs rest : List Char} {q : Char}

lemma of_wrap (hq : isQuote q = true) (s : String) : IsSegmented (Quoted.wrap q s).toList := by
  rw [← List.append_nil (Quoted.wrap q s).toList, Quoted.toList_wrap_append]
  exact .single hq (Quoted.doubled_double s.toList)

lemma of_wrap_dot (hq : isQuote q = true) (s : String) (hrest : IsSegmented rest) :
    IsSegmented ((Quoted.wrap q s).toList ++ '.' :: rest) := by
  rw [Quoted.toList_wrap_append]
  exact .dotted hq (Quoted.doubled_double s.toList) hrest

lemma closed (h : IsSegmented cs) : Closed cs := by
  induction h with
  | single hq h =>
    obtain ⟨s, hs⟩ := h.exists_eq_wrap
    rw [hs, List.append_nil]
    exact closed_wrap hq s
  | dotted hq h _ ih =>
    obtain ⟨s, hs⟩ := h.exists_eq_wrap
    rw [hs]
    exact (closed_wrap hq s).append ((closed_cons_of_not_isQuote rfl _).mpr ih)

lemma eq_of_mem_bare (h : IsSegmented cs) : ∀ c ∈ bare cs, c = '.' := by
  induction h with
  | single hq h =>
    obtain ⟨s, hs⟩ := h.exists_eq_wrap
    rw [hs, List.append_nil, bare_wrap hq]
    simp
  | dotted hq h _ ih =>
    obtain ⟨s, hs⟩ := h.exists_eq_wrap
    rw [hs, bare_append (closed_wrap hq s), bare_wrap hq, List.nil_append,
      bare_cons_of_not_isQuote rfl]
    exact List.forall_mem_cons.mpr ⟨rfl, ih⟩

end IsSegmented

end DocQuery
