import DocQuery.Proofs.Placeholders
/-!
# Calls on placeholders

Placeholders are issued and values are bound in any order. Whatever the calls are, a name that a
hint gets is the first one that is free (`isFirstFree_freshName`), the placeholders are in the
order of their hints (`Follows`), and what is finished binds the first placeholder to the first
value, the second to the second, and so on (`calls_pair_in_order`).
-/

namespace DocQuery

/-! ### Names that are free -/

namespace Placeholders

variable {taken : List String} {hint : String}

/-- The name is the hint if that one is not taken, and else the first of `hint_2`, `hint_3`, … that
is not. -/
def IsFirstFree (taken : List String) (hint name : String) : Prop :=
  (hint ∉ taken ∧ name = hint) ∨
    (hint ∈ taken ∧ ∃ m, 2 ≤ m ∧ name = hint ++ "_" ++ toString m ∧ name ∉ taken ∧
      ∀ i, 2 ≤ i → i < m → hint ++ "_" ++ toString i ∈ taken)

/-- The search for a numbered name passes over names that are taken. -/
lemma exists_numberedName_eq (taken : List String) (hint : String) (fuel m : Nat) :
    ∃ n, m ≤ n ∧ numberedName taken hint fuel m = hint ++ "_" ++ toString n ∧
      ∀ i, m ≤ i → i < n → hint ++ "_" ++ toString i ∈ taken := by
  induction fuel generalizing m with
  | zero => exact ⟨m, Nat.le_refl m, rfl, fun i hi hlt => by omega⟩
  | succ fuel ih =>
    rw [numberedName]
    split
    · next hm =>
      obtain ⟨n, hle, heq, hbelow⟩ := ih (m + 1)
      refine ⟨n, by omega, heq, fun i hi hlt => ?_⟩
      rcases Nat.eq_or_lt_of_le hi with rfl | hi
      · exact hm
      · exact hbelow i hi hlt
    · exact ⟨m, Nat.le_refl m, rfl, fun i hi hlt => by omega⟩

/-- A fresh name is the first one that is free: the search for it never runs out of fuel. -/
theorem isFirstFree_freshName (taken : List String) (hint : String) :
    IsFirstFree taken hint (freshName taken hint) := by
  have hnew := freshName_not_mem taken hint
  rw [freshName] at hnew ⊢
  split at hnew
  · next htaken =>
    obtain ⟨m, hle, heq, hbelow⟩ := exists_numberedName_eq taken hint taken.length 2
    rw [if_pos htaken]
    exact .inr ⟨htaken, m, hle, heq, hnew, hbelow⟩
  · next hfree =>
    rw [if_neg hfree]
    exact .inl ⟨hfree, rfl⟩

lemma IsFirstFree.not_mem {name : String} (h : IsFirstFree taken hint name) : name ∉ taken := by
  rcases h with ⟨hfree, rfl⟩ | ⟨-, m, -, -, hfree, -⟩
  · exact hfree
  · exact hfree

/-! ### Names in the order of their hints -/

/-- The name that a hint gets behind the names issued before. -/
def IsNext (style : PlaceholderStyle) (before : List String) (hint name : String) : Prop :=
  match style with
  | .positional => name = toString (before.length + 1)
  | .named => IsFirstFree before hint name

/-- There is a name for every hint, and each is the one that its hint gets behind those before. -/
inductive Follows (style : PlaceholderStyle) : List String → List String → Prop where
  | nil : Follows style [] []
  | snoc {hints names} (h : Follows style hints names) {hint name : String}
      (hname : IsNext style names hint name) : Follows style (hints ++ [hint]) (names ++ [name])

variable {style : PlaceholderStyle} {hints names : List String}

lemma Follows.length_eq (h : Follows style hints names) : names.length = hints.length := by
  induction h with
  | nil => rfl
  | snoc _ _ ih => simp [ih]

lemma Follows.eq_range' (h : Follows .positional hints names) :
    names = (List.range' 1 names.length).map toString := by
  induction h with
  | nil => rfl
  | @snoc hints names _ hint name hname ih =>
    obtain rfl : name = toString (names.length + 1) := hname
    rw [List.length_append, List.length_singleton, List.range'_concat, List.map_append, ← ih,
      Nat.add_comm 1]
    simp

lemma toString_injective : Function.Injective (toString : Nat → String) := by
  intro m n h
  exact numbered_injective "" (congrArg ("" ++ "_" ++ ·) h)

lemma Follows.nodup (h : Follows style hints names) : names.Nodup := by
  cases style with
  | positional =>
    rw [h.eq_range']
    have hrange : (List.range' 1 names.length).Nodup := List.nodup_range'
    exact hrange.map toString_injective
  | named =>
    induction h with
    | nil => exact .nil
    | snoc _ hname ih => simpa using ih.concat hname.not_mem

/-- The name at a position is the one that the hint at this position gets. -/
lemma Follows.isNext_getElem (h : Follows style hints names) {k : Nat} (hh : k < hints.length)
    (hn : k < names.length) : IsNext style (names.take k) hints[k] names[k] := by
  induction h with
  | nil => exact absurd hn (by simp)
  | @snoc hints names h hint name hname ih =>
    rcases Nat.lt_or_ge k names.length with hk | hk
    · have hk' : k < hints.length := h.length_eq ▸ hk
      rw [List.getElem_append_left hk, List.getElem_append_left hk',
        List.take_append_of_le_length (Nat.le_of_lt hk)]
      exact ih hk' hk
    · obtain rfl : k = names.length := by simp at hn; omega
      have hlength := h.length_eq
      simpa [hlength] using hname

end Placeholders

/-! ### Calls -/

namespace Placeholders

/-- A call: a placeholder is issued, a value is bound, or both at once. -/
inductive Call where
  | next (hint : String)
  | bind (v : Value)
  | push (hint : String) (v : Value)

namespace Call

/-- The hint for the placeholder that is issued, if one is. -/
def hint? : Call → Option String
  | .next hint => some hint
  | .bind _ => none
  | .push hint _ => some hint

/-- The value that is bound, if one is. -/
def value? : Call → Option Value
  | .next _ => none
  | .bind v => some v
  | .push _ v => some v

/-- The placeholder that is issued, and all placeholders behind the call. -/
def apply (p : Placeholders) : Call → Option String × Placeholders
  | .next hint => ((p.next hint).1, (p.next hint).2)
  | .bind v => (none, p.bind v)
  | .push hint v => ((p.push hint v).1, (p.push hint v).2)

end Call

/-- The placeholders that calls issue one after another, and all placeholders behind them. -/
def run (p : Placeholders) : List Call → List String × Placeholders
  | [] => ([], p)
  | call :: calls =>
    let (issued, p) := call.apply p
    let (tokens, p) := p.run calls
    (issued.toList ++ tokens, p)

/-- A call issues at most one placeholder, with the next name for its hint, and binds at most one
value. -/
lemma Call.apply_eq (p : Placeholders) (call : Call) :
    call.apply p = (call.hint?.map fun hint => "$" ++ p.nextName hint,
      ⟨p.style, p.names ++ (call.hint?.map p.nextName).toList, p.values ++ call.value?.toList⟩) := by
  cases call with
  | next hint => simp [apply, hint?, value?, Placeholders.next]
  | bind v => simp [apply, hint?, value?, Placeholders.bind]
  | push hint v =>
    simp [apply, hint?, value?, Placeholders.push, Placeholders.next, Placeholders.bind]

lemma isNext_nextName (p : Placeholders) (hint : String) :
    IsNext p.style p.names hint (p.nextName hint) := by
  rw [nextName]
  cases p.style with
  | positional => rfl
  | named => exact isFirstFree_freshName p.names hint

/-- A call keeps the names in the order of their hints. -/
lemma Call.follows_apply {p : Placeholders} {hints : List String} (call : Call)
    (h : Follows p.style hints p.names) :
    Follows p.style (hints ++ call.hint?.toList) (p.names ++ (call.hint?.map p.nextName).toList) := by
  cases call.hint? with
  | none => simpa using h
  | some hint => exact h.snoc (p.isNext_nextName hint)

lemma filterMap_cons_toList {α β : Type} (f : α → Option β) (a : α) (as : List α) :
    (a :: as).filterMap f = (f a).toList ++ as.filterMap f := by
  cases h : f a <;> simp [h]

/-- Calls issue a placeholder for every hint, in the order of the hints, and bind every value. -/
lemma run_spec (calls : List Call) {p : Placeholders} {hints : List String}
    (h : Follows p.style hints p.names) :
    ∃ names, p.run calls = (names.map ("$" ++ ·),
        ⟨p.style, p.names ++ names, p.values ++ calls.filterMap Call.value?⟩) ∧
      Follows p.style (hints ++ calls.filterMap Call.hint?) (p.names ++ names) := by
  induction calls generalizing p hints with
  | nil => exact ⟨[], by simp [run], by simpa using h⟩
  | cons call calls ih =>
    obtain ⟨names, hrun, hnames⟩ := ih (call.follows_apply h)
      (p := ⟨p.style, p.names ++ (call.hint?.map p.nextName).toList, p.values ++ call.value?.toList⟩)
    refine ⟨(call.hint?.map p.nextName).toList ++ names, ?_, ?_⟩
    · simp only [run, call.apply_eq, hrun]
      cases call.hint? <;> simp [filterMap_cons_toList]
    · simpa [filterMap_cons_toList] using hnames

end Placeholders

/-! ### What placeholders stand for -/

namespace Bindings

/-- The placeholder stands for the value. -/
def StandsFor : Bindings → String → Value → Prop
  | .positional values, token, v => ∃ k, token = "$" ++ toString (k + 1) ∧ values[k]? = some v
  | .named entries, token, v => ∃ name, token = "$" ++ name ∧ entries.lookup name = some v

lemma lookup_eq_some_of_mem {entries : List (String × Value)} (h : (entries.map Prod.fst).Nodup)
    {name : String} {v : Value} (hmem : (name, v) ∈ entries) : entries.lookup name = some v := by
  induction entries with
  | nil => exact absurd hmem (by simp)
  | cons entry entries ih =>
    obtain ⟨other, w⟩ := entry
    obtain ⟨hnot, hnodup⟩ := List.nodup_cons.mp h
    rcases List.mem_cons.mp hmem with heq | hin
    · obtain ⟨rfl, rfl⟩ := Prod.mk.inj heq
      exact List.lookup_cons_self
    · have hne : name ≠ other := by
        rintro rfl
        exact hnot (List.mem_map.mpr ⟨(name, v), hin, rfl⟩)
      rw [List.lookup_cons, beq_false_of_ne hne]
      exact ih hnodup hin

/-- Each of the placeholders that values are bound to stands for its own, and there is an entry for
every placeholder. -/
lemma Binds.standsFor {bindings : Bindings} {tokens : List String} {values : List Value}
    (h : bindings.Binds tokens values) :
    List.Forall₂ bindings.StandsFor tokens values ∧ bindings.size = tokens.length := by
  refine ⟨List.forall₂_iff_get.mpr ⟨h.length_eq, fun k hk hk' => ?_⟩, ?_⟩
  · cases bindings with
    | positional bound =>
      obtain ⟨rfl, rfl⟩ := h
      exact ⟨k, by simp [Nat.add_comm], by simp⟩
    | named entries =>
      obtain ⟨names, rfl, hnodup, hlength, hperm⟩ := h
      refine ⟨names.get ⟨k, by simpa using hk⟩, by simp, lookup_eq_some_of_mem ?_ ?_⟩
      · rw [(hperm.map Prod.fst).nodup_iff, List.map_fst_zip (Nat.le_of_eq hlength)]
        exact hnodup
      · rw [hperm.mem_iff, List.mem_iff_getElem]
        exact ⟨k, by simpa [hlength] using hk', by simp⟩
  · rw [h.length_eq]
    cases bindings with
    | positional bound =>
      obtain ⟨rfl, -⟩ := h
      rfl
    | named entries =>
      obtain ⟨names, -, -, hlength, hperm⟩ := h
      rw [size, hperm.length_eq, List.length_zip, hlength, Nat.min_self]

end Bindings

namespace Placeholders

/-- Placeholders in the order of their hints are finished if there is a value for each. -/
lemma Follows.finish {style : PlaceholderStyle} {hints names : List String} {values : List Value}
    (h : Follows style hints names) (hlength : names.length = values.length) :
    ∃ bindings, (⟨style, names, values⟩ : Placeholders).finish = .ok bindings ∧
      bindings.style = style ∧ bindings.Binds (names.map ("$" ++ ·)) values := by
  rw [Placeholders.finish, if_neg (by simpa using hlength)]
  cases style with
  | positional =>
    refine ⟨_, rfl, rfl, rfl, ?_⟩
    rw [h.eq_range', hlength, List.map_map]
    rfl
  | named =>
    refine ⟨_, rfl, rfl, names, rfl, h.nodup, hlength, Bindings.ofEntries_perm ?_⟩
    rw [List.map_fst_zip (Nat.le_of_eq hlength)]
    exact h.nodup

/-- Whatever is called on new placeholders, those issued are distinct and each has the name that its
hint gets behind the ones before. They are finished if there are as many of them as values, and then
each stands for the value at its place. -/
theorem calls_pair_in_order (style : PlaceholderStyle) (calls : List Call) :
    ∃ (names : List String) (p : Placeholders),
      (empty style).run calls = (names.map ("$" ++ ·), p) ∧
      (names.map ("$" ++ ·)).Nodup ∧
      names.length = (calls.filterMap Call.hint?).length ∧
      (∀ (k : Nat) (hh : k < (calls.filterMap Call.hint?).length) (hn : k < names.length),
        match style with
        | .positional => names[k] = toString (k + 1)
        | .named => IsFirstFree (names.take k) (calls.filterMap Call.hint?)[k] names[k]) ∧
      (names.length ≠ (calls.filterMap Call.value?).length →
        p.finish = .error (.bindingCount names.length (calls.filterMap Call.value?).length)) ∧
      (names.length = (calls.filterMap Call.value?).length →
        ∃ bindings, p.finish = .ok bindings ∧ bindings.style = style ∧
          bindings.size = names.length ∧
          List.Forall₂ bindings.StandsFor (names.map ("$" ++ ·)) (calls.filterMap Call.value?)) := by
  obtain ⟨names, hrun, hnames⟩ := run_spec calls (p := empty style) .nil
  simp only [empty, List.nil_append] at hrun hnames
  have hdollar : Function.Injective fun name : String => "$" ++ name := by
    intro a b hab
    simpa [← String.toList_inj] using hab
  refine ⟨names, _, hrun, hnames.nodup.map hdollar, hnames.length_eq, ?_, ?_, ?_⟩
  · intro k hh hn
    have hnext := hnames.isNext_getElem hh hn
    cases style with
    | positional => simpa [IsNext, Nat.min_eq_left (Nat.le_of_lt hn)] using hnext
    | named => exact hnext
  · intro hne
    rw [finish, if_pos hne]
  · intro heq
    obtain ⟨bindings, hfinish, hstyle, hbinds⟩ := hnames.finish heq
    obtain ⟨hstands, hsize⟩ := hbinds.standsFor
    exact ⟨bindings, hfinish, hstyle, by simpa using hsize, hstands⟩

end Placeholders

end DocQuery
