import DocQuery.Placeholders
import Mathlib.Tactic.Lemma
/-!
# Other values in a fragment

A function on values puts other values in the places of a fragment. All forms of fragments commute
with it, and so does writing placeholders: the text stays, and the other values are bound
(`bound_mapValues`).
-/

namespace DocQuery

variable (f : Value → Value)

/-- The piece with another value. -/
def Piece.mapValue : Piece → Piece
  | .text s => .text s
  | .value hint v => .value hint (f v)
  | .deferred => .deferred

namespace Fragment

/-- The fragment with other values. -/
def mapValues (a : Fragment) : Fragment := a.map (Piece.mapValue f)

variable (a b : Fragment)

/-! ### The forms of fragments -/

@[simp] lemma mapValues_append : mapValues f (a ++ b) = mapValues f a ++ mapValues f b :=
  List.map_append

@[simp] lemma mapValues_raw (s : String) : mapValues f (raw s) = raw s := rfl

@[simp] lemma mapValues_string (s : String) : mapValues f (string s) = string s := rfl

@[simp] lemma mapValues_boolean (b : Bool) : mapValues f (boolean b) = boolean b := rfl

@[simp] lemma mapValues_joined (separator : String) (as : List Fragment) :
    mapValues f (joined separator as) = joined separator (as.map (mapValues f)) := by
  induction as with
  | nil => rfl
  | cons a as ih =>
    cases as with
    | nil => rfl
    | cons b as => simp [joined, ih]

@[simp] lemma mapValues_call (function : String) (args : List Fragment) :
    mapValues f (call function args) = call function (args.map (mapValues f)) := by
  simp [call]

@[simp] lemma mapValues_binary (operator : String) :
    mapValues f (binary a operator b) = binary (mapValues f a) operator (mapValues f b) := by
  simp [binary]

@[simp] lemma mapValues_suffixed (word : String) :
    mapValues f (suffixed a word) = suffixed (mapValues f a) word := by
  simp [suffixed]

@[simp] lemma mapValues_concat :
    mapValues f (concat a b) = concat (mapValues f a) (mapValues f b) := by
  simp [concat]

@[simp] lemma mapValues_between (low high : Fragment) :
    mapValues f (between a low high) =
      between (mapValues f a) (mapValues f low) (mapValues f high) := by
  simp [between]

end Fragment

/-! ### Placeholders -/

namespace Bindings

/-- The bindings with other values. -/
def mapValues : Bindings → Bindings
  | .positional values => .positional (values.map f)
  | .named entries => .named (entries.map (Prod.map id f))

lemma map_insert (name : String) (v : Value) (entries : List (String × Value)) :
    (insert name v entries).map (Prod.map id f) =
      insert name (f v) (entries.map (Prod.map id f)) := by
  induction entries with
  | nil => rfl
  | cons entry entries ih =>
    obtain ⟨other, w⟩ := entry
    have hentry : Prod.map id f (other, w) = (other, f w) := rfl
    rw [insert, List.map_cons, hentry, insert]
    by_cases heq : name = other
    · rw [if_pos heq, if_pos heq]
      rfl
    · rw [if_neg heq, if_neg heq]
      by_cases hlt : name < other
      · rw [if_pos hlt, if_pos hlt]
        rfl
      · rw [if_neg hlt, if_neg hlt, List.map_cons, ih]
        rfl

/-- The order of a dictionary is that of its names. -/
lemma map_ofEntries (entries : List (String × Value)) :
    (ofEntries entries).map (Prod.map id f) = ofEntries (entries.map (Prod.map id f)) := by
  have hfold : ∀ sorted : List (String × Value),
      (entries.foldl (fun sorted e => insert e.1 e.2 sorted) sorted).map (Prod.map id f) =
        (entries.map (Prod.map id f)).foldl (fun sorted e => insert e.1 e.2 sorted)
          (sorted.map (Prod.map id f)) := by
    induction entries with
    | nil => intro sorted; rfl
    | cons entry entries ih =>
      intro sorted
      rw [List.foldl_cons, ih, map_insert]
      rfl
  exact hfold []

end Bindings

namespace Placeholders

variable (p : Placeholders)

/-- The placeholders with other values bound to them. -/
def mapValues : Placeholders := { p with values := p.values.map f }

lemma push_mapValues (hint : String) (v : Value) :
    (p.mapValues f).push hint (f v) = ((p.push hint v).1, (p.push hint v).2.mapValues f) := by
  simp [push, next, bind, mapValues, nextName]

lemma finish_mapValues :
    (p.mapValues f).finish = (Bindings.mapValues f) <$> p.finish := by
  rw [finish, finish, mapValues, List.length_map]
  split
  · rfl
  · cases p.style with
    | positional => rfl
    | named =>
      have hzip : p.names.zip (p.values.map f) = (p.names.zip p.values).map (Prod.map id f) := by
        rw [← List.zip_map, List.map_id]
      simp only [hzip, ← Bindings.map_ofEntries]
      rfl

end Placeholders

/-- The text with placeholders is the same with other values. -/
theorem Fragment.bound_mapValues (a : Fragment) (p : Placeholders) :
    bound (a.mapValues f) (p.mapValues f) = ((a.bound p).1, (a.bound p).2.mapValues f) := by
  induction a generalizing p with
  | nil => rfl
  | cons piece a ih =>
    cases piece with
    | text s =>
      have hrest := ih p
      simp only [mapValues, List.map_cons, Piece.mapValue, bound] at hrest ⊢
      rw [hrest]
    | value hint v =>
      have hrest := ih (p.push hint v).2
      simp only [mapValues, List.map_cons, Piece.mapValue, bound] at hrest ⊢
      rw [p.push_mapValues, hrest]
    | deferred => rfl

end DocQuery
