import DocQuery.Proofs.Fragment.Template
import DocQuery.Proofs.Text.Scan
/-!
# Placeholders in written fragments

A fragment is scannable if its texts have no placeholders of their own and no name goes on behind a
value. A scan then finds what its places are filled with, and nothing else (`scan_fill`).
-/

namespace DocQuery.Fragment

/-- What stands behind a value does not go on with a name. -/
def startsApart : Fragment → Bool
  | [] => true
  | .text t :: _ => t.toList.head?.map FieldPath.isNameChar == some false
  | .value _ _ :: _ => false
  | .deferred :: _ => false

/-- A scan of the fragment finds its values. -/
def Scannable : Fragment → Prop
  | [] => True
  | .text t :: a => PlainText t.toList ∧ Scannable a
  | .value hint _ :: a =>
    (∀ c ∈ hint.toList, FieldPath.isNameChar c = true) ∧ startsApart a = true ∧ Scannable a
  | .deferred :: a => startsApart a = true ∧ Scannable a

variable {a b : Fragment}

lemma startsApart_fill (h : a.startsApart = true) (ts : List String) :
    StartsApart (a.fill ts).toList := by
  match a with
  | [] => simp [fill, headText, tailTexts, interleave, StartsApart]
  | .text t :: a =>
    intro s hs
    rw [fill_text, String.toList_append] at hs
    cases ht : t.toList with
    | nil => simp [startsApart, ht] at h
    | cons c cs =>
      obtain rfl : (⟨c, (none : Option Char).isSome || isQuote c⟩ : Symbol) = s := by
        simpa [ht, symbols, symbolsFrom] using hs
      have hc : FieldPath.isNameChar c = false := by simpa [startsApart, ht] using h
      simp [Symbol.isNamePart, hc]

lemma Scannable.hints (h : a.Scannable) :
    ∀ slot ∈ a.slots, ∀ c ∈ slot.1.toList, FieldPath.isNameChar c = true := by
  induction a with
  | nil => simp [slots]
  | cons piece a ih =>
    cases piece with
    | text t => exact ih h.2
    | value hint v => exact List.forall_mem_cons.mpr ⟨h.1, ih h.2.2⟩
    | deferred => exact ih h.2

/-- A scan finds the placeholders that the places are filled with. -/
theorem scan_fill (h : a.Scannable) {names : List String} (hlength : names.length = a.slots.length)
    (hnames : ∀ name ∈ names, ∀ c ∈ name.toList, FieldPath.isNameChar c = true) :
    scan (symbols (a.fill (names.map ("$" ++ ·))).toList) = names.map ("$" ++ ·) := by
  induction a generalizing names with
  | nil =>
    obtain rfl : names = [] := List.eq_nil_of_length_eq_zero hlength
    rfl
  | cons piece a ih =>
    cases piece with
    | text t =>
      rw [fill_text, String.toList_append, h.1.scan_append]
      exact ih h.2 hlength hnames
    | deferred => exact ih h.2 hlength hnames
    | value hint v =>
      cases names with
      | nil => simp [slots] at hlength
      | cons name names =>
        obtain ⟨hname, hnames⟩ := List.forall_mem_cons.mp hnames
        have hrest := ih h.2.2 (by simpa [slots] using hlength) hnames
        have htext : (fill (.value hint v :: a) ((name :: names).map ("$" ++ ·))).toList =
            '$' :: (name.toList ++ (fill a (names.map ("$" ++ ·))).toList) := by
          rw [List.map_cons, fill_value]
          simp
        rw [htext, scan_placeholder hname (startsApart_fill h.2.1 _), hrest]
        simp

/-! ### The forms of fragments -/

/-- A text that parts a value from what follows. -/
structure Separator (t : String) : Prop where
  plain : PlainText t.toList
  apart : t.toList.head?.map FieldPath.isNameChar = some false

namespace Separator

lemma blank : Separator " " := ⟨.of_all rfl, rfl⟩

lemma comma : Separator ", " := ⟨.of_all rfl, rfl⟩

lemma append {t u : String} (ht : Separator t) (hu : PlainText u.toList) : Separator (t ++ u) where
  plain := by
    rw [String.toList_append]
    exact ht.plain.append hu
  apart := by
    obtain ⟨c, hc, hname⟩ := Option.map_eq_some_iff.mp ht.apart
    simp [List.head?_append, hc, hname]

end Separator

namespace Scannable

lemma text {t : String} (ht : PlainText t.toList) (hb : b.Scannable) : Scannable (.text t :: b) :=
  ⟨ht, hb⟩

lemma raw {t : String} (ht : PlainText t.toList) : (Fragment.raw t).Scannable := ⟨ht, trivial⟩

/-- Behind a separator a new fragment may start. -/
lemma append_text (ha : a.Scannable) {t : String} (ht : Separator t) (hb : b.Scannable) :
    Scannable (a ++ .text t :: b) := by
  have hapart : ∀ a : Fragment, a.startsApart = true → (a ++ .text t :: b).startsApart = true := by
    intro a ha
    match a with
    | [] => simp [startsApart, ht.apart]
    | .text _ :: _ => exact ha
  induction a with
  | nil => exact ⟨ht.plain, hb⟩
  | cons piece a ih =>
    cases piece with
    | text t => exact ⟨ha.1, ih ha.2⟩
    | value hint v => exact ⟨ha.1, hapart a ha.2.1, ih ha.2.2⟩
    | deferred => exact ⟨hapart a ha.1, ih ha.2⟩

lemma append_raw (ha : a.Scannable) {t : String} (ht : Separator t) :
    Scannable (a ++ Fragment.raw t) :=
  ha.append_text ht trivial

lemma suffixed (ha : a.Scannable) {word : String} (hword : PlainText word.toList) :
    (Fragment.suffixed a word).Scannable :=
  ha.append_raw (Separator.blank.append hword)

lemma binary (ha : a.Scannable) {op : String} (hop : PlainText op.toList) (hb : b.Scannable) :
    (Fragment.binary a op b).Scannable := by
  rw [Fragment.binary, List.append_assoc]
  exact ha.append_text ((Separator.blank.append hop).append (.of_all rfl)) hb

lemma joined {separator : String} (hs : Separator separator) {as : List Fragment}
    (h : ∀ a ∈ as, a.Scannable) : (Fragment.joined separator as).Scannable := by
  induction as with
  | nil => trivial
  | cons a as ih =>
    obtain ⟨ha, has⟩ := List.forall_mem_cons.mp h
    cases as with
    | nil => exact ha
    | cons b as =>
      rw [Fragment.joined, List.append_assoc]
      exact ha.append_text hs (ih has)
      simp

lemma call {f : String} (hf : PlainText f.toList) {args : List Fragment}
    (h : ∀ a ∈ args, a.Scannable) : (Fragment.call f args).Scannable := by
  have hopening : PlainText (f ++ "(").toList := by
    rw [String.toList_append]
    exact hf.append (.of_all rfl)
  rw [Fragment.call, List.append_assoc]
  exact text hopening (append_raw (joined .comma h) ⟨.of_all rfl, rfl⟩)

lemma concat (ha : a.Scannable) (hb : b.Scannable) : (Fragment.concat a b).Scannable := by
  rw [Fragment.concat, List.append_assoc]
  exact ha.append_text ⟨.of_all rfl, rfl⟩ hb

lemma between {low high : Fragment} (ha : a.Scannable) (hlow : low.Scannable)
    (hhigh : high.Scannable) : (Fragment.between a low high).Scannable := by
  rw [Fragment.between, List.append_assoc, List.append_assoc, List.append_assoc]
  exact ha.append_text ⟨.of_all rfl, rfl⟩ (hlow.append_text ⟨.of_all rfl, rfl⟩ hhigh)

end Scannable

end DocQuery.Fragment
