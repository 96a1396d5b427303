import DocQuery.Placeholders
import Mathlib.Tactic.Lemma
/-!
# Writing open values

Literals and placeholders are two ways to write the values of a fragment. A writer says what it
writes for a value and how that changes its state; `Fragment.write` takes it through a fragment.
What is proved of `write` holds of `inline` and `bound` alike.
-/

namespace DocQuery

/-- Writes placeholders of a style and binds the values to them. -/
def Writer.placeholders (style : PlaceholderStyle) :
    Writer {p : Placeholders // p.style = style} :=
  fun p hint v => ((p.val.push hint v).1, ⟨(p.val.push hint v).2, p.property⟩)

variable {σ : Type}

namespace Fragment

/-- The text of a fragment, and the state behind it. -/
def write (w : Writer σ) : Fragment → σ → Except Fault String × σ
  | [], s => (.ok "", s)
  | .text t :: pieces, s => ((write w pieces s).1.map (t ++ ·), (write w pieces s).2)
  | .value hint v :: pieces, s =>
    ((write w pieces (w s hint v).2).1.map ((w s hint v).1 ++ ·), (write w pieces (w s hint v).2).2)
  | .deferred :: _, s => (.error .deferredOperand, s)

/-- Placeholders are written as they are issued. -/
theorem bound_eq_write_push (a : Fragment) (p : Placeholders) :
    a.bound p = a.write Placeholders.push p := by
  induction a generalizing p with
  | nil => rfl
  | cons piece a ih =>
    cases piece with
    | text t => simp only [bound, write, ih]
    | value hint v => simp only [bound, write, ih]
    | deferred => rfl

/-- A writer writes the same if its state is only a part of another one. -/
lemma write_of_part {τ : Type} {w : Writer σ} {w' : Writer τ} (part : τ → σ)
    (h : ∀ t hint v, w (part t) hint v = ((w' t hint v).1, part (w' t hint v).2))
    (a : Fragment) (t : τ) : a.write w (part t) = ((a.write w' t).1, part (a.write w' t).2) := by
  induction a generalizing t with
  | nil => rfl
  | cons piece a ih =>
    cases piece with
    | text s => simp only [write, ih]
    | value hint v => simp only [write, h, ih]
    | deferred => rfl

/-- The style of placeholders can be kept beside them. -/
theorem bound_eq_write {style : PlaceholderStyle} (a : Fragment)
    (p : {p : Placeholders // p.style = style}) :
    a.bound p = ((a.write (Writer.placeholders style) p).1,
      (a.write (Writer.placeholders style) p).2.val) := by
  rw [bound_eq_write_push]
  exact write_of_part Subtype.val (fun _ _ _ => rfl) a p

theorem inline_eq_write (a : Fragment) : a.inline = (a.write Writer.literals ()).1 := by
  induction a with
  | nil => rfl
  | cons piece a ih =>
    cases piece with
    | text t => simp only [inline, write, ← ih]; cases inline a <;> rfl
    | value hint v => simp only [inline, write, ← ih]; cases inline a <;> rfl
    | deferred => rfl

/-! ### Texts that are written -/

/-- The fragment is written as `cs` and takes the writer from `s` to `s'`. -/
def Writes (w : Writer σ) (a : Fragment) (s : σ) (cs : List Char) (s' : σ) : Prop :=
  ∃ t, a.write w s = (.ok t, s') ∧ t.toList = cs

variable {w : Writer σ} {a b : Fragment} {s s' : σ} {cs : List Char}

@[simp] lemma writes_nil : Writes w [] s cs s' ↔ cs = [] ∧ s' = s := by
  constructor
  · rintro ⟨t, h, rfl⟩
    obtain ⟨rfl, rfl⟩ : "" = t ∧ s = s' := by simpa [write] using h
    exact ⟨rfl, rfl⟩
  · rintro ⟨rfl, rfl⟩
    exact ⟨"", rfl, rfl⟩

lemma writes_text (t : String) :
    Writes w (.text t :: a) s cs s' ↔ ∃ rest, Writes w a s rest s' ∧ cs = t.toList ++ rest := by
  constructor
  · rintro ⟨u, h, rfl⟩
    cases ha : a.write w s with
    | mk r s₁ =>
      cases r with
      | error e => simp [write, ha, Except.map] at h
      | ok v =>
        obtain ⟨rfl, rfl⟩ : t ++ v = u ∧ s₁ = s' := by simpa [write, ha, Except.map] using h
        exact ⟨v.toList, ⟨v, ha, rfl⟩, by simp⟩
  · rintro ⟨rest, ⟨v, ha, rfl⟩, rfl⟩
    exact ⟨t ++ v, by simp [write, ha, Except.map], by simp⟩

lemma writes_value (hint : String) (v : Value) :
    Writes w (.value hint v :: a) s cs s' ↔
      ∃ rest, Writes w a (w s hint v).2 rest s' ∧ cs = (w s hint v).1.toList ++ rest := by
  constructor
  · rintro ⟨u, h, rfl⟩
    cases ha : a.write w (w s hint v).2 with
    | mk r s₁ =>
      cases r with
      | error e => simp [write, ha, Except.map] at h
      | ok t =>
        obtain ⟨rfl, rfl⟩ : (w s hint v).1 ++ t = u ∧ s₁ = s' := by
          simpa [write, ha, Except.map] using h
        exact ⟨t.toList, ⟨t, ha, rfl⟩, by simp⟩
  · rintro ⟨rest, ⟨t, ha, rfl⟩, rfl⟩
    exact ⟨(w s hint v).1 ++ t, by simp [write, ha, Except.map], by simp⟩

@[simp] lemma not_writes_deferred : ¬ Writes w (.deferred :: a) s cs s' := by
  rintro ⟨t, h, -⟩
  simp [write] at h

@[simp] lemma writes_raw (t : String) : Writes w (raw t) s cs s' ↔ cs = t.toList ∧ s' = s := by
  rw [raw, writes_text]
  simp [and_assoc, and_comm]

/-- Fragments are written one behind the other. -/
lemma writes_append :
    Writes w (a ++ b) s cs s' ↔
      ∃ ca s₁ cb, Writes w a s ca s₁ ∧ Writes w b s₁ cb s' ∧ cs = ca ++ cb := by
  induction a generalizing s cs with
  | nil => simp [and_assoc]
  | cons piece a ih =>
    cases piece with
    | text t =>
      simp only [List.cons_append, writes_text, ih]
      constructor
      · rintro ⟨_, ⟨ca, s₁, cb, ha, hb, rfl⟩, rfl⟩
        exact ⟨t.toList ++ ca, s₁, cb, ⟨ca, ha, rfl⟩, hb, by simp⟩
      · rintro ⟨_, s₁, cb, ⟨ca, ha, rfl⟩, hb, rfl⟩
        exact ⟨ca ++ cb, ⟨ca, s₁, cb, ha, hb, rfl⟩, by simp⟩
    | value hint v =>
      simp only [List.cons_append, writes_value, ih]
      constructor
      · rintro ⟨_, ⟨ca, s₁, cb, ha, hb, rfl⟩, rfl⟩
        exact ⟨(w s hint v).1.toList ++ ca, s₁, cb, ⟨ca, ha, rfl⟩, hb, by simp⟩
      · rintro ⟨_, s₁, cb, ⟨ca, ha, rfl⟩, hb, rfl⟩
        exact ⟨ca ++ cb, ⟨ca, s₁, cb, ha, hb, rfl⟩, by simp⟩
    | deferred => simp

/-! ### The forms of conditions -/

lemma writes_suffixed (word : String) :
    Writes w (suffixed a word) s cs s' ↔
      ∃ ca, Writes w a s ca s' ∧ cs = ca ++ ' ' :: word.toList := by
  simp only [suffixed, writes_append, writes_raw]
  constructor
  · rintro ⟨ca, _, _, ha, ⟨rfl, rfl⟩, rfl⟩
    exact ⟨ca, ha, by simp⟩
  · rintro ⟨ca, ha, rfl⟩
    exact ⟨ca, s', _, ha, ⟨rfl, rfl⟩, by simp⟩

lemma writes_binary (operator : String) :
    Writes w (binary a operator b) s cs s' ↔
      ∃ ca s₁ cb, Writes w a s ca s₁ ∧ Writes w b s₁ cb s' ∧
        cs = ca ++ ' ' :: (operator.toList ++ ' ' :: cb) := by
  simp only [binary, writes_append, writes_raw]
  constructor
  · rintro ⟨_, s₁, cb, ⟨ca, _, _, ha, ⟨rfl, rfl⟩, rfl⟩, hb, rfl⟩
    exact ⟨ca, s₁, cb, ha, hb, by simp⟩
  · rintro ⟨ca, s₁, cb, ha, hb, rfl⟩
    exact ⟨_, s₁, cb, ⟨ca, s₁, _, ha, ⟨rfl, rfl⟩, rfl⟩, hb, by simp⟩

lemma writes_call (f : String) :
    Writes w (call f [a]) s cs s' ↔
      ∃ ca, Writes w a s ca s' ∧ cs = f.toList ++ '(' :: (ca ++ [')']) := by
  simp only [call, joined, writes_append, writes_raw]
  constructor
  · rintro ⟨_, _, _, ⟨_, _, ca, ⟨rfl, rfl⟩, ha, rfl⟩, ⟨rfl, rfl⟩, rfl⟩
    exact ⟨ca, ha, by simp⟩
  · rintro ⟨ca, ha, rfl⟩
    exact ⟨_, _, _, ⟨_, _, ca, ⟨rfl, rfl⟩, ha, rfl⟩, ⟨rfl, rfl⟩, by simp⟩

lemma writes_call₂ (f : String) :
    Writes w (call f [a, b]) s cs s' ↔
      ∃ ca s₁ cb, Writes w a s ca s₁ ∧ Writes w b s₁ cb s' ∧
        cs = f.toList ++ '(' :: ((ca ++ ',' :: ' ' :: cb) ++ [')']) := by
  simp only [call, joined, writes_append, writes_raw]
  constructor
  · rintro ⟨_, _, _, ⟨_, _, _, ⟨rfl, rfl⟩,
      ⟨_, s₁, cb, ⟨ca, _, _, ha, ⟨rfl, rfl⟩, rfl⟩, hb, rfl⟩, rfl⟩, ⟨rfl, rfl⟩, rfl⟩
    exact ⟨ca, s₁, cb, ha, hb, by simp⟩
  · rintro ⟨ca, s₁, cb, ha, hb, rfl⟩
    exact ⟨_, s', _, ⟨_, s, _, ⟨rfl, rfl⟩,
      ⟨_, s₁, cb, ⟨ca, s₁, _, ha, ⟨rfl, rfl⟩, rfl⟩, hb, rfl⟩, rfl⟩, ⟨rfl, rfl⟩, by simp⟩

lemma writes_concat :
    Writes w (concat a b) s cs s' ↔
      ∃ ca s₁ cb, Writes w a s ca s₁ ∧ Writes w b s₁ cb s' ∧ cs = ca ++ '|' :: '|' :: cb := by
  simp only [concat, writes_append, writes_raw]
  constructor
  · rintro ⟨_, s₁, cb, ⟨ca, _, _, ha, ⟨rfl, rfl⟩, rfl⟩, hb, rfl⟩
    exact ⟨ca, s₁, cb, ha, hb, by simp⟩
  · rintro ⟨ca, s₁, cb, ha, hb, rfl⟩
    exact ⟨_, s₁, cb, ⟨ca, s₁, _, ha, ⟨rfl, rfl⟩, rfl⟩, hb, by simp⟩

lemma writes_between {low high : Fragment} :
    Writes w (between a low high) s cs s' ↔
      ∃ ca s₁ cl s₂ ch, Writes w a s ca s₁ ∧ Writes w low s₁ cl s₂ ∧ Writes w high s₂ ch s' ∧
        cs = ca ++ ' ' ::
          ("between".toList ++ ' ' :: (cl ++ ' ' :: ("and".toList ++ ' ' :: ch))) := by
  simp only [between, writes_append, writes_raw]
  constructor
  · rintro ⟨_, s₂, ch, ⟨_, _, _, ⟨_, s₁, cl, ⟨ca, _, _, ha, ⟨rfl, rfl⟩, rfl⟩, hl, rfl⟩,
      ⟨rfl, rfl⟩, rfl⟩, hh, rfl⟩
    exact ⟨ca, s₁, cl, s₂, ch, ha, hl, hh, by simp⟩
  · rintro ⟨ca, s₁, cl, s₂, ch, ha, hl, hh, rfl⟩
    exact ⟨_, s₂, ch, ⟨_, s₂, _, ⟨_, s₁, cl, ⟨ca, s₁, _, ha, ⟨rfl, rfl⟩, rfl⟩, hl, rfl⟩,
      ⟨rfl, rfl⟩, rfl⟩, hh, by simp⟩

/-! ### When a text is written -/

/-- A fragment whose values are all known is written by every writer. -/
lemma exists_writes (w : Writer σ) (s : σ) (h : a.deferredCount = 0) :
    ∃ cs s', Writes w a s cs s' := by
  induction a generalizing s with
  | nil => exact ⟨[], s, by simp⟩
  | cons piece a ih =>
    cases piece with
    | text t =>
      obtain ⟨cs, s', ha⟩ := ih s h
      exact ⟨t.toList ++ cs, s', (writes_text t).mpr ⟨cs, ha, rfl⟩⟩
    | value hint v =>
      obtain ⟨cs, s', ha⟩ := ih (w s hint v).2 h
      exact ⟨_, s', (writes_value hint v).mpr ⟨cs, ha, rfl⟩⟩
    | deferred => simp [deferredCount] at h

/-- A fragment with an unknown value is written by none. -/
lemma write_error (w : Writer σ) (s : σ) (h : a.deferredCount ≠ 0) :
    (a.write w s).1 = .error .deferredOperand := by
  induction a generalizing s with
  | nil => simp [deferredCount] at h
  | cons piece a ih =>
    cases piece with
    | text t => simp [write, ih s h, Except.map]
    | value hint v => simp [write, ih (w s hint v).2 h, Except.map]
    | deferred => rfl

end Fragment

end DocQuery
