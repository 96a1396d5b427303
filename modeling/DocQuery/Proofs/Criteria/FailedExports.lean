import DocQuery.Proofs.Criteria.Exports
import DocQuery.Proofs.Placeholders.Calls
/-!
# Exports that fail

An export goes from operand to operand and stops at the first one that waits for its argument.
Until then it has issued a placeholder for every operand and bound the operand to it, and these
pairs stay (`Criteria.snd_bound`): the placeholders are in order for a later export, but they are no longer
those from before (`failed_export_leaves_pairs`).
-/

namespace DocQuery

/-! ### What is issued -/

namespace Placeholders

variable {p : Placeholders} {slots : List (String × Value)}

lemma issue_eq (p : Placeholders) (slots : List (String × Value)) :
    p.issue slots =
      ⟨p.style, p.names ++ p.issuedNames slots, p.values ++ slots.map (·.2)⟩ := by
  rw [← names_issue, ← values_issue, ← style_issue p slots]

lemma issue_eq_self_iff : p.issue slots = p ↔ slots = [] := by
  constructor
  · intro h
    have hvalues : p.values ++ slots.map (·.2) = p.values := by rw [← values_issue, h]
    simpa using hvalues
  · rintro rfl
    rfl

/-- What is issued has a value for every placeholder, so that none can make up for a value that is
missing. -/
lemma finish_issue_of_ne (h : p.names.length ≠ p.values.length) (slots : List (String × Value)) :
    (p.issue slots).finish =
      .error (.bindingCount (p.names.length + slots.length) (p.values.length + slots.length)) := by
  have hnames : (p.issue slots).names.length = p.names.length + slots.length := by
    rw [names_issue, List.length_append, length_issuedNames]
  have hvalues : (p.issue slots).values.length = p.values.length + slots.length := by
    rw [values_issue, List.length_append, List.length_map]
  rw [finish, hnames, hvalues, if_pos (by omega)]

/-- What is issued keeps the names in the order of their hints. -/
lemma Follows.issue {hints : List String} (h : Follows p.style hints p.names)
    (slots : List (String × Value)) :
    Follows p.style (hints ++ slots.map (·.1)) (p.names ++ p.issuedNames slots) := by
  induction slots generalizing p hints with
  | nil => simpa [issuedNames] using h
  | cons slot slots ih =>
    have hrest := ih (p := (p.push slot.1 slot.2).2) (h.snoc (p.isNext_nextName slot.1))
    simpa [issuedNames, push, next, bind] using hrest

/-- Placeholders with a value for each can be finished behind what is issued. -/
lemma Follows.finish_issue {hints : List String} (h : Follows p.style hints p.names)
    (hpaired : p.names.length = p.values.length) (slots : List (String × Value)) :
    ∃ bindings, (p.issue slots).finish = .ok bindings ∧ bindings.style = p.style ∧
      bindings.Binds ((p.names ++ p.issuedNames slots).map ("$" ++ ·))
        (p.values ++ slots.map (·.2)) := by
  rw [issue_eq]
  exact (h.issue slots).finish (by simp [length_issuedNames, hpaired])

/-- Whatever is called on new placeholders, the names are in the order of their hints. -/
lemma exists_follows_run (style : PlaceholderStyle) (calls : List Call) :
    ∃ hints, Follows style hints ((empty style).run calls).2.names := by
  obtain ⟨names, hrun, hnames⟩ := run_spec calls (p := empty style) .nil
  exact ⟨_, by rw [hrun]; exact hnames⟩

end Placeholders

/-! ### What is left -/

namespace Criteria

lemma bound_of_known {c : Criteria} (h : c.deferredCount = 0) (p : Placeholders) :
    c.bound p = (.ok (c.fragment.fill ((p.issuedNames c.slots).map ("$" ++ ·))), p.issue c.slots) := by
  rw [bound, Fragment.bound_eq_fill (by rw [deferredCount_fragment, h]), slots_fragment]

open Placeholders in
/-- An export that fails keeps what was issued and bound before, and leaves a placeholder with its
value for every operand in front of the first one that waits for its argument. So nothing changes
just if there is no such operand. If there was a value for every placeholder before, a later export
can be finished, and binds its own placeholders to its operands, beside all that were there; those
are none just if the placeholders were new and the failure left none. -/
theorem failed_export_leaves_pairs {c : Criteria} {p q : Placeholders} {fault : Fault}
    (h : c.bound p = (.error fault, q)) :
    q = ⟨p.style, p.names ++ p.issuedNames c.slotsInFront,
      p.values ++ c.slotsInFront.map (·.2)⟩ ∧
    (p.issuedNames c.slotsInFront).length = c.slotsInFront.length ∧
    (q = p ↔ c.slotsInFront = []) ∧
    (∀ d : Criteria, d.deferredCount = 0 → p.names.length ≠ p.values.length →
      (d.bound q).2.finish = .error
        (.bindingCount (q.names.length + d.slots.length) (q.values.length + d.slots.length))) ∧
    ∀ (calls : List Call) (d : Criteria), p = ((empty p.style).run calls).2 →
      p.names.length = p.values.length → d.deferredCount = 0 →
      ∃ (head : String) (tails names : List String) (r : Placeholders) (bindings : Bindings),
        tails.length = d.slots.length ∧ names.length = d.slots.length ∧
        d.bound q = (.ok (interleave head ((names.map ("$" ++ ·)).zip tails)), r) ∧
        r.finish = .ok bindings ∧ bindings.style = p.style ∧
        bindings.Binds ((q.names ++ names).map ("$" ++ ·)) (q.values ++ d.slots.map (·.2)) ∧
        (bindings.Binds (names.map ("$" ++ ·)) (d.slots.map (·.2)) ↔
          p.names = [] ∧ c.slotsInFront = []) := by
  obtain rfl : q = p.issue c.slotsInFront := by rw [← snd_bound, h]
  refine ⟨issue_eq p _, p.length_issuedNames _, issue_eq_self_iff, fun d hknown hne => ?_, ?_⟩
  · have hleft : (p.issue c.slotsInFront).names.length ≠ (p.issue c.slotsInFront).values.length := by
      simpa [names_issue, values_issue, length_issuedNames] using hne
    rw [bound_of_known hknown]
    exact finish_issue_of_ne hleft d.slots
  intro calls d hp hpaired hknown
  obtain ⟨hints, hnames⟩ := exists_follows_run p.style calls
  rw [← hp] at hnames
  have hleft : Follows (p.issue c.slotsInFront).style (hints ++ c.slotsInFront.map (·.1))
      (p.issue c.slotsInFront).names := by
    rw [style_issue, names_issue]
    exact hnames.issue c.slotsInFront
  have hleftPaired :
      (p.issue c.slotsInFront).names.length = (p.issue c.slotsInFront).values.length := by
    simpa [names_issue, values_issue, length_issuedNames] using hpaired
  obtain ⟨bindings, hfinish, hstyle, hbinds⟩ := hleft.finish_issue hleftPaired d.slots
  rw [style_issue] at hstyle
  refine ⟨_, _, _, _, bindings, ?_, length_issuedNames _ d.slots, bound_of_known hknown _,
    hfinish, hstyle, hbinds, ?_⟩
  · rw [Fragment.length_tailTexts, slots_fragment]
  constructor
  · -- there are no more placeholders than the later export has operands
    intro hown
    have hsize := hbinds.standsFor.2.symm.trans hown.standsFor.2
    simp only [List.length_map, List.length_append, names_issue, length_issuedNames] at hsize
    exact ⟨List.eq_nil_of_length_eq_zero (by omega), List.eq_nil_of_length_eq_zero (by omega)⟩
  · rintro ⟨hnone, hfront⟩
    have hvalues : p.values = [] := by simpa [hnone] using hpaired.symm
    simpa [hfront, Placeholders.issue, hnone, hvalues] using hbinds

/-- A range whose upper end is still to come. -/
def fromEighteen : Criteria :=
  (Criterion.on (.ofKey "age")).test (.between (.value (.int 18)) (.deferred .scalar))

/-- The lower end of the range keeps its value and a name behind the one that was taken, and the
next export is bound beside both. -/
theorem failed_export_of_range :
    let p := ((Placeholders.empty .named).run [.push "age" (.int 1)]).2
    let q : Placeholders := ⟨.named, ["age", "age_2"], [.int 1, .int 18]⟩
    let d := (Criterion.on (.ofKey "age")).relate .lt (.int 65)
    fromEighteen.bound p = (.error .deferredOperand, q) ∧ q ≠ p ∧
      (d.bound q).1 = .ok "`age` < $age_3" ∧
      ∃ (names : List String) (bindings : Bindings), (d.bound q).2.finish = .ok bindings ∧
        bindings.Binds ((["age", "age_2"] ++ names).map ("$" ++ ·)) [.int 1, .int 18, .int 65] ∧
        ¬ bindings.Binds (names.map ("$" ++ ·)) [.int 65] := by
  intro p q d
  have hfails : fromEighteen.bound p = (.error .deferredOperand, q) := by rfl
  obtain ⟨-, -, hsame, -, hlater⟩ := failed_export_leaves_pairs hfails
  obtain ⟨head, tails, names, r, bindings, -, -, hbound, hfinish, -, hbinds, hown⟩ :=
    hlater [.push "age" (.int 1)] d rfl rfl rfl
  have hleft : fromEighteen.slotsInFront = [("age", .int 18)] := by rfl
  refine ⟨hfails, fun h => absurd (hleft.symm.trans (hsame.mp h)) (by simp), by decide, names,
    bindings, by rw [hbound]; exact hfinish, hbinds, fun h => ?_⟩
  exact absurd (hown.mp h).1 (by decide)

/-- The value of the first comparison stays bound when the export fails at the second one, and goes
with the text of the next export, which has no placeholder for it. -/
theorem failed_export_leaves_value :
    let c := ((Criterion.on (.ofKey "a")).relate .eq (.int 1)).and
      ((Criterion.on (.ofKey "b")).test (.relation .eq (.deferred .scalar)))
    let d := (Criterion.on (.ofKey "c")).relate .eq (.int 2)
    let q := (c.bound (.empty .positional)).2
    c.bound (.empty .positional) = (.error .deferredOperand, q) ∧ q ≠ .empty .positional ∧
      (d.bound q).1 = .ok "`c` = $2" ∧
      (d.bound q).2.finish = .ok (.positional [.int 1, .int 2]) := by
  intro c d q
  refine ⟨by rfl, fun h => ?_, by decide, by rfl⟩
  exact absurd (congrArg (·.names.length) h) (by decide)

end Criteria

end DocQuery
