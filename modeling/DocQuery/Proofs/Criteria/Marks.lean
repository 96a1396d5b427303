import DocQuery.Proofs.Criteria.Reading
/-!
# The marks of a text

The text of a criteria as a row of marks: whole comparisons, connectives and parentheses. A reader
takes the marks one by one, opens a chain at every opening parenthesis and puts it into the chain
around it at the closing one (`ofMarks?_marks`). Whatever a field is called, a comparison is one
mark, so that nothing has to be known of its text.
-/

namespace DocQuery

/-! ### Rows of marks -/

inductive Mark where
  | comparison (k : Comparison)
  | junction (j : Junction)
  /-- An opening parenthesis, behind `not` if what follows is negated. -/
  | opening (negated : Bool)
  | closing

namespace Mark

def fragment : Mark → Fragment
  | .comparison k => k.fragment
  | .junction j => .raw (" " ++ junctionWord j ++ " ")
  | .opening negated => .raw (if negated then "not(" else "(")
  | .closing => .raw ")"

/-- The marks between parentheses. -/
def enclose (negated : Bool) (ms : List Mark) : List Mark := .opening negated :: (ms ++ [.closing])

lemma fragment_enclose (negated : Bool) (ms : List Mark) :
    (enclose negated ms).flatMap fragment =
      if negated then Fragment.not (ms.flatMap fragment)
      else Fragment.paren (ms.flatMap fragment) := by
  cases negated <;> simp [enclose, fragment, Fragment.not, Fragment.paren, Fragment.call,
    Fragment.joined, Fragment.raw]

end Mark

/-- The text of a row of marks, or why there is none. -/
def Rendering.write (ms : List Mark) (how : Rendering) : Except Fault String :=
  let a : Fragment := ms.flatMap Mark.fragment
  match how with
  | .literals => a.inline
  | .placeholders p => (a.bound p).1

namespace Criteria

/-- The marks under a mark of negation. -/
def negatedMarks (negated : Bool) (ms : List Mark) : List Mark :=
  if negated then Mark.enclose true ms else ms

/-- The marks of a criteria where it is an operand of a chain. -/
def operandMarks (c : Criteria) (ms : List Mark) : List Mark :=
  if c.isGrouped && !c.isNegated then Mark.enclose false ms else ms

/-- The marks of the text of a criteria. -/
def marks : Criteria → List Mark
  | .comparison k negated _ => negatedMarks negated [.comparison k]
  | .junction j left right negated _ =>
    negatedMarks negated
      (left.operandMarks left.marks ++ .junction j :: right.operandMarks right.marks)
  | .not child _ => Mark.enclose true child.marks

lemma fragment_negatedMarks (negated : Bool) (ms : List Mark) :
    (negatedMarks negated ms).flatMap Mark.fragment =
      markNegated negated (ms.flatMap Mark.fragment) := by
  cases negated with
  | false => rfl
  | true => exact Mark.fragment_enclose true ms

lemma fragment_operandMarks (c : Criteria) (ms : List Mark) :
    (c.operandMarks ms).flatMap Mark.fragment = c.asOperand (ms.flatMap Mark.fragment) := by
  rw [operandMarks, asOperand]
  split
  · exact Mark.fragment_enclose false ms
  · rfl

/-- The fragment of a criteria is that of its marks. -/
theorem fragment_marks (c : Criteria) : c.marks.flatMap Mark.fragment = c.fragment := by
  induction c with
  | comparison k negated grouped =>
    rw [marks, fragment_negatedMarks, fragment]
    simp [Mark.fragment]
  | junction j left right negated grouped ihl ihr =>
    rw [marks, fragment_negatedMarks, fragment, List.flatMap_append, List.flatMap_cons,
      fragment_operandMarks, fragment_operandMarks, ihl, ihr]
    cases j <;> simp [Mark.fragment, Junction.fragment, Fragment.and, Fragment.or, Fragment.binary,
      junctionWord]
  | not child grouped ih =>
    rw [marks, Mark.fragment_enclose, ih]
    rfl

/-- However its values are written, the text of a criteria is that of its marks. -/
theorem text_marks (how : Rendering) (c : Criteria) : how.text c = how.write c.marks := by
  cases how with
  | literals => rw [Rendering.text, Rendering.write, fragment_marks, inline]
  | placeholders p => rw [Rendering.text, Rendering.write, fragment_marks, bound]

end Criteria

/-! ### Reading marks -/

/-- The chain in front of an operand and the connective between them, or nothing at the start. -/
abbrev Before := Option (Chain (Formula Comparison) × Junction)

namespace Before

/-- The operands of a chain behind what stands in front of them. -/
def followedBy (before : Before) (chain : Chain (Formula Comparison)) :
    Chain (Formula Comparison) :=
  match before with
  | none => chain
  | some (c, j) => c.join j chain

end Before

/-- How far a text has been read. Around the current chain stand the chains that wait for a closing
parenthesis, the innermost first, and whether what is in the parentheses is negated. -/
inductive Progress where
  | due (before : Before) (around : List (Bool × Before))
  | complete (chain : Chain (Formula Comparison)) (around : List (Bool × Before))

/-- The formula between parentheses. -/
def Formula.enclosed (negated : Bool) (f : Formula Comparison) : Formula Comparison :=
  if negated then f.negate else f

namespace Progress

/-- Reads one mark, if it can stand here. -/
def step : Progress → Mark → Option Progress
  | .due before around, .comparison k =>
    some (.complete (before.followedBy (.single (.atom k))) around)
  | .due before around, .opening negated => some (.due none ((negated, before) :: around))
  | .complete chain around, .junction j => some (.due (some (chain, j)) around)
  | .complete chain ((negated, before) :: around), .closing =>
    some (.complete (before.followedBy (.single (chain.formula.enclosed negated))) around)
  | _, _ => none

/-- The formula of a text that has been read to its end. -/
def formula? : Progress → Option (Formula Comparison)
  | .complete chain [] => some chain.formula
  | _ => none

end Progress

/-- The formula that a row of marks is read as: `and` binds tighter than `or`, and a comparison is
an atom. -/
def Formula.ofMarks? (ms : List Mark) : Option (Formula Comparison) :=
  ms.foldlM Progress.step (.due none []) >>= Progress.formula?

/-- Wherever an operand is due, the marks are read as the operands of the chain. -/
def Mark.ReadAs (ms : List Mark) (chain : Chain (Formula Comparison)) : Prop :=
  ∀ (before : Before) (around : List (Bool × Before)),
    ms.foldlM Progress.step (.due before around) =
      some (.complete (before.followedBy chain) around)

namespace Mark

variable {ms ms' : List Mark} {c d : Chain (Formula Comparison)}

lemma ReadAs.comparison (k : Comparison) : ReadAs [.comparison k] (.single (.atom k)) := by
  intro before around
  rfl

/-- Behind a connective the operands go on with the chain in front of it. -/
lemma ReadAs.join (h : ReadAs ms c) (j : Junction) (h' : ReadAs ms' d) :
    ReadAs (ms ++ .junction j :: ms') (c.join j d) := by
  intro before around
  rw [List.foldlM_append, h]
  have hright := h' (some (before.followedBy c, j)) around
  have hchain : (before.followedBy c).join j d = before.followedBy (c.join j d) := by
    cases before with
    | none => rfl
    | some b => simp [Before.followedBy, Chain.join]
  rw [← hchain]
  exact hright

/-- A chain in parentheses is one operand. -/
lemma ReadAs.enclose (h : ReadAs ms c) (negated : Bool) :
    ReadAs (Mark.enclose negated ms) (.single (c.formula.enclosed negated)) := by
  intro before around
  have hinner := h none ((negated, before) :: around)
  simp only [Mark.enclose, List.foldlM_cons, List.foldlM_append, Progress.step,
    Option.bind_eq_bind, Option.bind_some, hinner]
  rfl

/-- The marks of one operand: a comparison, or a chain in parentheses with or without `not`. -/
inductive IsUnit : List Mark → Prop
  | comparison (k : Comparison) : IsUnit [.comparison k]
  | enclose (negated : Bool) {ms : List Mark} {chain : Chain (Formula Comparison)}
      (h : ReadAs ms chain) : IsUnit (enclose negated ms)

lemma ReadAs.ofMarks? (h : ReadAs ms c) : Formula.ofMarks? ms = some c.formula := by
  rw [Formula.ofMarks?, h none []]
  rfl

lemma ReadAs.unique (hc : ReadAs ms c) (hd : ReadAs ms d) : c = d := by
  have heq := (hc none []).symm.trans (hd none [])
  simpa [Before.followedBy] using heq

/-- A unit is read as a chain of one operand. -/
lemma IsUnit.chain_eq (hunit : IsUnit ms) (h : ReadAs ms c) : c = .single c.formula := by
  cases hunit with
  | comparison k =>
    obtain rfl := h.unique (.comparison k)
    rfl
  | enclose negated hinner =>
    obtain rfl := h.unique (hinner.enclose negated)
    rfl

end Mark

namespace Criteria

lemma readAs_negatedMarks {ms : List Mark} {chain : Chain (Formula Comparison)}
    (h : Mark.ReadAs ms chain) (negated : Bool) :
    Mark.ReadAs (negatedMarks negated ms) (markChain negated chain) := by
  cases negated with
  | false => exact h
  | true => exact h.enclose true

lemma readAs_operandMarks (c : Criteria) {ms : List Mark} {chain : Chain (Formula Comparison)}
    (h : Mark.ReadAs ms chain) : Mark.ReadAs (c.operandMarks ms) (c.operandChain chain) := by
  rw [operandMarks, operandChain]
  split
  · exact h.enclose false
  · exact h

/-- The marks of a criteria are read as its chain. -/
theorem readAs_marks (c : Criteria) : Mark.ReadAs c.marks c.chain := by
  induction c with
  | comparison k negated grouped => exact readAs_negatedMarks (.comparison k) negated
  | junction j left right negated grouped ihl ihr =>
    apply readAs_negatedMarks
    exact (readAs_operandMarks left ihl).join j (readAs_operandMarks right ihr)
  | not child grouped ih => exact ih.enclose true

/-- The marks of a criteria are read as its formula. -/
theorem ofMarks?_marks (c : Criteria) : Formula.ofMarks? c.marks = some c.formula :=
  (readAs_marks c).ofMarks?

end Criteria

end DocQuery
