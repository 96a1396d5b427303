import DocQuery.Proofs.Argument
import DocQuery.Proofs.Criteria.Exports
import DocQuery.Proofs.Criteria.Resolve
/-!
# Arguments in their order

Resolving a criteria takes one argument for every operand that waits, in the order of its text, and
puts its value there (`exists_filled_of_takes`). It succeeds if the arguments do for that
(`exists_takes_of_filled`).
-/

namespace DocQuery

open Taking

/-- How the argument that the operand waits for is converted. -/
def Operand.conversion? : Operand → Option Argument.Conversion
  | .value _ => none
  | .deferred conversion => some conversion

/-- The operands with the arguments in the places of those that wait; every argument is used. -/
inductive Filled : List Operand → List Argument → List Operand → Prop where
  | nil : Filled [] [] []
  | value (v : Value) {os args os'} (h : Filled os args os') :
      Filled (.value v :: os) args (.value v :: os')
  | deferred {conversion : Argument.Conversion} {a v os args os'}
      (hv : conversion.apply a = .ok v) (h : Filled os args os') :
      Filled (.deferred conversion :: os) (a :: args) (.value v :: os')

namespace Filled

variable {os os' ps ps' : List Operand} {args args' : List Argument}

lemma append (h : Filled os args os') (h' : Filled ps args' ps') :
    Filled (os ++ ps) (args ++ args') (os' ++ ps') := by
  induction h with
  | nil => exact h'
  | value v _ ih => exact .value v ih
  | deferred hv _ ih => exact .deferred hv ih

lemma exists_of_append (h : Filled (os ++ ps) args os') :
    ∃ args₁ args₂ os₁ os₂, args = args₁ ++ args₂ ∧ os' = os₁ ++ os₂ ∧ Filled os args₁ os₁ ∧
      Filled ps args₂ os₂ := by
  induction os generalizing args os' with
  | nil => exact ⟨[], args, [], os', rfl, rfl, .nil, h⟩
  | cons o os ih =>
    cases h with
    | value v h =>
      obtain ⟨args₁, args₂, os₁, os₂, rfl, rfl, h₁, h₂⟩ := ih h
      exact ⟨args₁, args₂, _, os₂, rfl, rfl, .value v h₁, h₂⟩
    | deferred hv h =>
      obtain ⟨args₁, args₂, os₁, os₂, rfl, rfl, h₁, h₂⟩ := ih h
      exact ⟨_, args₂, _, os₂, rfl, rfl, .deferred hv h₁, h₂⟩

/-- As many arguments are used as there are operands that wait. -/
lemma length_eq (h : Filled os args os') : args.length = os.countP Operand.isDeferred := by
  induction h with
  | nil => rfl
  | value v _ ih => rw [ih, List.countP_cons_of_neg (by simp [Operand.isDeferred])]
  | deferred _ _ ih => rw [List.length_cons, ih, List.countP_cons_of_pos (by rfl)]

lemma length_operands (h : Filled os args os') : os'.length = os.length := by
  induction h with
  | nil => rfl
  | value _ _ ih => rw [List.length_cons, ih, List.length_cons]
  | deferred _ _ ih => rw [List.length_cons, ih, List.length_cons]

/-- No operand waits any more. -/
lemma known (h : Filled os args os') : os'.countP Operand.isDeferred = 0 := by
  induction h with
  | nil => rfl
  | value v _ ih => rw [List.countP_cons_of_neg (by simp [Operand.isDeferred]), ih]
  | deferred _ _ ih => rw [List.countP_cons_of_neg (by simp [Operand.isDeferred]), ih]

/-- Operands can be filled exactly with one argument for each that waits, which can be converted. -/
lemma exists_iff :
    (∃ os', Filled os args os') ↔
      List.Forall₂ Argument.Conversion.Accepts (os.filterMap Operand.conversion?) args := by
  induction os generalizing args with
  | nil =>
    constructor
    · rintro ⟨_, h⟩
      cases h
      exact .nil
    · intro h
      cases h
      exact ⟨[], .nil⟩
  | cons o os ih =>
    cases o with
    | value v =>
      rw [List.filterMap_cons_none rfl, ← ih]
      constructor
      · rintro ⟨_, h⟩
        cases h with
        | value _ h => exact ⟨_, h⟩
      · rintro ⟨os', h⟩
        exact ⟨_, .value v h⟩
    | deferred conversion =>
      have hwaits : (Operand.deferred conversion).conversion? = some conversion := rfl
      rw [List.filterMap_cons_some hwaits]
      constructor
      · rintro ⟨_, h⟩
        cases h with
        | deferred hv h =>
          exact .cons (Argument.Conversion.exists_apply_iff.mp ⟨_, hv⟩) (ih.mp ⟨_, h⟩)
      · intro h
        cases h with
        | cons haccepts h =>
          obtain ⟨v, hv⟩ := Argument.Conversion.exists_apply_iff.mpr haccepts
          obtain ⟨os', h⟩ := ih.mpr h
          exact ⟨.value v :: os', .deferred hv h⟩

end Filled

/-! ### Steps -/

namespace Taking

variable {α β : Type}

lemma takes_bind {x : Taking α} {f : α → Taking β} {args mid rest : List Argument} {a : α} {b : β}
    (hx : Takes x args a mid) (hf : Takes (f a) mid b rest) : Takes (x >>= f) args b rest := by
  rw [Takes, run_bind, show x.run.run args = (.ok a, mid) from hx]
  exact hf

lemma takes_argument {conversion : Argument.Conversion} {args rest : List Argument} {v : Value} :
    Takes (argument conversion) args v rest ↔
      ∃ a, args = a :: rest ∧ conversion.apply a = .ok v := by
  cases args with
  | nil =>
    constructor
    · intro h
      exact absurd (Prod.mk.inj h).1 (by simp)
    · rintro ⟨a, h, -⟩
      exact absurd h (by simp)
  | cons a args =>
    constructor
    · intro h
      obtain ⟨hv, rfl⟩ := Prod.mk.inj h
      exact ⟨a, rfl, hv⟩
    · rintro ⟨b, h, hv⟩
      obtain ⟨rfl, rfl⟩ := List.cons.inj h
      exact Prod.ext hv rfl

end Taking

/-! ### Operands and tests -/

variable {args taken rest : List Argument}

lemma Operand.takes_deferred {conversion : Argument.Conversion} {a : Argument} {v : Value}
    (hv : conversion.apply a = .ok v) (rest : List Argument) :
    Takes (Operand.deferred conversion).resolve (a :: rest) (.value v) rest :=
  takes_bind (takes_argument.mpr ⟨a, rfl, hv⟩) (takes_pure.mpr ⟨rfl, rfl⟩)

lemma Operand.exists_filled_of_takes {operand operand' : Operand}
    (h : Takes operand.resolve args operand' rest) :
    ∃ taken, args = taken ++ rest ∧ Filled [operand] taken [operand'] := by
  cases operand with
  | value v =>
    obtain ⟨rfl, rfl⟩ := takes_pure.mp h
    exact ⟨[], rfl, .value v .nil⟩
  | deferred conversion =>
    obtain ⟨v, mid, hargument, h⟩ := exists_of_takes_bind h
    obtain ⟨rfl, rfl⟩ := takes_pure.mp h
    obtain ⟨a, rfl, hv⟩ := takes_argument.mp hargument
    exact ⟨[a], rfl, .deferred hv .nil⟩

lemma Operand.exists_takes_of_filled {operand : Operand} {os' : List Operand}
    (h : Filled [operand] taken os') (rest : List Argument) :
    ∃ operand', Takes operand.resolve (taken ++ rest) operand' rest := by
  cases h with
  | value v h =>
    cases h
    exact ⟨_, takes_pure.mpr ⟨rfl, rfl⟩⟩
  | deferred hv h =>
    cases h
    exact ⟨_, takes_deferred hv rest⟩

lemma Test.exists_filled_of_takes {test test' : Test} (h : Takes test.resolve args test' rest) :
    ∃ taken, args = taken ++ rest ∧ Filled test.operands taken test'.operands := by
  cases test with
  | check k =>
    obtain ⟨rfl, rfl⟩ := takes_pure.mp h
    exact ⟨[], rfl, .nil⟩
  | relation r operand =>
    obtain ⟨operand', mid, hoperand, h⟩ := exists_of_takes_bind h
    obtain ⟨rfl, rfl⟩ := takes_pure.mp h
    exact Operand.exists_filled_of_takes hoperand
  | between low high =>
    obtain ⟨low', mid, hlow, h⟩ := exists_of_takes_bind h
    obtain ⟨high', mid', hhigh, h⟩ := exists_of_takes_bind h
    obtain ⟨rfl, rfl⟩ := takes_pure.mp h
    obtain ⟨first, rfl, hfirst⟩ := Operand.exists_filled_of_takes hlow
    obtain ⟨second, rfl, hsecond⟩ := Operand.exists_filled_of_takes hhigh
    exact ⟨first ++ second, (List.append_assoc first second _).symm, hfirst.append hsecond⟩

lemma Test.exists_takes_of_filled {test : Test} {os' : List Operand}
    (h : Filled test.operands taken os') (rest : List Argument) :
    ∃ test', Takes test.resolve (taken ++ rest) test' rest := by
  cases test with
  | check k =>
    cases h
    exact ⟨_, takes_pure.mpr ⟨rfl, rfl⟩⟩
  | relation r operand =>
    obtain ⟨operand', hoperand⟩ := Operand.exists_takes_of_filled h rest
    exact ⟨_, takes_bind hoperand (takes_pure.mpr ⟨rfl, rfl⟩)⟩
  | between low high =>
    have hboth : Filled ([low] ++ [high]) taken os' := h
    obtain ⟨first, second, _, _, rfl, -, hfirst, hsecond⟩ := hboth.exists_of_append
    obtain ⟨low', hlow⟩ := Operand.exists_takes_of_filled hfirst (second ++ rest)
    obtain ⟨high', hhigh⟩ := Operand.exists_takes_of_filled hsecond rest
    rw [List.append_assoc]
    exact ⟨_, takes_bind hlow (takes_bind hhigh (takes_pure.mpr ⟨rfl, rfl⟩))⟩

/-! ### Criteria -/

namespace Criteria

variable {c c' : Criteria}

/-- The operands of all comparisons, in the order of the text. -/
def allOperands (c : Criteria) : List Operand := c.comparisons.flatMap (·.test.operands)

lemma allOperands_comparison (k : Comparison) (negated grouped : Bool) :
    (comparison k negated grouped).allOperands = k.test.operands :=
  List.flatMap_singleton _ _

lemma allOperands_junction (j : Junction) (left right : Criteria) (negated grouped : Bool) :
    (junction j left right negated grouped).allOperands =
      left.allOperands ++ right.allOperands :=
  List.flatMap_append

lemma deferredCount_eq_countP_allOperands (c : Criteria) :
    c.deferredCount = c.allOperands.countP Operand.isDeferred := by
  induction c with
  | comparison k negated grouped => rw [deferredCount_comparison, allOperands_comparison]
  | junction j left right negated grouped ihl ihr =>
    rw [deferredCount, ihl, ihr, allOperands_junction, List.countP_append]
  | not child grouped ih => exact ih

/-- The values of a criteria are those of its operands. -/
lemma map_slots (c : Criteria) : c.slots.map (·.2) = c.allOperands.filterMap Operand.value? := by
  have hslots : ∀ k : Comparison, k.slots.map (·.2) = k.test.operands.filterMap Operand.value? := by
    intro k
    rw [Comparison.slots, List.map_filterMap]
    simp [Function.comp_def]
  rw [slots, allOperands, List.map_flatMap, List.filterMap_flatMap]
  exact congrArg (List.flatMap · _) (funext hslots)

/-- A criteria takes arguments for its operands in the order of its text, and nothing else. -/
theorem exists_filled_of_takes (h : Takes c.resolve args c' rest) :
    ∃ taken, args = taken ++ rest ∧ Filled c.allOperands taken c'.allOperands := by
  induction c generalizing c' args rest with
  | comparison k negated grouped =>
    obtain ⟨test', mid, htest, h⟩ := exists_of_takes_bind h
    obtain ⟨rfl, rfl⟩ := takes_pure.mp h
    simpa only [allOperands_comparison] using Test.exists_filled_of_takes htest
  | junction j left right negated grouped ihl ihr =>
    obtain ⟨left', right', mid, rfl, hl, hr⟩ := takes_junction h
    obtain ⟨first, rfl, hfirst⟩ := ihl hl
    obtain ⟨second, rfl, hsecond⟩ := ihr hr
    refine ⟨first ++ second, (List.append_assoc first second rest).symm, ?_⟩
    rw [allOperands_junction, allOperands_junction]
    exact hfirst.append hsecond
  | not child grouped ih =>
    obtain ⟨child', mid, hchild, h⟩ := exists_of_takes_bind h
    obtain ⟨rfl, rfl⟩ := takes_pure.mp h
    obtain ⟨taken, rfl, htaken⟩ := ih hchild
    exact ⟨taken, rfl, htaken⟩

/-- A criteria can be resolved with arguments that fill its operands. -/
theorem exists_takes_of_filled {os' : List Operand} (h : Filled c.allOperands taken os')
    (rest : List Argument) : ∃ c', Takes c.resolve (taken ++ rest) c' rest := by
  induction c generalizing taken os' rest with
  | comparison k negated grouped =>
    rw [allOperands_comparison] at h
    obtain ⟨test', htest⟩ := Test.exists_takes_of_filled h rest
    exact ⟨_, takes_bind htest (takes_pure.mpr ⟨rfl, rfl⟩)⟩
  | junction j left right negated grouped ihl ihr =>
    rw [allOperands_junction] at h
    obtain ⟨first, second, _, _, rfl, -, hfirst, hsecond⟩ := h.exists_of_append
    obtain ⟨left', hl⟩ := ihl hfirst (second ++ rest)
    obtain ⟨right', hr⟩ := ihr hsecond rest
    rw [List.append_assoc]
    exact ⟨_, takes_bind hl (takes_bind hr (takes_pure.mpr ⟨rfl, rfl⟩))⟩
  | not child grouped ih =>
    obtain ⟨child', hchild⟩ := ih h rest
    exact ⟨_, takes_bind hchild (takes_pure.mpr ⟨rfl, rfl⟩)⟩

end Criteria

end DocQuery
