import DocQuery.Proofs.Argument.Normal
import DocQuery.Proofs.Criteria.Resolve
/-!
# Arguments taken in normal form

A criteria takes the normal forms of arguments as it takes the arguments themselves
(`Criteria.takesAlike_resolve`).
-/

namespace DocQuery

namespace Taking

variable {α β : Type}

/-- The step does not tell arguments from their normal forms: it has the same outcome, and leaves the
normal forms of what it leaves. -/
def TakesAlike (x : Taking α) : Prop :=
  ∀ args, SameOutcome (x.run.run (Argument.normals args)).1 (x.run.run args).1 ∧
    (x.run.run (Argument.normals args)).2 = Argument.normals (x.run.run args).2

lemma takesAlike_pure (a : α) : TakesAlike (pure a : Taking α) := fun _ => ⟨.refl _, rfl⟩

lemma TakesAlike.bind {x : Taking α} {f : α → Taking β} (hx : TakesAlike x)
    (hf : ∀ a, TakesAlike (f a)) : TakesAlike (x >>= f) := by
  intro args
  obtain ⟨houtcome, hrest⟩ := hx args
  rw [run_bind, run_bind]
  generalize x.run.run (Argument.normals args) = taken at houtcome hrest
  generalize x.run.run args = taken' at houtcome hrest
  obtain ⟨result, rest⟩ := taken
  obtain ⟨result', rest'⟩ := taken'
  obtain rfl : rest = Argument.normals rest' := hrest
  obtain ⟨a, rfl, rfl⟩ | ⟨e, e', rfl, rfl, hkind⟩ := houtcome.eq_or_faults
  · exact hf a rest'
  · exact ⟨.error hkind, rfl⟩

end Taking

open Taking

lemma Argument.Conversion.apply_normal (conversion : Conversion) (a : Argument) :
    SameOutcome (conversion.apply a.normal) (conversion.apply a) := by
  cases conversion with
  | scalar => exact .of_eq (congrArg Except.ok a.toValue_normal)
  | set => exact .of_eq a.toSet_normal
  | pattern => exact a.toPattern_normal

lemma Taking.takesAlike_argument (conversion : Argument.Conversion) :
    TakesAlike (argument conversion) := by
  intro arguments
  cases arguments with
  | nil => exact ⟨.refl _, rfl⟩
  | cons a as => exact ⟨conversion.apply_normal a, rfl⟩

/-! ### Criteria -/

lemma Operand.takesAlike_resolve (operand : Operand) : TakesAlike operand.resolve := by
  cases operand with
  | value v => exact takesAlike_pure _
  | deferred conversion => exact (takesAlike_argument conversion).bind fun v => takesAlike_pure _

lemma Test.takesAlike_resolve (test : Test) : TakesAlike test.resolve := by
  cases test with
  | check k => exact takesAlike_pure _
  | relation r operand => exact operand.takesAlike_resolve.bind fun o => takesAlike_pure _
  | between low high =>
    exact low.takesAlike_resolve.bind fun l => high.takesAlike_resolve.bind fun h => takesAlike_pure _

/-- A criteria takes arguments and their normal forms alike. -/
theorem Criteria.takesAlike_resolve (c : Criteria) : TakesAlike c.resolve := by
  induction c with
  | comparison k negated grouped =>
    exact k.test.takesAlike_resolve.bind fun test => takesAlike_pure _
  | junction j left right negated grouped ihl ihr =>
    exact ihl.bind fun l => ihr.bind fun r => takesAlike_pure _
  | not child grouped ih => exact ih.bind fun c => takesAlike_pure _

end DocQuery
