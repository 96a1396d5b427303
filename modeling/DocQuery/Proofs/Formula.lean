import DocQuery.Criteria.Operator
import Mathlib.Data.List.Forall2
/-!
# Formulas

A condition as a reader understands it: comparisons under `and`, `or` and `not`, with the
parentheses resolved. A chain is what stands between two parentheses, formulas that alternate with
connectives; `Chain.formula` resolves it, and `and` binds tighter than `or`.
-/

namespace DocQuery

/-- A Boolean combination of comparisons. -/
inductive Formula (α : Type) where
  | atom (a : α)
  | not (f : Formula α)
  | and (f g : Formula α)
  | or (f g : Formula α)
deriving DecidableEq

/-- Operands that alternate with connectives. -/
structure Chain (α : Type) where
  first : α
  rest : List (Junction × α)
deriving DecidableEq

variable {α β : Type}

namespace Formula

/-- The truth value of a formula. -/
def eval (truth : α → Bool) : Formula α → Bool
  | .atom a => truth a
  | .not f => !f.eval truth
  | .and f g => f.eval truth && g.eval truth
  | .or f g => f.eval truth || g.eval truth

/-- The comparisons of a formula, from left to right. -/
def leaves : Formula α → List α
  | .atom a => [a]
  | .not f => f.leaves
  | .and f g => f.leaves ++ g.leaves
  | .or f g => f.leaves ++ g.leaves

/-- Two formulas of one shape whose comparisons are related in pairs. -/
inductive Forall₂ (R : α → β → Prop) : Formula α → Formula β → Prop where
  | atom {a b} (h : R a b) : Forall₂ R (.atom a) (.atom b)
  | not {f g} (h : Forall₂ R f g) : Forall₂ R (.not f) (.not g)
  | and {f f' g g'} (hf : Forall₂ R f f') (hg : Forall₂ R g g') :
      Forall₂ R (.and f g) (.and f' g')
  | or {f f' g g'} (hf : Forall₂ R f f') (hg : Forall₂ R g g') :
      Forall₂ R (.or f g) (.or f' g')

end Formula

namespace Chain

/-- A chain of one operand. -/
def single (a : α) : Chain α := ⟨a, []⟩

/-- Two chains with a connective between them. -/
def join (c : Chain α) (j : Junction) (d : Chain α) : Chain α :=
  ⟨c.first, c.rest ++ (j, d.first) :: d.rest⟩

def map (f : α → β) (c : Chain α) : Chain β :=
  ⟨f c.first, c.rest.map fun (j, a) => (j, f a)⟩

/-- The formula of operands behind `f`: an `and` takes the next operand at once, an `or` waits for
what is left. -/
def formulaFrom (f : Formula α) : List (Junction × Formula α) → Formula α
  | [] => f
  | (.and, g) :: rest => formulaFrom (f.and g) rest
  | (.or, g) :: rest => f.or (formulaFrom g rest)

/-- The formula of a chain. -/
def formula (c : Chain (Formula α)) : Formula α := formulaFrom c.first c.rest

/-- Every connective of the chain is `j`. -/
def IsAll (j : Junction) (c : Chain α) : Prop := ∀ link ∈ c.rest, link.1 = j

/-- Two chains with the same connectives whose formulas are related in pairs. -/
def Forall₂ (R : α → β → Prop) (c : Chain (Formula α)) (d : Chain (Formula β)) : Prop :=
  Formula.Forall₂ R c.first d.first ∧
    List.Forall₂ (fun l m => l.1 = m.1 ∧ Formula.Forall₂ R l.2 m.2) c.rest d.rest

@[simp] lemma map_single (f : α → β) (a : α) : (single a).map f = single (f a) := rfl

@[simp] lemma map_join (f : α → β) (c : Chain α) (j : Junction) (d : Chain α) :
    (c.join j d).map f = (c.map f).join j (d.map f) := by
  simp [join, map]

@[simp] lemma formula_single (f : Formula α) : (single f).formula = f := rfl

/-! ### Related chains -/

lemma Forall₂.single {R : α → β → Prop} {f : Formula α} {g : Formula β}
    (h : Formula.Forall₂ R f g) : Forall₂ R (Chain.single f) (Chain.single g) :=
  ⟨h, .nil⟩

lemma Forall₂.join {R : α → β → Prop} {c d : Chain (Formula α)} {c' d' : Chain (Formula β)}
    (hc : Forall₂ R c c') (j : Junction) (hd : Forall₂ R d d') :
    Forall₂ R (c.join j d) (c'.join j d') :=
  ⟨hc.1, List.rel_append hc.2 (.cons ⟨rfl, hd.1⟩ hd.2)⟩

lemma forall₂_formulaFrom {R : α → β → Prop} {f : Formula α} {g : Formula β}
    (hfg : Formula.Forall₂ R f g) {ls : List (Junction × Formula α)}
    {ms : List (Junction × Formula β)}
    (h : List.Forall₂ (fun l m => l.1 = m.1 ∧ Formula.Forall₂ R l.2 m.2) ls ms) :
    Formula.Forall₂ R (formulaFrom f ls) (formulaFrom g ms) := by
  induction h generalizing f g with
  | nil => exact hfg
  | @cons l m ls ms hlm _ ih =>
    obtain ⟨j, l⟩ := l
    obtain ⟨k, m⟩ := m
    obtain ⟨rfl, hlm⟩ : j = k ∧ Formula.Forall₂ R l m := hlm
    cases j with
    | and => exact ih (hfg.and hlm)
    | or => exact hfg.or (ih hlm)

lemma Forall₂.formula {R : α → β → Prop} {c : Chain (Formula α)} {d : Chain (Formula β)}
    (h : Forall₂ R c d) : Formula.Forall₂ R c.formula d.formula :=
  forall₂_formulaFrom h.1 h.2

/-! ### The leaves and the truth of a chain -/

lemma leaves_formulaFrom (f : Formula α) (ls : List (Junction × Formula α)) :
    (formulaFrom f ls).leaves = f.leaves ++ ls.flatMap (·.2.leaves) := by
  induction ls generalizing f with
  | nil => simp [formulaFrom]
  | cons l ls ih =>
    obtain ⟨_ | _, g⟩ := l
    · simp [formulaFrom, ih, Formula.leaves]
    · simp [formulaFrom, ih, Formula.leaves]

lemma leaves_join (c : Chain (Formula α)) (j : Junction) (d : Chain (Formula α)) :
    (c.join j d).formula.leaves = c.formula.leaves ++ d.formula.leaves := by
  simp [formula, join, leaves_formulaFrom]

lemma formulaFrom_ne_atom {f : Formula α} (hf : ∀ a, f ≠ .atom a)
    (ls : List (Junction × Formula α)) (a : α) : formulaFrom f ls ≠ .atom a := by
  induction ls generalizing f with
  | nil => exact hf a
  | cons l ls ih =>
    obtain ⟨_ | _, g⟩ := l
    · exact ih (f := f.and g) (by simp)
    · simp [formulaFrom]

lemma formulaFrom_cons_ne_atom (f : Formula α) (l : Junction × Formula α)
    (ls : List (Junction × Formula α)) (a : α) : formulaFrom f (l :: ls) ≠ .atom a := by
  obtain ⟨_ | _, g⟩ := l
  · exact formulaFrom_ne_atom (f := f.and g) (by simp) ls a
  · simp [formulaFrom]

/-- Two operands are no lone comparison. -/
lemma join_formula_ne_atom (c : Chain (Formula α)) (j : Junction) (d : Chain (Formula α)) (a : α) :
    (c.join j d).formula ≠ .atom a := by
  rw [formula, join]
  cases c.rest with
  | nil => exact formulaFrom_cons_ne_atom c.first _ _ a
  | cons l ls => exact formulaFrom_cons_ne_atom c.first l _ a

/-- An `or` between two chains joins their formulas, whatever they hold. -/
lemma eval_formulaFrom_or (truth : α → Bool) (f g : Formula α)
    (ls ms : List (Junction × Formula α)) :
    (formulaFrom f (ls ++ (.or, g) :: ms)).eval truth =
      ((formulaFrom f ls).eval truth || (formulaFrom g ms).eval truth) := by
  induction ls generalizing f with
  | nil => rfl
  | cons l ls ih =>
    obtain ⟨_ | _, h⟩ := l
    · exact ih (f.and h)
    · simp [formulaFrom, Formula.eval, ih, Bool.or_assoc]

/-- A chain of `and` alone holds if all of its operands hold. -/
lemma eval_formulaFrom_and (truth : α → Bool) (f : Formula α)
    {ls : List (Junction × Formula α)} (h : ∀ l ∈ ls, l.1 = .and) :
    (formulaFrom f ls).eval truth = (f.eval truth && ls.all (·.2.eval truth)) := by
  induction ls generalizing f with
  | nil => simp [formulaFrom]
  | cons l ls ih =>
    obtain ⟨j, g⟩ := l
    obtain rfl : j = .and := h (j, g) (by simp)
    rw [formulaFrom, ih _ fun l hl => h l (by simp [hl])]
    simp [Formula.eval, Bool.and_assoc]

lemma IsAll.join {j : Junction} {c d : Chain α} (hc : c.IsAll j) (hd : d.IsAll j) :
    (c.join j d).IsAll j := by
  intro link hlink
  rcases List.mem_append.mp hlink with h | h
  · exact hc link h
  · rcases List.mem_cons.mp h with rfl | h
    · rfl
    · exact hd link h

@[simp] lemma isAll_single (j : Junction) (a : α) : (single a).IsAll j := by
  simp [IsAll, single]

lemma eval_join_or (truth : α → Bool) (c d : Chain (Formula α)) :
    (c.join .or d).formula.eval truth = (c.formula.eval truth || d.formula.eval truth) :=
  eval_formulaFrom_or truth c.first d.first c.rest d.rest

/-- An `and` between two chains joins their formulas if neither holds an `or`. -/
lemma eval_join_and (truth : α → Bool) {c d : Chain (Formula α)} (hc : c.IsAll .and)
    (hd : d.IsAll .and) :
    (c.join .and d).formula.eval truth = (c.formula.eval truth && d.formula.eval truth) := by
  rw [formula, eval_formulaFrom_and truth _ (hc.join hd), formula, formula,
    eval_formulaFrom_and truth _ hc, eval_formulaFrom_and truth _ hd]
  simp [join, Bool.and_assoc]

end Chain

end DocQuery
