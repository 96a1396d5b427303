import DocQuery.Proofs.Criteria.Negation
import DocQuery.Proofs.Predicate.Grammar
import DocQuery.Proofs.Query.Placeholders
/-!
# The parameters of predicates

The parameters of a predicate are the values of its leaves from left to right, however its
connectives are nested (`parameters_in_order`). Negation and grouping restructure the criteria, but
its operands stay where they are.
-/

namespace DocQuery

namespace Predicate

/-! ### Operands of chains -/

lemma allOperands_chainOperand (j : Junction) (c : Criteria) :
    (chainOperand j c).allOperands = c.allOperands := by
  rw [chainOperand]
  split
  · exact c.allOperands_group
  · rfl

lemma allOperands_chain (j : Junction) (first : Criteria) (rest : List Criteria) :
    (chain j first rest).allOperands = (first :: rest).flatMap Criteria.allOperands := by
  have hfold : ∀ (cs : List Criteria) (c : Criteria),
      (cs.foldl (fun left right => .junction j left right false false) c).allOperands =
        c.allOperands ++ cs.flatMap Criteria.allOperands := by
    intro cs
    induction cs with
    | nil => simp
    | cons d cs ih =>
      intro c
      rw [List.foldl_cons, ih, Criteria.allOperands_junction, List.flatMap_cons, List.append_assoc]
  rw [chain_eq_foldl, hfold, List.flatMap_map, allOperands_chainOperand, List.flatMap_cons]
  exact congrArg (_ ++ List.flatMap · rest) (funext (allOperands_chainOperand j))

/-! ### The values of leaves -/

/-- The argument, if the predicate is a constant. -/
def constant? : Predicate → Option Argument
  | .constant a => some a
  | _ => none

/-- The values that a leaf binds for its constants: the empty string if the field has to be empty,
upper-case forms where letter case is ignored, and else the constants as they are. -/
def Op.values (op : Op) (constants : List Argument) : List Value :=
  match op, op.form with
  | .isEmptyString, _ => [.string ""]
  | _, .foldedMatch => constants.filterMap fun a => a.toPattern.toOption.map Value.upper
  | _, _ => constants.map Argument.toValue

mutual

/-- The operations that are no connectives from left to right, each with its constants. -/
def leaves : Predicate → List (Op × List Argument)
  | .path _ => []
  | .constant _ => []
  | .operation op args =>
    match op.form with
    | .junction | .negation => leavesAll args
    | _ => [(op, args.filterMap constant?)]

/-- The leaves of several predicates. -/
def leavesAll : List Predicate → List (Op × List Argument)
  | [] => []
  | p :: ps => leaves p ++ leavesAll ps

end

/-- The values of the leaves from left to right. -/
def constants (p : Predicate) : List Value := p.leaves.flatMap fun (op, args) => op.values args

variable {entity : Entity} {op : Op} {args : List Predicate} {c : Criteria}

lemma leavesAll_eq_flatMap (ps : List Predicate) : leavesAll ps = ps.flatMap leaves := by
  induction ps with
  | nil => rfl
  | cons p ps ih => rw [leavesAll, ih, List.flatMap_cons]

lemma leaves_connective (hop : op.form = .junction ∨ op.form = .negation) (args : List Predicate) :
    leaves (.operation op args) = args.flatMap leaves := by
  rw [← leavesAll_eq_flatMap, leaves]
  rcases hop with hop | hop <;> simp [hop]

lemma constants_connective (hop : op.form = .junction ∨ op.form = .negation)
    (args : List Predicate) : constants (.operation op args) = args.flatMap constants := by
  rw [constants, leaves_connective hop, List.flatMap_assoc]
  rfl

lemma constants_leaf (hj : op.junction? = none) (hnot : op ≠ .not) (args : List Predicate) :
    constants (.operation op args) = op.values (args.filterMap constant?) := by
  have hform : op.form ≠ .junction ∧ op.form ≠ .negation := by
    constructor
    · rw [Ne, Op.form_eq_junction_iff]
      simp [hj]
    · rwa [Ne, Op.form_eq_negation_iff]
  rw [constants, leaves]
  split <;> simp_all

/-- The criteria of a leaf has the values of the leaf, on whichever side its constant stands. -/
lemma allOperands_leaf (h : leaf entity op args = .ok c) :
    c.allOperands = (op.values (args.filterMap constant?)).map .value := by
  cases op
  case eq | ne | lt | lte | gt | gte =>
    obtain ⟨logical, field, a, -, ⟨rfl, rfl⟩ | ⟨rfl, rfl⟩⟩ := comparison_eq_ok_iff.mp h
    · rfl
    · rfl
  case isIn | isNotIn =>
    obtain ⟨logical, field, a, -, rfl | rfl, rfl⟩ := membership_eq_ok_iff.mp h
    · rfl
    · rfl
  case like | startsWith | endsWith | contains | regex =>
    obtain ⟨logical, field, a, -, rfl, rfl⟩ := stringMatch_eq_ok_iff.mp h
    rfl
  case likeIgnoreCase | startsWithIgnoreCase | endsWithIgnoreCase | containsIgnoreCase
      | eqIgnoreCase =>
    obtain ⟨logical, field, a, v, -, rfl, hv, rfl⟩ := foldedMatch_eq_ok_iff.mp h
    simp only [Op.values, Op.form, List.filterMap, constant?, hv]
    rfl
  case between =>
    obtain ⟨logical, field, low, high, -, rfl, rfl⟩ := between_eq_ok_iff.mp h
    rfl
  case isNull | isNotNull | isEmptyCollection =>
    obtain ⟨logical, field, -, rfl, rfl⟩ := check_eq_ok_iff.mp h
    rfl
  case isEmptyString =>
    obtain ⟨logical, field, -, rfl, rfl⟩ := (onlyField_bind_eq_ok_iff
      (f := fun k => ((k.check .isNotValued).or (k.relate .eq (.string ""))).group)).mp h
    rfl
  case and | or | not | regexIgnoreCase | stringLength | collectionSize | containsKey =>
    exact absurd h (by simp [leaf])

/-! ### The values of predicates -/

lemma flatMap_allOperands {ps : List Predicate} {cs : List Criteria}
    (h : List.Forall₂ (fun p c => c.allOperands = p.constants.map .value) ps cs) :
    cs.flatMap Criteria.allOperands = (ps.flatMap constants).map .value := by
  induction h with
  | nil => rfl
  | cons hp _ ih => rw [List.flatMap_cons, List.flatMap_cons, List.map_append, hp, ih]

/-- The criteria of a predicate has the values of the predicate. -/
lemma keptByTranslation_constants :
    KeptByTranslation entity fun p c => c.allOperands = p.constants.map .value where
  leaf hj hnot h := by
    rw [constants_leaf hj hnot, allOperands_leaf h]
  notIn h := by
    rw [constants_connective (.inr rfl), List.flatMap_singleton, constants_leaf rfl (by simp),
      allOperands_leaf h]
    rfl
  not h := by
    rw [constants_connective (.inr rfl), List.flatMap_singleton, Criteria.allOperands_negate, h]
  junction hj h := by
    rw [constants_connective (.inl (Op.form_eq_junction_iff.mpr ⟨_, hj⟩)), allOperands_chain]
    exact flatMap_allOperands h

/-- The predicate has criteria, and for any query with this criteria the positional parameters are
the given values. The query has a statement if its order can be resolved. -/
def HasParameters (entity : Entity) (p : Predicate) (values : List Value) : Prop :=
  ∃ c, p.toCriteria entity = .ok c ∧ ∀ (q : Query) (ctx : Context), q.criteria = some c →
    ctx.style = .positional →
      (Query.IsResolvable ctx.entity q.sort → ∃ s, q.compile ctx = .ok s) ∧
      ∀ s, q.compile ctx = .ok s → s.bindings = .positional values

lemma hasParameters_constants {p : Predicate} (h : p.toCriteria entity = .ok c) :
    p.HasParameters entity p.constants := by
  refine ⟨c, h, ?_⟩
  intro q ctx hcriteria hstyle
  have hoperands : q.criteria.elim [] Criteria.allOperands = p.constants.map .value := by
    rw [hcriteria]
    exact toCriteria_induction keptByTranslation_constants p h
  constructor
  · exact Query.exists_compile (Query.deferredCount_of_allOperands hoperands)
  · intro s hs
    have hresolved : q.IsResolved := by
      simpa [Query.IsResolved, hcriteria] using (isReadable_of_toCriteria h).fields
    obtain ⟨hkind, hbinds⟩ := Query.binds_of_compile hresolved hs
    rw [Query.values_of_allOperands hoperands] at hbinds
    obtain ⟨text, bindings, style⟩ := s
    cases bindings with
    | positional bound => exact congrArg Bindings.positional hbinds.1
    | named entries => simp [hstyle, Bindings.style] at hkind

/-! ### Regrouping -/

/-- Two predicates are the same but for negations around their operations, and for the way their
connectives are nested. -/
inductive Regrouped : Predicate → Predicate → Prop
  | refl (p : Predicate) : Regrouped p p
  | symm {p q : Predicate} (h : Regrouped p q) : Regrouped q p
  | trans {p q r : Predicate} (hpq : Regrouped p q) (hqr : Regrouped q r) : Regrouped p r
  | operand {op : Op} (hop : op.form = .junction ∨ op.form = .negation)
      (before after : List Predicate) {p q : Predicate} (h : Regrouped p q) :
      Regrouped (.operation op (before ++ p :: after)) (.operation op (before ++ q :: after))
  | negate {op : Op} (hop : op.form = .negation) (p : Predicate) :
      Regrouped p (.operation op [p])
  | nest {op inner : Op} (hop : op.form = .junction) (hinner : inner.form = .junction)
      (before args after : List Predicate) (hargs : 2 ≤ args.length)
      (hother : before ++ after ≠ []) :
      Regrouped (.operation op (before ++ args ++ after))
        (.operation op (before ++ .operation inner args :: after))

lemma Regrouped.constants_eq {p q : Predicate} (h : Regrouped p q) : p.constants = q.constants := by
  induction h with
  | refl p => rfl
  | symm _ ih => exact ih.symm
  | trans _ _ ihpq ihqr => exact ihpq.trans ihqr
  | operand hop before after _ ih => simp [constants_connective hop, ih]
  | negate hop p => simp [constants_connective (.inr hop)]
  | nest hop hinner before args after => simp [constants_connective, hop, hinner]

lemma Regrouped.isAccepted_iff {p q : Predicate} (h : Regrouped p q) :
    IsAccepted entity p ↔ IsAccepted entity q := by
  induction h with
  | refl p => rfl
  | symm _ ih => exact ih.symm
  | trans _ _ ihpq ihqr => exact ihpq.trans ihqr
  | operand hop before after _ ih =>
    rcases hop with hop | hop
    · simp [isAccepted_junction_iff hop, -List.mem_append, List.forall_mem_append, ih]
    · simp [isAccepted_negation_iff hop, -List.mem_append, List.forall_mem_append, ih]
  | negate hop p => simp [isAccepted_negation_iff hop]
  | nest hop hinner before args after hargs hother =>
    have hlength : 0 < (before ++ after).length := List.length_pos_iff.mpr hother
    rw [List.length_append] at hlength
    rw [isAccepted_junction_iff hop, isAccepted_junction_iff hop]
    simp only [List.length_append, List.length_cons, List.forall_mem_append, List.forall_mem_cons,
      isAccepted_junction_iff hinner]
    constructor
    · rintro ⟨-, ⟨hbefore, hargs'⟩, hafter⟩
      exact ⟨by omega, hbefore, ⟨hargs, hargs'⟩, hafter⟩
    · rintro ⟨-, hbefore, ⟨-, hargs'⟩, hafter⟩
      exact ⟨by omega, ⟨hbefore, hargs'⟩, hafter⟩

/-- The positional parameters of a predicate are the values of its leaves from left to right, and
they stay the same if operations are negated or connectives are nested in another way. -/
theorem parameters_in_order {p : Predicate} (h : p.toCriteria entity = .ok c) :
    p.HasParameters entity p.constants ∧
      ∀ q, Regrouped p q → q.HasParameters entity p.constants := by
  refine ⟨hasParameters_constants h, ?_⟩
  intro q hq
  have haccepted : IsAccepted entity p := toCriteria_induction keptByTranslation_isAccepted p h
  obtain ⟨d, hd⟩ := (hq.isAccepted_iff.mp haccepted).exists_toCriteria
  rw [hq.constants_eq]
  exact hasParameters_constants hd

/-- Not both above three and among one and two, or without a name, or of a name in any case. -/
def mixedLeaves : Predicate :=
  .operation .or
    [.operation .not [.operation .and
      [.operation .lt [.constant (.value (.int 3)), .path "age"],
        .operation .isIn
          [.path "age", .constant (.collection [.value (.int 1), .value (.int 2)])]]],
      .operation .isEmptyString [.path "name"],
      .operation .eqIgnoreCase [.path "name", .constant (.enum "Ab")]]

theorem parameters_of_mixedLeaves :
    ∃ c, mixedLeaves.toCriteria .person = .ok c ∧ mixedLeaves.HasParameters .person
      [.int 3, .array [.int 1, .int 2], .string "", .string "AB"] := by
  obtain ⟨c, hc⟩ := exists_of_isOk (x := mixedLeaves.toCriteria .person) (by decide)
  obtain ⟨hparameters, -⟩ := parameters_in_order hc
  exact ⟨c, hc, hparameters⟩

end Predicate

end DocQuery
