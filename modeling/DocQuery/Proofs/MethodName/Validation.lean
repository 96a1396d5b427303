import DocQuery.Proofs.Entity
import DocQuery.Proofs.MethodName.Arguments
/-!
# Method names that can be prepared

Preparing a method fails for a property that the entity does not have, for a kind of condition that
N1QL cannot say, and for letter case that is to be ignored on a field that is no text, but for
nothing else. Letter case is then ignored on both sides of a comparison or on none
(`prepare_validates`).
-/

namespace DocQuery

open Criteria

/-! ### Letter case -/

namespace Comparison

variable {k k' : Comparison} {b : Bool}

/-- The lower-case forms of the field and of every value are compared. -/
def IsLowered (k : Comparison) : Prop :=
  k.subject = Fragment.call "lower" [.raw k.field.text] ∧
    ∀ operand ∈ k.test.operands,
      k.operandFragment operand = Fragment.call "lower" [[k.place operand]]

/-- The field and every value are compared as they are. -/
def IsAsWritten (k : Comparison) : Prop :=
  k.subject = .raw k.field.text ∧
    ∀ operand ∈ k.test.operands, k.operandFragment operand = [k.place operand]

/-- Both sides are marked to be folded to lower case, or none is. -/
def Folds (k : Comparison) (b : Bool) : Prop :=
  let fold := if b then some .lower else none
  k.fieldFold = fold ∧ k.valueFold = fold

lemma Fills.folds (h : k.Fills k') (hfolds : k.Folds b) : k'.Folds b :=
  ⟨h.fieldFold.trans hfolds.1, h.valueFold.trans hfolds.2⟩

lemma Folds.isLowered (h : k.Folds true) : k.IsLowered := by
  refine ⟨?_, fun operand _ => ?_⟩
  · rw [subject, h.1]
    rfl
  · rw [operandFragment_eq_place, h.2]
    rfl

lemma Folds.isAsWritten (h : k.Folds false) : k.IsAsWritten := by
  refine ⟨?_, fun operand _ => ?_⟩
  · rw [subject, h.1]
    rfl
  · rw [operandFragment_eq_place, h.2]
    rfl

lemma IsLowered.not_isAsWritten (h : k.IsLowered) : ¬k.IsAsWritten := by
  intro hwritten
  have hlength := congrArg List.length (h.1.symm.trans hwritten.1)
  simp [Fragment.call, Fragment.joined, Fragment.raw] at hlength

end Comparison

lemma Kind.isTextual_iff {kind : Kind} : kind.isTextual = true ↔ kind ∈ [.string, .enum] := by
  cases kind <;> simp [isTextual]

namespace Condition

variable {entity : Entity} {part : Condition} {field : FieldPath} {k : Comparison}

/-- N1QL can say all conditions but those on places and on empty collections. -/
lemma Kind.exists_test?_iff {kind : Condition.Kind} :
    (∃ test, kind.test? = some test) ↔ kind ∉ [.near, .within, .isEmpty, .isNotEmpty] := by
  cases kind <;> simp [test?]

lemma foldsField_iff {kind : Condition.Kind} {test : Test} (h : kind.test? = some test) :
    foldsField test = true ↔ kind ∉ [.isIn, .isNotIn, .regex] := by
  cases kind <;> cases h <;> simp [foldsField, Relation.foldsValue]

/-- Letter case is ignored if the name allows it and the field is text, and a field that is no text
is refused where the name insists. -/
lemma ignoresCase_eq {kind : DocQuery.Kind} (hkind : entity.typeOf field = .ok kind)
    (letterCase : LetterCase) :
    ignoresCase entity field letterCase =
      if letterCase = .ignored ∧ kind.isTextual = false then
        .error (.misuse (.notTextual field.text kind.name))
      else .ok (letterCase != .exact && kind.isTextual) := by
  cases letterCase with
  | exact => rfl
  | ignoredWherePossible =>
    rw [ignoresCase, hkind]
    rfl
  | ignored =>
    rw [ignoresCase, hkind]
    cases htextual : kind.isTextual with
    | false => simp [htextual, bind, Except.bind, throw, throwThe, MonadExceptOf.throw]
    | true => simp [htextual, bind, Except.bind, pure, Except.pure]

/-! ### Conditions that can be prepared -/

/-- The entity has the property, N1QL can say the condition, and if its letter case is to be ignored
in any case, the field is text. -/
structure IsValid (entity : Entity) (part : Condition) : Prop where
  resolves : ∃ field, entity.resolve part.property = .ok field
  expressible : part.kind ∉ [.near, .within, .isEmpty, .isNotEmpty]
  textual : part.letterCase = .ignored → ∃ field kind,
    entity.resolve part.property = .ok field ∧ entity.typeOf field = .ok kind ∧
      kind ∈ [.string, .enum]

lemma exists_toCriteria_iff : (∃ c, part.toCriteria entity = .ok c) ↔ part.IsValid entity := by
  constructor
  · rintro ⟨c, h⟩
    obtain ⟨field, test, ignored, hfield, htest, hignored, -⟩ := toCriteria_eq_ok_iff.mp h
    obtain ⟨kind, hkind⟩ := Entity.exists_typeOf_of_resolve hfield
    refine ⟨⟨field, hfield⟩, Kind.exists_test?_iff.mp ⟨test, htest⟩, ?_⟩
    intro hinsists
    refine ⟨field, kind, hfield, hkind, Kind.isTextual_iff.mp ?_⟩
    by_contra htextual
    rw [ignoresCase_eq hkind, if_pos ⟨hinsists, Bool.not_eq_true _ ▸ htextual⟩] at hignored
    simp at hignored
  · rintro ⟨⟨field, hfield⟩, hexpressible, htextual⟩
    obtain ⟨test, htest⟩ := Kind.exists_test?_iff.mpr hexpressible
    obtain ⟨kind, hkind⟩ := Entity.exists_typeOf_of_resolve hfield
    have haccepted : ¬(part.letterCase = .ignored ∧ kind.isTextual = false) := by
      rintro ⟨hinsists, hfalse⟩
      obtain ⟨field', kind', hfield', hkind', hmem⟩ := htextual hinsists
      obtain rfl : field = field' := Except.ok.inj (hfield.symm.trans hfield')
      obtain rfl : kind = kind' := Except.ok.inj (hkind.symm.trans hkind')
      rw [Kind.isTextual_iff.mpr hmem] at hfalse
      exact absurd hfalse (by decide)
    have hignored := (ignoresCase_eq hkind part.letterCase).trans (if_neg haccepted)
    exact ⟨_, toCriteria_eq_ok_iff.mpr ⟨field, test, _, hfield, htest, hignored, rfl⟩⟩

/-! ### Conditions that are folded -/

/-- Letter case is ignored on the field: the name allows it, the field is text, and the condition
compares neither with a set nor with a pattern. -/
def IgnoresCase (entity : Entity) (part : Condition) (field : FieldPath) : Prop :=
  part.letterCase ≠ .exact ∧ (∃ kind, entity.typeOf field = .ok kind ∧ kind ∈ [.string, .enum]) ∧
    part.kind ∉ [.isIn, .isNotIn, .regex]

/-- The comparison is on the property of the condition, with the operator of its kind, and lowers
both of its sides if letter case is ignored and none of them otherwise. -/
structure IsFolded (entity : Entity) (part : Condition) (k : Comparison) : Prop where
  field : entity.resolve part.property = .ok k.field
  operator : part.kind.test?.map Test.operator = some k.test.operator
  lowered : k.IsLowered ↔ part.IgnoresCase entity k.field
  asWritten : k.IsAsWritten ↔ ¬part.IgnoresCase entity k.field

/-- A test of folded values is one of a folded field, and the other way round. -/
lemma exists_folds_test (field : FieldPath) (test : Test) (ignored : Bool) :
    ∃ k, (if ignored && foldsField test then (Criterion.on field).ignoreCase
        else .on field).test test = .comparison k false false ∧
      k.field = field ∧ k.Folds (ignored && foldsField test) := by
  refine ⟨_, rfl, ?_, ?_⟩
  · split <;> rfl
  · cases hfolds : ignored && foldsField test with
    | false =>
      refine ⟨rfl, ?_⟩
      simp [Criterion.on]
    | true =>
      refine ⟨rfl, ?_⟩
      have htest : foldsField test = true := (Bool.and_eq_true_iff.mp hfolds).2
      cases test <;> simp_all [foldsField, Criterion.on, Criterion.ignoreCase]

lemma ignoresCase_iff {test : Test} (htest : part.kind.test? = some test) {ignored : Bool}
    (hfield : entity.resolve part.property = .ok field)
    (h : ignoresCase entity field part.letterCase = .ok ignored) :
    (ignored && foldsField test) = true ↔ part.IgnoresCase entity field := by
  obtain ⟨kind, hkind⟩ := Entity.exists_typeOf_of_resolve hfield
  rw [ignoresCase_eq hkind] at h
  split at h
  · simp at h
  · obtain rfl := Except.ok.inj h
    rw [Bool.and_eq_true, foldsField_iff htest, IgnoresCase]
    simp [hkind, Kind.isTextual_iff, and_assoc]

/-- What a condition becomes ignores letter case on both sides or on none, as the condition asks. -/
lemma Becomes.folds (h : Becomes entity part k) :
    (part.IgnoresCase entity k.field → k.Folds true) ∧
      (¬part.IgnoresCase entity k.field → k.Folds false) := by
  obtain ⟨field, test, ignored, hfield, htest, hignored, heq⟩ := toCriteria_eq_ok_iff.mp h
  obtain ⟨k', hk', rfl, hfolds⟩ := exists_folds_test field test ignored
  obtain ⟨rfl, -, -⟩ := Criteria.comparison.inj (heq.trans hk')
  rw [← ignoresCase_iff htest hfield hignored, Bool.not_eq_true]
  constructor
  · intro htrue
    rwa [htrue] at hfolds
  · intro hfalse
    rwa [hfalse] at hfolds

/-- The comparison is folded as its condition asks. -/
lemma Becomes.isFolded {k' : Comparison} (h : Becomes entity part k) (hfield : k'.field = k.field)
    (hoperator : k'.test.operator = k.test.operator) (hfolds : ∀ b, k.Folds b → k'.Folds b) :
    part.IsFolded entity k' := by
  obtain ⟨_, heq, hresolve, htest⟩ := toCriteria_eq_ok h
  obtain ⟨rfl, -, -⟩ := Criteria.comparison.inj heq
  obtain ⟨hignored, hkept⟩ := h.folds
  refine ⟨hfield ▸ hresolve, by rw [htest, hoperator, Option.map_some], ?_, ?_⟩
  · rw [hfield]
    constructor
    · intro hlowered
      by_contra hcase
      exact hlowered.not_isAsWritten (hfolds _ (hkept hcase)).isAsWritten
    · exact fun hcase => (hfolds _ (hignored hcase)).isLowered
  · rw [hfield]
    constructor
    · exact fun hwritten hcase => (hfolds _ (hignored hcase)).isLowered.not_isAsWritten hwritten
    · exact fun hcase => (hfolds _ (hkept hcase)).isAsWritten

end Condition

/-! ### Methods -/

namespace MethodName

variable {m : MethodName} {p : Prepared} {entity : Entity}

/-- Groups have criteria if all of their conditions have. -/
lemma exists_toCriteria_iff {groups : List (List Condition)} :
    (∃ criteria, toCriteria entity groups = .ok criteria) ↔
      ∀ part ∈ groups.flatten, part.IsValid entity := by
  constructor
  · rintro ⟨criteria, h⟩
    refine forall_mem_of_forall₂ (p := (Condition.IsValid entity ·))
      (comparisons_of_toCriteria h).flip fun k part hpart => ?_
    exact Condition.exists_toCriteria_iff.mp ⟨_, hpart⟩
  · intro h
    have hgroups : ∃ css, groups.mapM (fun group => group.mapM (Condition.toCriteria entity)) =
        .ok css := by
      refine exists_mapM_eq_ok fun group hgroup => exists_mapM_eq_ok fun part hpart => ?_
      exact Condition.exists_toCriteria_iff.mpr (h part (List.mem_flatten_of_mem hgroup hpart))
    obtain ⟨css, hcss⟩ := hgroups
    rw [toCriteria, hcss]
    exact ⟨_, rfl⟩

lemma exists_prepare_iff :
    (∃ p, m.prepare entity = .ok p) ↔
      (∀ part ∈ m.conditions, part.IsValid entity) ∧ Query.IsResolvable entity m.sort := by
  constructor
  · rintro ⟨p, h⟩
    exact ⟨exists_toCriteria_iff.mp ⟨_, toCriteria_of_prepare h⟩, (sort_of_prepare h).2⟩
  · rintro ⟨hvalid, hsort⟩
    obtain ⟨criteria, hcriteria⟩ := exists_toCriteria_iff.mpr hvalid
    rw [prepare_of_isResolvable hsort, hcriteria]
    exact ⟨_, rfl⟩

/-- A method can be prepared exactly if the entity has the properties of its conditions and of its
order, N1QL can say every condition, and letter case has to be ignored on fields of text alone. Then
every condition has a comparison, before and in every call, with letter case ignored on the field
and on all values or on none of them: where the name allows it, the field is text, and the condition
compares neither with a set nor with a pattern. -/
theorem prepare_validates (m : MethodName) (entity : Entity) :
    ((∃ p, m.prepare entity = .ok p) ↔
      (∀ part ∈ m.conditions, part.IsValid entity) ∧ Query.IsResolvable entity m.sort) ∧
    ∀ p, m.prepare entity = .ok p →
      List.Forall₂ (Condition.IsFolded entity) m.conditions
        (p.criteria.elim [] Criteria.comparisons) ∧
      ∀ args page q, p.bind args page = .ok q →
        List.Forall₂ (Condition.IsFolded entity) m.conditions
          (q.criteria.elim [] Criteria.comparisons) := by
  refine ⟨exists_prepare_iff, fun p hp => ⟨?_, ?_⟩⟩
  · exact (comparisons_of_toCriteria (toCriteria_of_prepare hp)).imp
      fun part k hpart => hpart.isFolded rfl rfl fun _ hfolds => hfolds
  · intro args page q hq
    apply (Prepared.isSaidBy_of_bind hp hq).imp
    intro part k hpart
    obtain ⟨k₀, hk₀, hfills⟩ := hpart.fills
    exact Condition.Becomes.isFolded hk₀ hfills.field hfills.operator fun _ => hfills.folds

/-- Persons of a name in any case, or of a name among some and above an age. -/
def namesInAnyCase : MethodName :=
  .or (.ofConditions [⟨.containing, "name", .ignored⟩])
    [⟨.isIn, "name", .ignored⟩, ⟨.greaterThan, "age", .ignoredWherePossible⟩]

theorem namesInAnyCase_is_validated :
    ∃ p name names age, namesInAnyCase.prepare .person = .ok p ∧
      p.criteria.elim [] Criteria.comparisons = [name, names, age] ∧
      name.IsLowered ∧ names.IsAsWritten ∧ age.IsAsWritten := by
  obtain ⟨p, hp⟩ := exists_of_isOk (x := namesInAnyCase.prepare .person) (by decide)
  obtain ⟨hfolded, -⟩ := (prepare_validates namesInAnyCase .person).2 p hp
  obtain ⟨name, _, hname, hsecond, heq⟩ := List.forall₂_cons_left_iff.mp hfolded
  obtain ⟨names, _, hnames, hthird, rfl⟩ := List.forall₂_cons_left_iff.mp hsecond
  obtain ⟨age, _, hage, hnone, rfl⟩ := List.forall₂_cons_left_iff.mp hthird
  obtain rfl := List.forall₂_nil_left_iff.mp hnone
  refine ⟨p, name, names, age, hp, heq, hname.lowered.mpr ?_, hnames.asWritten.mpr ?_,
    hage.asWritten.mpr ?_⟩
  · rw [Except.ok.inj (hname.field.symm.trans rfl)]
    exact ⟨by simp, ⟨.string, rfl, by simp⟩, by simp⟩
  · simp [Condition.IgnoresCase]
  · rintro ⟨-, ⟨kind, hkind, htextual⟩, -⟩
    rw [Except.ok.inj (hage.field.symm.trans rfl)] at hkind
    obtain rfl : Kind.number = kind := Except.ok.inj hkind
    simp at htextual

end MethodName

end DocQuery
