import DocQuery.MethodName.Prepared
import DocQuery.Proofs.Criteria.Meaning
import DocQuery.Proofs.Criteria.Resolve
import DocQuery.Proofs.Outcome
/-!
# Method names mean their groups

The criteria of a method name nests to the left and has no parentheses: conditions are joined by
`and` to groups, and groups by `or`. Its text is true when all conditions of one group are.
-/

namespace DocQuery

/-- A comparison that can be written: its field is resolved and its values are known. -/
def Comparison.IsReady (k : Comparison) : Prop :=
  k.field.IsQuoted ∧ ∀ operand ∈ k.test.operands, operand.isDeferred = false

namespace Criteria

/-! ### Groups -/

/-- The criteria joins the comparisons by `and`, from the left. -/
inductive AllOf : List Comparison → Criteria → Prop where
  | single (k : Comparison) : AllOf [k] (.comparison k false false)
  | snoc {ks c} (h : AllOf ks c) (k : Comparison) :
      AllOf (ks ++ [k]) (c.and (.comparison k false false))

/-- The criteria joins groups of comparisons by `or`, from the left. -/
inductive AnyOf : List (List Comparison) → Criteria → Prop where
  | single {ks c} (h : AllOf ks c) : AnyOf [ks] c
  | snoc {kss c ks d} (h : AnyOf kss c) (hd : AllOf ks d) : AnyOf (kss ++ [ks]) (c.or d)

variable {ks : List Comparison} {kss : List (List Comparison)} {c : Criteria}

lemma AllOf.comparisons_eq (h : AllOf ks c) : c.comparisons = ks := by
  induction h with
  | single k => rfl
  | snoc _ k ih => rw [Criteria.and, comparisons, ih]; rfl

lemma AnyOf.comparisons_eq (h : AnyOf kss c) : c.comparisons = kss.flatten := by
  induction h with
  | single h => simp [h.comparisons_eq]
  | snoc _ hd ih => simp [Criteria.or, comparisons, ih, hd.comparisons_eq]

lemma AllOf.operator_ne (h : AllOf ks c) : c.operator ≠ .junction .or := by
  cases h with
  | single k => cases hk : k.test <;> simp [operator, hk, Test.operator]
  | snoc _ k => simp [Criteria.and, operator]

variable {truth : Comparison → Bool}

/-- A group says that all of its comparisons hold. -/
lemma AllOf.says_all (h : AllOf ks c) (hks : ∀ k ∈ ks, k.IsReady) :
    c.Says truth (ks.all truth) := by
  induction h with
  | single k =>
    obtain ⟨hfield, hknown⟩ := hks k (by simp)
    simpa using says_comparison hfield hknown
  | @snoc ks c hc k ih =>
    obtain ⟨hfield, hknown⟩ := hks k (by simp)
    have hgroup : c.Says truth (ks.all truth) := ih fun k hk => hks k (by simp [hk])
    have hlast : (comparison k false false).Says truth (truth k) := says_comparison hfield hknown
    simpa using hgroup.and hlast hc.operator_ne (AllOf.single k).operator_ne

/-- Groups say that one of them holds. -/
lemma AnyOf.says_any (h : AnyOf kss c) (hkss : ∀ ks ∈ kss, ∀ k ∈ ks, k.IsReady) :
    c.Says truth (kss.any (·.all truth)) := by
  induction h with
  | single h => simpa using h.says_all (hkss _ (by simp))
  | @snoc kss c ks d _ hd ih =>
    have hgroups : c.Says truth (kss.any (·.all truth)) := ih fun ks hks => hkss ks (by simp [hks])
    have hlast : d.Says truth (ks.all truth) := hd.says_all (hkss ks (by simp))
    simpa using hgroups.or hlast

/-! ### Arguments -/

open Taking

variable {c' : Criteria} {args rest : List Argument}

lemma AllOf.exists_of_takes (h : AllOf ks c) (hc : Takes c.resolve args c' rest) :
    ∃ ks', AllOf ks' c' ∧ List.Forall₂ Comparison.Fills ks ks' := by
  induction h generalizing c' rest with
  | single k =>
    obtain ⟨k', rfl, hk⟩ := takes_comparison hc
    exact ⟨[k'], .single k', .cons hk .nil⟩
  | snoc _ k ih =>
    obtain ⟨left, right, mid, rfl, hl, hr⟩ := takes_junction hc
    obtain ⟨ks', hks', hfills⟩ := ih hl
    obtain ⟨k', rfl, hk⟩ := takes_comparison hr
    exact ⟨ks' ++ [k'], hks'.snoc k', List.rel_append hfills (.cons hk .nil)⟩

lemma AnyOf.exists_of_takes (h : AnyOf kss c) (hc : Takes c.resolve args c' rest) :
    ∃ kss', AnyOf kss' c' ∧ List.Forall₂ (List.Forall₂ Comparison.Fills) kss kss' := by
  induction h generalizing c' rest with
  | single h =>
    obtain ⟨ks', hks', hfills⟩ := h.exists_of_takes hc
    exact ⟨[ks'], .single hks', .cons hfills .nil⟩
  | snoc _ hd ih =>
    obtain ⟨left, right, mid, rfl, hl, hr⟩ := takes_junction hc
    obtain ⟨kss', hkss', hfills⟩ := ih hl
    obtain ⟨ks', hks', hfills'⟩ := hd.exists_of_takes hr
    exact ⟨kss' ++ [ks'], hkss'.snoc hks', List.rel_append hfills (.cons hfills' .nil)⟩

/-! ### Joining from the left -/

lemma allOf_foldl (h : AllOf ks c) (ls : List Comparison) :
    AllOf (ks ++ ls) ((ls.map (comparison · false false)).foldl Criteria.and c) := by
  induction ls generalizing ks c with
  | nil => simpa using h
  | cons l ls ih => simpa using ih (h.snoc l)

lemma anyOf_foldl (h : AnyOf kss c) {lss : List (List Comparison)} {cs : List Criteria}
    (hcs : List.Forall₂ AllOf lss cs) : AnyOf (kss ++ lss) (cs.foldl Criteria.or c) := by
  induction hcs generalizing kss c with
  | nil => simpa using h
  | @cons ls d lss cs hd _ ih => simpa using ih (h.snoc hd)

/-- A group of comparisons is joined to one criteria. -/
lemma exists_joinAll_and (hks : ks ≠ []) :
    ∃ c, joinAll .and (ks.map (comparison · false false)) = some c ∧ AllOf ks c := by
  cases ks with
  | nil => exact absurd rfl hks
  | cons k ks => exact ⟨_, rfl, allOf_foldl (.single k) ks⟩

/-- Groups are joined to one criteria. -/
lemma joinAll_or_eq {cs : List Criteria} (hcs : List.Forall₂ AllOf kss cs) :
    (kss = [] ∧ joinAll .or cs = none) ∨ ∃ c, joinAll .or cs = some c ∧ AnyOf kss c := by
  cases hcs with
  | nil => exact .inl ⟨rfl, rfl⟩
  | cons hd htail => exact .inr ⟨_, rfl, anyOf_foldl (.single hd) htail⟩

end Criteria

/-! ### Conditions -/

variable {entity : Entity}

namespace Condition

/-- The comparison is on the property of the condition, with the operator of its kind; it is what
the condition becomes, with values for its operands. -/
structure IsSaidBy (entity : Entity) (part : Condition) (k : Comparison) : Prop where
  field : entity.resolve part.property = .ok k.field
  operator : part.kind.test?.map Test.operator = some k.test.operator
  fills : ∃ k₀, part.toCriteria entity = .ok (.comparison k₀ false false) ∧ k₀.Fills k

/-- A condition becomes the test of its kind, folded if letter case is ignored. -/
lemma toCriteria_eq_ok_iff {part : Condition} {c : Criteria} : part.toCriteria entity = .ok c ↔
    ∃ field test ignored, entity.resolve part.property = .ok field ∧
      part.kind.test? = some test ∧ ignoresCase entity field part.letterCase = .ok ignored ∧
      c = (if ignored && foldsField test then (Criterion.on field).ignoreCase
        else .on field).test test := by
  constructor
  · intro h
    obtain ⟨field, hfield, h⟩ := exists_of_bind_eq_ok h
    split at h
    · next test htest =>
      obtain ⟨ignored, hignored, h⟩ := exists_of_bind_eq_ok h
      exact ⟨field, test, ignored, hfield, htest, hignored, (Except.ok.inj h).symm⟩
    · exact absurd h (by simp [throw, throwThe, MonadExceptOf.throw])
  · rintro ⟨field, test, ignored, hfield, htest, hignored, rfl⟩
    rw [toCriteria, hfield]
    simp only [htest, bind, Except.bind, hignored]
    rfl

lemma toCriteria_eq_ok {part : Condition} {c : Criteria} (h : part.toCriteria entity = .ok c) :
    ∃ k, c = .comparison k false false ∧ entity.resolve part.property = .ok k.field ∧
      part.kind.test? = some k.test := by
  obtain ⟨field, test, ignored, hfield, htest, -, rfl⟩ := toCriteria_eq_ok_iff.mp h
  refine ⟨_, rfl, ?_, htest⟩
  rw [hfield]
  split <;> rfl

/-- The comparison is what the condition becomes. -/
def Becomes (entity : Entity) (part : Condition) (k : Comparison) : Prop :=
  part.toCriteria entity = .ok (.comparison k false false)

lemma Becomes.isSaidBy {part : Condition} {k k' : Comparison} (h : Becomes entity part k)
    (hk : k.Fills k') : IsSaidBy entity part k' := by
  obtain ⟨_, heq, hfield, htest⟩ := toCriteria_eq_ok h
  obtain ⟨rfl, -, -⟩ := Criteria.comparison.inj heq
  exact ⟨by rw [hfield, hk.field], by rw [htest, Option.map_some, hk.operator], k, h, hk⟩

lemma IsSaidBy.isReady {part : Condition} {k : Comparison} (h : IsSaidBy entity part k) :
    k.IsReady := by
  obtain ⟨k₀, -, hfills⟩ := h.fills
  exact ⟨Entity.isQuoted_of_resolve h.field, hfills.known⟩

end Condition

/-! ### Prepared queries -/

open Criteria Taking

lemma exists_comparisons {group : List Condition} {cs : List Criteria}
    (h : List.Forall₂ (fun part c => part.toCriteria entity = .ok c) group cs) :
    ∃ ks : List Comparison, cs = ks.map (comparison · false false) ∧
      List.Forall₂ (Condition.Becomes entity) group ks := by
  induction h with
  | nil => exact ⟨[], rfl, .nil⟩
  | cons hpart _ ih =>
    obtain ⟨ks, rfl, hks⟩ := ih
    obtain ⟨k, rfl, -⟩ := Condition.toCriteria_eq_ok hpart
    exact ⟨k :: ks, rfl, .cons hpart hks⟩

/-- The conditions of a group become one criteria. -/
lemma exists_group {group : List Condition} (hgroup : group ≠ []) {cs : List Criteria}
    (h : group.mapM (Condition.toCriteria entity) = .ok cs) :
    ∃ ks c, List.Forall₂ (Condition.Becomes entity) group ks ∧ joinAll .and cs = some c ∧
      AllOf ks c := by
  obtain ⟨ks, rfl, hks⟩ := exists_comparisons (forall₂_of_mapM_eq_ok h)
  have hne : ks ≠ [] := by
    rintro rfl
    cases hks
    exact hgroup rfl
  obtain ⟨c, hjoin, hc⟩ := exists_joinAll_and hne
  exact ⟨ks, c, hks, hjoin, hc⟩

lemma exists_groups {groups : List (List Condition)} {css : List (List Criteria)}
    (h : List.Forall₂ (fun group cs => group.mapM (Condition.toCriteria entity) = .ok cs)
      groups css) (hgroups : ∀ group ∈ groups, group ≠ []) :
    ∃ kss, List.Forall₂ (List.Forall₂ (Condition.Becomes entity)) groups kss ∧
      List.Forall₂ AllOf kss (css.filterMap (joinAll .and)) := by
  induction h with
  | nil => exact ⟨[], .nil, .nil⟩
  | cons hgroup _ ih =>
    obtain ⟨hne, hgroups⟩ := List.forall_mem_cons.mp hgroups
    obtain ⟨kss, hkss, hcs⟩ := ih hgroups
    obtain ⟨ks, c, hks, hjoin, hc⟩ := exists_group hne hgroup
    refine ⟨ks :: kss, .cons hks hkss, ?_⟩
    rw [List.filterMap_cons_some hjoin]
    exact .cons hc hcs

/-- The groups of a method name become one criteria, if there are any. -/
lemma MethodName.toCriteria_eq_ok {groups : List (List Condition)} {criteria : Option Criteria}
    (hgroups : ∀ group ∈ groups, group ≠ [])
    (h : MethodName.toCriteria entity groups = .ok criteria) :
    ∃ kss, List.Forall₂ (List.Forall₂ (Condition.Becomes entity)) groups kss ∧
      ((kss = [] ∧ criteria = none) ∨ ∃ c, criteria = some c ∧ AnyOf kss c) := by
  obtain ⟨css, hcss, h⟩ := exists_of_bind_eq_ok h
  obtain rfl := Except.ok.inj h
  obtain ⟨kss, hkss, hcs⟩ := exists_groups (forall₂_of_mapM_eq_ok hcss) hgroups
  rcases joinAll_or_eq hcs with ⟨rfl, hnone⟩ | ⟨c, hsome, hc⟩
  · exact ⟨[], hkss, .inl ⟨rfl, hnone⟩⟩
  · exact ⟨kss, hkss, .inr ⟨c, hsome, hc⟩⟩

/-- Joined criteria have the comparisons of all of them. -/
lemma Criteria.comparisons_joinAll {join : Criteria → Criteria → Criteria}
    (hjoin : ∀ left right, (join left right).comparisons = left.comparisons ++ right.comparisons)
    (cs : List Criteria) : (joinAll join cs).elim [] comparisons = cs.flatMap comparisons := by
  cases cs with
  | nil => rfl
  | cons first rest =>
    rw [joinAll, Option.elim_some]
    induction rest generalizing first with
    | nil => simp
    | cons next rest ih => rw [List.foldl_cons, ih, List.flatMap_cons, hjoin]; simp

lemma comparisons_groups (css : List (List Criteria)) :
    (joinAll .or (css.filterMap (joinAll .and))).elim [] comparisons =
      css.flatten.flatMap comparisons := by
  rw [comparisons_joinAll fun _ _ => rfl]
  induction css with
  | nil => rfl
  | cons cs css ih =>
    have hgroup : (joinAll .and cs).elim [] comparisons = cs.flatMap comparisons :=
      comparisons_joinAll (fun _ _ => rfl) cs
    rw [List.flatten_cons, List.flatMap_append, ← hgroup, ← ih]
    cases hjoin : joinAll .and cs with
    | none => rw [List.filterMap_cons_none hjoin]; rfl
    | some c => rw [List.filterMap_cons_some hjoin]; rfl

/-- The conditions of a method become the comparisons of its criteria, whatever their groups. -/
lemma MethodName.comparisons_of_toCriteria {groups : List (List Condition)}
    {criteria : Option Criteria} (h : MethodName.toCriteria entity groups = .ok criteria) :
    List.Forall₂ (Condition.Becomes entity) groups.flatten (criteria.elim [] comparisons) := by
  obtain ⟨css, hcss, h⟩ := exists_of_bind_eq_ok h
  obtain rfl := Except.ok.inj h
  have hgroups : List.Forall₂ (List.Forall₂ fun part c => part.toCriteria entity = .ok c)
      groups css := (forall₂_of_mapM_eq_ok hcss).imp fun _ _ => forall₂_of_mapM_eq_ok
  obtain ⟨ks, heq, hks⟩ := exists_comparisons (List.rel_flatten hgroups)
  rw [comparisons_groups, heq, List.flatMap_map]
  simpa [comparisons] using hks

lemma MethodName.toCriteria_of_prepare {m : MethodName} {p : Prepared}
    (h : m.prepare entity = .ok p) : MethodName.toCriteria entity m.groups = .ok p.criteria := by
  obtain ⟨criteria, hcriteria, h⟩ := exists_of_bind_eq_ok h
  obtain ⟨_, -, h⟩ := exists_of_bind_eq_ok h
  obtain rfl := Except.ok.inj h
  exact hcriteria

lemma criteria_onPage? (q : Query) (page : Option Page) :
    (q.onPage? page).criteria = q.criteria := by
  cases page <;> rfl

namespace Prepared

variable {p : Prepared} {args : List Argument} {page : Option Page} {q : Query}

/-- The query of a call has the shape that the method says, and its criteria with the arguments in
it. -/
lemma bind_eq_ok (h : p.bind args page = .ok q) :
    ∃ criteria, q = (Query.mk criteria p.projection p.distinct p.sort p.limit none).onPage? page ∧
      ((p.criteria = none ∧ criteria = none) ∨
        ∃ c c' rest, p.criteria = some c ∧ criteria = some c' ∧ Takes c.resolve args c' rest) := by
  rw [Prepared.bind] at h
  split at h
  · exact absurd h throw_bind_ne_ok
  · cases hp : p.criteria with
    | none =>
      simp only [hp] at h
      obtain rfl := Except.ok.inj h
      exact ⟨none, rfl, .inl ⟨rfl, rfl⟩⟩
    | some c =>
      simp only [hp] at h
      obtain ⟨criteria, hcriteria, h⟩ := exists_of_bind_eq_ok h
      obtain ⟨c', hresolve, rfl⟩ := exists_of_map_eq_ok hcriteria
      obtain rfl := Except.ok.inj h
      exact ⟨some c', rfl, .inr ⟨c, c', _, rfl, rfl, Prod.ext hresolve rfl⟩⟩

/-- The criteria of a call is that of the method with the arguments in it. -/
lemma criteria_of_bind (h : p.bind args page = .ok q) :
    (p.criteria = none ∧ q.criteria = none) ∨
      ∃ c c' rest, p.criteria = some c ∧ q.criteria = some c' ∧ Takes c.resolve args c' rest := by
  obtain ⟨criteria, rfl, hcriteria⟩ := bind_eq_ok h
  rwa [criteria_onPage?]

/-- Every condition of a method is said by one comparison of a call, in the order of the name. -/
lemma isSaidBy_of_bind {m : MethodName} (hprepare : m.prepare entity = .ok p)
    (h : p.bind args page = .ok q) :
    List.Forall₂ (Condition.IsSaidBy entity) m.conditions (q.criteria.elim [] comparisons) := by
  have hconditions :=
    MethodName.comparisons_of_toCriteria (MethodName.toCriteria_of_prepare hprepare)
  rw [MethodName.conditions]
  rcases criteria_of_bind h with ⟨hp, hq⟩ | ⟨c, c', rest, hp, hq, htakes⟩
  · rw [hp] at hconditions
    rw [hq, List.forall₂_nil_right_iff.mp hconditions]
    exact .nil
  · rw [hp] at hconditions
    rw [hq]
    exact forall₂_comp hconditions (fills_comparisons htakes)
      fun _ _ _ hpart hk => hpart.isSaidBy hk

end Prepared

/-! ### The text of a call -/

/-- If no group is empty, the criteria of a call has one comparison for every condition, in the
order of the name, and none without conditions. However its values are written, its text is true
exactly when all comparisons of one of the groups are. -/
theorem MethodName.text_means_groups {m : MethodName} {p : Prepared} {args : List Argument}
    {page : Option Page} {q : Query} (hgroups : ∀ group ∈ m.groups, group ≠ [])
    (hprepare : m.prepare entity = .ok p) (hbind : p.bind args page = .ok q) :
    ∃ kss : List (List Comparison),
      List.Forall₂ (List.Forall₂ (Condition.IsSaidBy entity)) m.groups kss ∧
      ((m.groups = [] ∧ q.criteria = none) ∨
        ∃ (c : Criteria) (f : Formula Comparison), q.criteria = some c ∧
          c.comparisons = kss.flatten ∧ f.leaves = kss.flatten ∧
          (∀ truth, f.eval truth = kss.any (·.all truth)) ∧
          ∀ how : Rendering, how.Reads c f) := by
  obtain ⟨kss, hkss, hcriteria⟩ := toCriteria_eq_ok hgroups (toCriteria_of_prepare hprepare)
  rcases Prepared.criteria_of_bind hbind with ⟨hnone, hq⟩ | ⟨c, c', rest, hsome, hq, htakes⟩
  · rcases hcriteria with ⟨rfl, -⟩ | ⟨c, hc, -⟩
    · have hnil : m.groups = [] := List.forall₂_nil_right_iff.mp hkss
      exact ⟨[], hnil ▸ .nil, .inl ⟨hnil, hq⟩⟩
    · exact absurd (hnone.symm.trans hc) (by simp)
  · rcases hcriteria with ⟨-, hnone⟩ | ⟨d, hd, hanyOf⟩
    · exact absurd (hsome.symm.trans hnone) (by simp)
    · obtain rfl : c = d := Option.some.inj (hsome.symm.trans hd)
      obtain ⟨kss', hanyOf', hfills⟩ := hanyOf.exists_of_takes htakes
      have hsaid : List.Forall₂ (List.Forall₂ (Condition.IsSaidBy entity)) m.groups kss' :=
        forall₂_comp hkss hfills fun _ _ _ hks hks' =>
          forall₂_comp hks hks' fun _ _ _ hk hk' => hk.isSaidBy hk'
      have hready : ∀ ks ∈ kss', ∀ k ∈ ks, k.IsReady :=
        forall_mem_of_forall₂ hsaid fun _ _ hks =>
          forall_mem_of_forall₂ hks fun _ _ hk => hk.isReady
      obtain ⟨hreadable, -⟩ : c'.Says (fun _ => true) _ := hanyOf'.says_any hready
      obtain ⟨f, hleaves, heval, hreads⟩ := hreadable.reads
      have hcomparisons := hanyOf'.comparisons_eq
      exact ⟨kss', hsaid, .inr ⟨c', f, hq, hcomparisons, hleaves.trans hcomparisons,
        fun truth => (heval truth).trans (hanyOf'.says_any hready).2, hreads⟩⟩

/-- The name holds no such part and the age lies between two bounds, or the name is null. -/
def MethodName.twoGroups : MethodName :=
  .or (.ofConditions [⟨.notContaining, "name", .ignoredWherePossible⟩, ⟨.between, "age", .exact⟩])
    [⟨.isNull, "name", .exact⟩]

theorem MethodName.text_of_twoGroups :
    (∀ group ∈ twoGroups.groups, group ≠ []) ∧ ∃ p q,
      twoGroups.prepare .person = .ok p ∧
      p.bind [.value (.string "(or"), .value (.int 1), .value (.int 9)] none = .ok q ∧
      ∃ kss : List (List Comparison),
        List.Forall₂ (List.Forall₂ (Condition.IsSaidBy .person)) twoGroups.groups kss ∧
        ((twoGroups.groups = [] ∧ q.criteria = none) ∨
          ∃ (c : Criteria) (f : Formula Comparison), q.criteria = some c ∧
            c.comparisons = kss.flatten ∧ f.leaves = kss.flatten ∧
            (∀ truth, f.eval truth = kss.any (·.all truth)) ∧
            ∀ how : Rendering, how.Reads c f) := by
  obtain ⟨q, h⟩ := exists_of_isOk (x := twoGroups.prepare .person >>= fun p =>
    p.bind [.value (.string "(or"), .value (.int 1), .value (.int 9)] none) (by decide)
  obtain ⟨p, hprepare, hbind⟩ := exists_of_bind_eq_ok h
  exact ⟨by decide, p, q, hprepare, hbind, text_means_groups (by decide) hprepare hbind⟩

end DocQuery
