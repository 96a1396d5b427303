import DocQuery.Proofs.MethodName.Arguments
import DocQuery.Proofs.Predicate.Forms
import DocQuery.Request
/-!
# Two ways to say a query

A condition of a method name, with its arguments, says what a predicate says of a property and
constants. A method whose conditions are joined by one connective and the request by predicates
with the same connective are the same query (`agrees_with_predicate`).
-/

namespace DocQuery

open Taking

/-! ### Conditions and predicates -/

/-- The predicate over the operands that says what a condition of the kind says; none for a kind
that predicates do not know. -/
def Condition.Kind.predicate? (operands : List Predicate) : Kind → Option Predicate
  | .is => some (.operation .eq operands)
  | .isNot => some (.operation .ne operands)
  | .lessThan | .before => some (.operation .lt operands)
  | .lessThanEqual => some (.operation .lte operands)
  | .greaterThan | .after => some (.operation .gt operands)
  | .greaterThanEqual => some (.operation .gte operands)
  | .between => some (.operation .between operands)
  | .isNull => some (.operation .isNull operands)
  | .isNotNull => some (.operation .isNotNull operands)
  | .like => some (.operation .like operands)
  | .notLike => some (.operation .not [.operation .like operands])
  | .startingWith => some (.operation .startsWith operands)
  | .endingWith => some (.operation .endsWith operands)
  | .containing => some (.operation .contains operands)
  | .notContaining => some (.operation .not [.operation .contains operands])
  | .isIn => some (.operation .isIn operands)
  | .isNotIn => some (.operation .isNotIn operands)
  | .regex => some (.operation .regex operands)
  | .isTrue | .isFalse | .exists | .near | .within | .isEmpty | .isNotEmpty => none

/-- A condition and the arguments that it takes. -/
structure Condition.Call where
  condition : Condition
  args : List Argument

namespace Condition.Call

/-- The predicate that says what the condition says of its arguments. -/
def predicate? (call : Call) : Option Predicate :=
  call.condition.kind.predicate? (.path call.condition.property :: call.args.map .constant)

/-- The condition takes letter case as it is, and its arguments as predicates take them: sets where
it looks for members, and texts where it looks for patterns. -/
structure IsPlain (call : Call) : Prop where
  exact : call.condition.letterCase = .exact
  length : call.args.length = call.condition.kind.argumentCount
  sets : call.condition.kind = .isIn ∨ call.condition.kind = .isNotIn →
    ∀ a ∈ call.args, a.isSet = true
  texts : call.condition.kind = .regex → ∀ a ∈ call.args, a.isText = true

end Condition.Call

/-! ### Leaves -/

variable {entity : Entity}

/-- A test of a stored field as it is. -/
def Criteria.plain (test : Test) (field : FieldPath) : Criteria :=
  .comparison ⟨field, none, none, test⟩ false false

lemma Criterion.test_eq_plain (field : FieldPath) (test : Test) :
    (on field).test test = .plain test field := by
  cases test with
  | check k => rfl
  | relation r operand => cases r <;> rfl
  | between low high => rfl

lemma Condition.toCriteria_eq_plain {c : Condition} (hexact : c.letterCase = .exact) {test : Test}
    (htest : c.kind.test? = some test) :
    c.toCriteria entity = Criteria.plain test <$> entity.resolve c.property := by
  rw [toCriteria, htest, hexact]
  cases entity.resolve c.property with
  | error fault => rfl
  | ok field => exact congrArg Except.ok (Criterion.test_eq_plain field test)

namespace Predicate

variable (logical : String) (a : Argument)

lemma comparison_path (op : Op) (r converse : Relation) :
    comparison entity op r converse [.path logical, .constant a] =
      Criteria.plain (.relation r (.value a.toValue)) <$> entity.resolve logical := by
  rw [comparison, sides]
  cases entity.resolve logical with
  | error fault => rfl
  | ok field => exact congrArg Except.ok (Criterion.test_eq_plain field _)

lemma stringMatch_path (op : Op) (r : Relation) :
    stringMatch entity op r [.path logical, .constant a] =
      Criteria.plain (.relation r (.value a.toValue)) <$> entity.resolve logical := by
  rw [stringMatch, sides]
  cases entity.resolve logical with
  | error fault => rfl
  | ok field => exact congrArg Except.ok (Criterion.test_eq_plain field _)

lemma membership_path (op : Op) (r scalar : Relation) (ha : a.isSet = true) :
    membership entity op r scalar [.path logical, .constant a] =
      Criteria.plain (.relation r (.value a.toValue)) <$> entity.resolve logical := by
  rw [membership, sides]
  cases entity.resolve logical with
  | error fault => rfl
  | ok field =>
    cases a with
    | enum name => exact absurd ha (by simp [Argument.isSet])
    | collection items => exact congrArg Except.ok (Criterion.test_eq_plain field _)
    | value v =>
      cases v with
      | array items => exact congrArg Except.ok (Criterion.test_eq_plain field _)
      | _ => exact absurd ha (by simp [Argument.isSet])

lemma between_path (low high : Argument) :
    between entity [.path logical, .constant low, .constant high] =
      Criteria.plain (.between (.value low.toValue) (.value high.toValue)) <$>
        entity.resolve logical := by
  rw [between]
  cases entity.resolve logical with
  | error fault => rfl
  | ok field => exact congrArg Except.ok (Criterion.test_eq_plain field _)

lemma check_path (op : Op) (k : Check) :
    (do return (← onlyField entity op [.path logical]).check k) =
      Criteria.plain (.check k) <$> entity.resolve logical := by
  rw [onlyField]
  cases entity.resolve logical with
  | error fault => rfl
  | ok field => exact congrArg Except.ok (Criterion.test_eq_plain field _)

/-- The negation of a test that has an opposite is the opposite test. -/
lemma toCriteria_not_plain {child : Predicate} (hchild : ∀ inner, child ≠ .operation .isIn inner)
    {test test' : Test} (hopposite : test.opposite? = some test')
    (h : child.toCriteria entity = Criteria.plain test <$> entity.resolve logical) :
    toCriteria entity (.operation .not [child]) =
      Criteria.plain test' <$> entity.resolve logical := by
  rw [toCriteria_not entity hchild, h]
  cases entity.resolve logical with
  | error fault => rfl
  | ok field =>
    have hnegate : (Criteria.plain test field).negate = Criteria.plain test' field := by
      simp [Criteria.plain, Criteria.negate, hopposite]
    exact congrArg Except.ok hnegate

end Predicate

/-! ### One condition -/

namespace Condition.Call

/-- Condition and predicate become tests of the same field, of which the second has the arguments
where the first waits for them; or the field cannot be resolved. -/
def Agrees (entity : Entity) (call : Call) (p : Predicate) : Prop :=
  ∃ test test' : Test,
    call.condition.toCriteria entity =
      Criteria.plain test <$> entity.resolve call.condition.property ∧
    p.toCriteria entity = Criteria.plain test' <$> entity.resolve call.condition.property ∧
    ∀ rest, Takes test.resolve (call.args ++ rest) test' rest

variable {call : Call} {p : Predicate}

lemma agrees_relation {r : Relation} {conversion : Argument.Conversion} {a : Argument} {v : Value}
    (hexact : call.condition.letterCase = .exact) (hargs : call.args = [a])
    (htest : call.condition.kind.test? = some (.relation r (.deferred conversion)))
    (hv : conversion.apply a = .ok v)
    (hp : p.toCriteria entity =
      Criteria.plain (.relation r (.value v)) <$> entity.resolve call.condition.property) :
    call.Agrees entity p := by
  refine ⟨_, _, toCriteria_eq_plain hexact htest, hp, fun rest => ?_⟩
  rw [hargs]
  exact takes_bind (Operand.takes_deferred hv rest) (takes_pure.mpr ⟨rfl, rfl⟩)

lemma agrees_check {k : Check} (hexact : call.condition.letterCase = .exact)
    (hargs : call.args = []) (htest : call.condition.kind.test? = some (.check k))
    (hp : p.toCriteria entity =
      Criteria.plain (.check k) <$> entity.resolve call.condition.property) :
    call.Agrees entity p := by
  refine ⟨_, _, toCriteria_eq_plain hexact htest, hp, fun rest => ?_⟩
  rw [hargs]
  exact takes_pure.mpr ⟨rfl, rfl⟩

lemma agrees_between {low high : Argument} (hexact : call.condition.letterCase = .exact)
    (hargs : call.args = [low, high]) (hkind : call.condition.kind = .between)
    (hp : p.toCriteria entity =
      Criteria.plain (.between (.value low.toValue) (.value high.toValue)) <$>
        entity.resolve call.condition.property) :
    call.Agrees entity p := by
  have htest : call.condition.kind.test? =
      some (.between (.deferred .scalar) (.deferred .scalar)) := by rw [hkind]; rfl
  refine ⟨_, _, toCriteria_eq_plain hexact htest, hp, fun rest => ?_⟩
  rw [hargs]
  exact takes_bind (Operand.takes_deferred rfl _)
    (takes_bind (Operand.takes_deferred rfl _) (takes_pure.mpr ⟨rfl, rfl⟩))

/-- The predicate of a condition agrees with it. Operations on predicates take one test each, but
for the negations, which turn over the test of what they negate. -/
lemma agrees_of_isPlain (h : call.IsPlain) (hp : call.predicate? = some p) :
    call.Agrees entity p := by
  obtain ⟨⟨kind, property, letterCase⟩, args⟩ := call
  obtain ⟨hexact, hlength, hsets, htexts⟩ := h
  cases kind with
  | is | isNot | lessThan | before | lessThanEqual | greaterThan | after | greaterThanEqual =>
    obtain ⟨a, rfl⟩ := List.length_eq_one_iff.mp hlength
    obtain rfl := Option.some.inj hp
    exact agrees_relation hexact rfl rfl rfl (Predicate.comparison_path property a _ _ _)
  | like | startingWith | endingWith | containing =>
    obtain ⟨a, rfl⟩ := List.length_eq_one_iff.mp hlength
    obtain rfl := Option.some.inj hp
    exact agrees_relation hexact rfl rfl rfl (Predicate.stringMatch_path property a _ _)
  | notLike | notContaining =>
    obtain ⟨a, rfl⟩ := List.length_eq_one_iff.mp hlength
    obtain rfl := Option.some.inj hp
    have hpositive := @Predicate.stringMatch_path entity property a
    exact agrees_relation hexact rfl rfl rfl
      (Predicate.toCriteria_not_plain property (by simp) rfl (hpositive _ _))
  | isIn =>
    obtain ⟨a, rfl⟩ := List.length_eq_one_iff.mp hlength
    obtain rfl := Option.some.inj hp
    have hset := hsets (.inl rfl) a (by simp)
    exact agrees_relation hexact rfl rfl (Argument.toSet_of_isSet hset)
      (Predicate.membership_path property a .isIn .isIn .eq hset)
  | isNotIn =>
    obtain ⟨a, rfl⟩ := List.length_eq_one_iff.mp hlength
    obtain rfl := Option.some.inj hp
    have hset := hsets (.inr rfl) a (by simp)
    exact agrees_relation hexact rfl rfl (Argument.toSet_of_isSet hset)
      (Predicate.membership_path property a .isNotIn .isNotIn .ne hset)
  | regex =>
    obtain ⟨a, rfl⟩ := List.length_eq_one_iff.mp hlength
    obtain rfl := Option.some.inj hp
    have htext := htexts rfl a (by simp)
    exact agrees_relation hexact rfl rfl (Argument.toPattern_of_isText htext)
      (Predicate.stringMatch_path property a .regex .regex)
  | between =>
    obtain ⟨low, high, rfl⟩ := List.length_eq_two.mp hlength
    obtain rfl := Option.some.inj hp
    exact agrees_between hexact rfl rfl (Predicate.between_path property low high)
  | isNull =>
    obtain rfl := List.length_eq_zero_iff.mp hlength
    obtain rfl := Option.some.inj hp
    exact agrees_check hexact rfl rfl (Predicate.check_path property .isNull .isNull)
  | isNotNull =>
    obtain rfl := List.length_eq_zero_iff.mp hlength
    obtain rfl := Option.some.inj hp
    exact agrees_check hexact rfl rfl (Predicate.check_path property .isNotNull .isNotNull)
  | _ => exact absurd hp (by simp [predicate?, Kind.predicate?])

/-- The criteria of several conditions, and those of their predicates: each takes the arguments of
its condition, and none is a chain. -/
inductive Fill : List Call → List Criteria → List Criteria → Prop where
  | nil : Fill [] [] []
  | cons {call c d calls cs ds} (hc : ∀ rest, Takes c.resolve (call.args ++ rest) d rest)
      (hd : d.operator.isChain = false) (h : Fill calls cs ds) :
      Fill (call :: calls) (c :: cs) (d :: ds)

variable {calls : List Call} {ps : List Predicate}

lemma Fill.isChain_eq {cs ds : List Criteria} (h : Fill calls cs ds) :
    ∀ d ∈ ds, d.operator.isChain = false := by
  induction h with
  | nil => simp
  | cons _ hd _ ih => exact List.forall_mem_cons.mpr ⟨hd, ih⟩

/-- A chain from the left takes the arguments from the left. -/
lemma Fill.foldl {cs ds : List Criteria} (h : Fill calls cs ds) (j : Junction) {c d : Criteria}
    {args : List Argument} (hc : ∀ rest, Takes c.resolve (args ++ rest) d rest)
    (rest : List Argument) :
    Takes (cs.foldl (fun left right => .junction j left right false false) c).resolve
      (args ++ (calls.flatMap (·.args) ++ rest))
      (ds.foldl (fun left right => .junction j left right false false) d) rest := by
  induction h generalizing c d args with
  | nil => exact hc rest
  | @cons call c' d' calls cs ds hc' hd h ih =>
    have hjoin : ∀ rest, Takes (Criteria.junction j c c' false false).resolve
        (args ++ call.args ++ rest) (.junction j d d' false false) rest := by
      intro rest
      rw [List.append_assoc]
      exact takes_bind (hc _) (takes_bind (hc' rest) (takes_pure.mpr ⟨rfl, rfl⟩))
    rw [List.flatMap_cons, List.append_assoc, ← List.append_assoc args]
    exact ih hjoin

/-- Conditions and predicates fail alike, or the criteria of the first take the arguments to become
those of the second. -/
lemma exists_fill (h : List.Forall₂ (Agrees entity) calls ps) :
    (∃ fault, (calls.map (·.condition)).mapM (Condition.toCriteria entity) = .error fault ∧
      Predicate.toCriteriaList entity ps = .error fault) ∨
    ∃ cs ds, (calls.map (·.condition)).mapM (Condition.toCriteria entity) = .ok cs ∧
      Predicate.toCriteriaList entity ps = .ok ds ∧ Fill calls cs ds := by
  induction h with
  | nil => exact .inr ⟨[], [], rfl, rfl, .nil⟩
  | @cons call p calls ps hagrees _ ih =>
    obtain ⟨test, test', hcondition, hpredicate, htakes⟩ := hagrees
    rw [List.map_cons, List.mapM_cons, Predicate.toCriteriaList, hcondition, hpredicate]
    cases entity.resolve call.condition.property with
    | error fault => exact .inl ⟨fault, rfl, rfl⟩
    | ok field =>
      rcases ih with ⟨fault, hcs, hds⟩ | ⟨cs, ds, hcs, hds, hfill⟩
      · rw [hcs, hds]
        exact .inl ⟨fault, rfl, rfl⟩
      · rw [hcs, hds]
        have hc : ∀ rest, Takes (Criteria.plain test field).resolve (call.args ++ rest)
            (Criteria.plain test' field) rest := fun rest =>
          takes_bind (htakes rest) (takes_pure.mpr ⟨rfl, rfl⟩)
        have hd : (Criteria.plain test' field).operator.isChain = false := by
          cases test' <;> rfl
        exact .inr ⟨_, _, rfl, rfl, .cons hc hd hfill⟩

end Condition.Call

/-! ### Conditions under one connective -/

/-- The groups of conditions that are all joined by one connective. -/
def MethodName.groupsOf : Junction → List Condition → List (List Condition)
  | .and, conditions => [conditions]
  | .or, conditions => conditions.map fun condition => [condition]

/-- The operation of a connective. -/
def Predicate.Op.ofJunction : Junction → Predicate.Op
  | .and => .and
  | .or => .or

lemma Predicate.Op.junction?_ofJunction (j : Junction) : (ofJunction j).junction? = some j := by
  cases j <;> rfl

/-- The predicates under one connective, if there are several. -/
def Predicate.joined (j : Junction) : List Predicate → Predicate
  | [p] => p
  | ps => .operation (.ofJunction j) ps

lemma Predicate.joined_cons_cons (j : Junction) (first second : Predicate) (rest : List Predicate) :
    joined j (first :: second :: rest) =
      .operation (.ofJunction j) (first :: second :: rest) := rfl

lemma MethodName.toCriteria_groupsOf (j : Junction) (conditions : List Condition) :
    MethodName.toCriteria entity (groupsOf j conditions) =
      Criteria.joinAll (fun left right => .junction j left right false false) <$>
        conditions.mapM (Condition.toCriteria entity) := by
  cases j with
  | and =>
    rw [groupsOf, MethodName.toCriteria, List.mapM_cons]
    cases conditions.mapM (Condition.toCriteria entity) with
    | error fault => rfl
    | ok cs => cases cs <;> rfl
  | or =>
    have hgroups : (conditions.map fun condition => [condition]).mapM
          (fun group => group.mapM (Condition.toCriteria entity)) =
        (List.map fun c => [c]) <$> conditions.mapM (Condition.toCriteria entity) := by
      induction conditions with
      | nil => rfl
      | cons condition conditions ih =>
        rw [List.map_cons, List.mapM_cons, List.mapM_cons, List.mapM_cons, ih]
        cases condition.toCriteria entity with
        | error fault => rfl
        | ok c => cases conditions.mapM (Condition.toCriteria entity) <;> rfl
    rw [groupsOf, MethodName.toCriteria, hgroups]
    cases conditions.mapM (Condition.toCriteria entity) with
    | error fault => rfl
    | ok cs =>
      have hsingles : (cs.map fun c => [c]).filterMap (Criteria.joinAll .and) = cs := by
        rw [List.filterMap_map]
        exact List.filterMap_some
      exact congrArg (fun cs => Except.ok (Criteria.joinAll .or cs)) hsingles

namespace Predicate

variable {ps : List Predicate}

lemma chain_of_not_isChain {d : Criteria} {ds : List Criteria} (j : Junction)
    (h : ∀ e ∈ d :: ds, e.operator.isChain = false) :
    chain j d ds = ds.foldl (fun left right => .junction j left right false false) d := by
  have hoperand : ∀ e ∈ d :: ds, chainOperand j e = e := by
    intro e he
    rw [chainOperand, if_neg (by simp [h e he])]
  rw [chain_eq_foldl, hoperand d (by simp),
    List.map_congr_left fun e he => hoperand e (List.mem_cons_of_mem d he), List.map_id']

/-- Criteria that are no chains are chained as they are. -/
lemma toCriteria_joined (j : Junction) (hne : ps ≠ [])
    (h : ∀ ds, toCriteriaList entity ps = .ok ds → ∀ d ∈ ds, d.operator.isChain = false) :
    some <$> (joined j ps).toCriteria entity =
      Criteria.joinAll (fun left right => .junction j left right false false) <$>
        toCriteriaList entity ps := by
  rcases ps with _ | ⟨p, _ | ⟨p', ps⟩⟩
  · exact absurd rfl hne
  · rw [joined, toCriteriaList, toCriteriaList]
    cases p.toCriteria entity <;> rfl
  · rw [joined_cons_cons, toCriteria_junction entity (Op.junction?_ofJunction j)]
    rw [toCriteriaList, toCriteriaList] at h ⊢
    cases hd : p.toCriteria entity with
    | error fault => rfl
    | ok d =>
      cases hd' : p'.toCriteria entity with
      | error fault => rfl
      | ok d' =>
        cases hds : toCriteriaList entity ps with
        | error fault => rfl
        | ok ds =>
          rw [hd, hd', hds] at h
          have hchain := chain_of_not_isChain j (h (d :: d' :: ds) rfl)
          exact congrArg (fun c => Except.ok (some c)) hchain

end Predicate

/-! ### Methods and requests -/

/-- The query of a call of a method. -/
def MethodName.call (m : MethodName) (entity : Entity) (args : List Argument)
    (page : Option Page) : Except Fault Query := do
  (← m.prepare entity).bind args page

/-- The request by predicate for the same result as that of a method. -/
def MethodName.request (m : MethodName) (name : String) (p : Predicate) (page : Option Page) :
    PredicateRequest :=
  ⟨name, some p, m.projection, m.distinct, m.sort, m.limit, none, page⟩

lemma MethodRequest.toQuery_of_decode {r : MethodRequest} {m : MethodName}
    (h : MethodName.decode r.method = .ok m) : r.toQuery entity = m.call entity r.args r.page := by
  rw [toQuery, h]
  rfl

lemma PredicateRequest.criteria_toQuery {r : PredicateRequest} {p : Predicate}
    (h : r.condition = some p) :
    Query.criteria <$> r.toQuery entity = some <$> p.toCriteria entity := by
  rw [toQuery, h]
  simp only
  cases p.toCriteria entity with
  | error fault => rfl
  | ok c => exact congrArg Except.ok (criteria_onPage? _ r.page)

namespace MethodName

variable {m : MethodName} {calls : List Condition.Call} {ps : List Predicate}

lemma call_eq_toQuery (j : Junction) (hne : calls ≠ [])
    (hagree : List.Forall₂ (Condition.Call.Agrees entity) calls ps)
    (hgroups : m.groups = groupsOf j (calls.map (·.condition)))
    (hsort : Query.IsResolvable entity m.sort) (name : String) (page : Option Page) :
    m.call entity (calls.flatMap (·.args)) page =
      (m.request name (.joined j ps) page).toQuery entity := by
  have hps : ps ≠ [] := by
    rintro rfl
    exact hne (List.forall₂_nil_right_iff.mp hagree)
  rw [call, prepare_of_isResolvable hsort, hgroups, toCriteria_groupsOf, PredicateRequest.toQuery]
  rcases Condition.Call.exists_fill hagree with ⟨fault, hcs, hds⟩ | ⟨cs, ds, hcs, hds, hfill⟩
  · have hjoined := Predicate.toCriteria_joined j hps fun ds hds' =>
      absurd (hds.symm.trans hds') (by simp)
    rw [hcs, request]
    simp only [hjoined, hds]
    rfl
  · have hjoined := Predicate.toCriteria_joined j hps fun ds' hds' =>
      Except.ok.inj (hds.symm.trans hds') ▸ hfill.isChain_eq
    rw [hcs, request]
    simp only [hjoined, hds]
    cases hfill with
    | nil => exact absurd rfl hne
    | cons hc _ hfill =>
      have htakes := hfill.foldl j hc []
      rw [List.append_nil] at htakes
      exact Prepared.bind_of_takes rfl htakes page

/-- A method whose conditions are all joined by one connective, and the request by the predicates
of its conditions under that connective, have the same criteria and are the same query with the
same statements, or are refused with the same fault. So are requests by a name of the method. -/
theorem agrees_with_predicate (j : Junction) (hne : calls ≠ [])
    (hplain : ∀ call ∈ calls, call.IsPlain)
    (hps : List.Forall₂ (fun call p => call.predicate? = some p) calls ps)
    (hgroups : m.groups = groupsOf j (calls.map (·.condition)))
    (hsort : Query.IsResolvable entity m.sort) (name : String) (page : Option Page) :
    Query.criteria <$> m.call entity (calls.flatMap (·.args)) page =
      some <$> (Predicate.joined j ps).toCriteria entity ∧
    m.call entity (calls.flatMap (·.args)) page =
      (m.request name (.joined j ps) page).toQuery entity ∧
    (∀ ctx : Context,
      (do (← m.call entity (calls.flatMap (·.args)) page).compile ctx) =
        (do (← (m.request name (.joined j ps) page).toQuery entity).compile ctx) ∧
      (do (← m.call entity (calls.flatMap (·.args)) page).compileCount ctx) =
        (do (← (m.request name (.joined j ps) page).toQuery entity).compileCount ctx)) ∧
    ∀ method, decode method = .ok m →
      (MethodRequest.mk name method (calls.flatMap (·.args)) page).toQuery entity =
        (m.request name (.joined j ps) page).toQuery entity := by
  have hagree : List.Forall₂ (Condition.Call.Agrees entity) calls ps :=
    ((List.forall₂_and_left calls ps).mpr ⟨hplain, hps⟩).imp
      fun _ _ h => Condition.Call.agrees_of_isPlain h.1 h.2
  have hcall := call_eq_toQuery j hne hagree hgroups hsort name page
  refine ⟨?_, hcall, ?_, ?_⟩
  · rw [hcall]
    exact PredicateRequest.criteria_toQuery rfl
  · intro ctx
    rw [hcall]
    exact ⟨rfl, rfl⟩
  · intro method hdecode
    rw [← hcall]
    exact MethodRequest.toQuery_of_decode hdecode

/-- The name is not like a pattern, the age lies between two bounds and is one of a set, and the
name matches a pattern. -/
def fourCalls : List Condition.Call :=
  [⟨⟨.notLike, "name", .exact⟩, [.value (.string "A%")]⟩,
    ⟨⟨.between, "age", .exact⟩, [.value (.int 1), .value (.int 9)]⟩,
    ⟨⟨.isIn, "age", .exact⟩, [.collection [.value (.int 5), .enum "Six"]]⟩,
    ⟨⟨.regex, "name", .exact⟩, [.enum "B*"]⟩]

/-- The same in predicates. -/
def fourPredicates : List Predicate :=
  [.operation .not [.operation .like [.path "name", .constant (.value (.string "A%"))]],
    .operation .between
      [.path "age", .constant (.value (.int 1)), .constant (.value (.int 9))],
    .operation .isIn
      [.path "age", .constant (.collection [.value (.int 5), .enum "Six"])],
    .operation .regex [.path "name", .constant (.enum "B*")]]

theorem fourCalls_agree_with_predicate :
    ∃ q, (ofConditions (fourCalls.map (·.condition))).call .person
        (fourCalls.flatMap (·.args)) none = .ok q ∧
      ((ofConditions (fourCalls.map (·.condition))).request "Person"
        (.joined .and fourPredicates) none).toQuery .person = .ok q := by
  have hplain : ∀ call ∈ fourCalls, call.IsPlain := by
    simp only [fourCalls, List.forall_mem_cons]
    exact ⟨⟨rfl, rfl, by simp, by simp⟩, ⟨rfl, rfl, by simp, by simp⟩,
      ⟨rfl, rfl, by simp [Argument.isSet], by simp⟩,
      ⟨rfl, rfl, by simp, by simp [Argument.isText]⟩, by simp⟩
  have hps : List.Forall₂ (fun call p => call.predicate? = some p) fourCalls fourPredicates :=
    .cons rfl (.cons rfl (.cons rfl (.cons rfl .nil)))
  obtain ⟨q, hq⟩ := exists_of_isOk (x := (ofConditions (fourCalls.map (·.condition))).call .person
    (fourCalls.flatMap (·.args)) none) (by decide)
  have hsort : Query.IsResolvable .person (ofConditions (fourCalls.map (·.condition))).sort := by
    simp [Query.IsResolvable, ofConditions]
  obtain ⟨-, hquery, -, -⟩ := agrees_with_predicate .and (by simp [fourCalls]) hplain hps rfl hsort
    "Person" none
  exact ⟨q, hq, hquery.symm.trans hq⟩

end MethodName

end DocQuery
