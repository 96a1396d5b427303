import DocQuery.Proofs.Argument
import DocQuery.Proofs.Criteria.Arguments
import DocQuery.Proofs.Query.Placeholders
/-!
# The arguments of a method

The conditions of a method name take the arguments of a call one after the other, each as many as
its kind needs. All of them get into the statement, in the order of the call
(`arguments_in_order`).
-/

namespace DocQuery

open Taking

variable {entity : Entity}

/-! ### Conditions -/

namespace Condition.Kind

variable {kind : Kind} {a : Argument}

/-- How the arguments of a condition are converted. -/
def conversion : Kind → Argument.Conversion
  | .isIn | .isNotIn => .set
  | .regex => .pattern
  | _ => .scalar

/-- The argument suits the condition: null is no set, and a set is no pattern. -/
structure Accepts (kind : Kind) (a : Argument) : Prop where
  set : kind = .isIn ∨ kind = .isNotIn → a.isNull = false
  pattern : kind = .regex → a.isSet = false

/-- An argument can be converted exactly if it suits the condition. -/
lemma accepts_conversion_iff : kind.conversion.Accepts a ↔ kind.Accepts a := by
  constructor
  · intro h
    constructor
    · rintro (rfl | rfl) <;> exact h
    · rintro rfl
      exact h
  · intro h
    cases kind with
    | isIn => exact h.set (.inl rfl)
    | isNotIn => exact h.set (.inr rfl)
    | regex => exact h.pattern rfl
    | _ => trivial

/-- The operands of a condition wait for its arguments. -/
lemma operands_of_test? {test : Test} (h : kind.test? = some test) :
    test.operands = List.replicate kind.argumentCount (.deferred kind.conversion) := by
  cases kind <;> cases h <;> rfl

end Condition.Kind

/-! ### Operands that all wait -/

/-- The operand that waits for an argument of a condition. -/
def Operand.waiting (kind : Condition.Kind) : Operand := .deferred kind.conversion

lemma Filled.exists_values {kinds : List Condition.Kind} {args : List Argument} {os' : List Operand}
    (h : Filled (kinds.map Operand.waiting) args os') :
    ∃ values, os' = values.map .value ∧
      (kinds.zip args).mapM (fun (kind, a) => kind.conversion.apply a) = .ok values := by
  induction kinds generalizing args os' with
  | nil =>
    cases h
    exact ⟨[], rfl, rfl⟩
  | cons kind kinds ih =>
    cases h with
    | @deferred _ a v _ args os' hv h =>
      obtain ⟨values, rfl, hvalues⟩ := ih h
      refine ⟨v :: values, rfl, ?_⟩
      rw [List.zip_cons_cons, List.mapM_cons, hvalues]
      simp only [hv]
      rfl

/-- Waiting operands can be filled exactly with arguments that suit them. -/
lemma exists_filled_iff {kinds : List Condition.Kind} {args : List Argument} :
    (∃ os', Filled (kinds.map Operand.waiting) args os') ↔
      List.Forall₂ Condition.Kind.Accepts kinds args := by
  have hwaits : Operand.conversion? ∘ Operand.waiting = some ∘ Condition.Kind.conversion := rfl
  rw [Filled.exists_iff, List.filterMap_map, hwaits, ← List.filterMap_map, List.filterMap_some,
    List.forall₂_map_left_iff]
  simp only [Condition.Kind.accepts_conversion_iff]

/-! ### Methods -/

/-- A call brings an argument for every operand that waits. -/
lemma Prepared.argumentCount_eq_countP (p : Prepared) :
    p.argumentCount = (p.criteria.elim [] Criteria.allOperands).countP Operand.isDeferred := by
  rw [argumentCount]
  cases p.criteria with
  | none => rfl
  | some c => exact c.deferredCount_eq_countP_allOperands

namespace MethodName

variable {m : MethodName} {p : Prepared}

/-- For every argument of a call the kind of the condition that takes it. -/
def parameters (m : MethodName) : List Condition.Kind :=
  m.conditions.flatMap fun c => List.replicate c.kind.argumentCount c.kind

lemma length_parameters (m : MethodName) : m.parameters.length = m.argumentCount := by
  have hfold : ∀ (cs : List Condition) (n : Nat),
      cs.foldl (fun n c => n + c.kind.argumentCount) n =
        n + (cs.flatMap fun c => List.replicate c.kind.argumentCount c.kind).length := by
    intro cs
    induction cs with
    | nil => simp
    | cons c cs ih => simp [ih, Nat.add_assoc]
  rw [parameters, argumentCount, hfold, Nat.zero_add]

/-- An order whose properties are looked up one after the other can be resolved. -/
lemma isResolvable_of_forIn {sort : List Order} {u : PUnit}
    (h : (forIn sort PUnit.unit fun order _ => do
      discard (entity.resolve order.property)
      pure (ForInStep.yield PUnit.unit)) = (Except.ok u : Except Fault PUnit)) :
    Query.IsResolvable entity sort := by
  induction sort with
  | nil => simp [Query.IsResolvable]
  | cons order sort ih =>
    rw [List.forIn_cons] at h
    obtain ⟨step, hstep, h⟩ := exists_of_bind_eq_ok h
    obtain ⟨_, hdiscard, hstep⟩ := exists_of_bind_eq_ok hstep
    obtain rfl := Except.ok.inj hstep
    obtain ⟨field, hfield, -⟩ := exists_of_map_eq_ok hdiscard
    exact List.forall_mem_cons.mpr ⟨⟨field, hfield⟩, ih h⟩

/-- A prepared method keeps its order, which can be resolved. -/
lemma sort_of_prepare (h : m.prepare entity = .ok p) :
    p.sort = m.sort ∧ Query.IsResolvable entity m.sort := by
  obtain ⟨criteria, -, h⟩ := exists_of_bind_eq_ok h
  obtain ⟨_, hsort, h⟩ := exists_of_bind_eq_ok h
  obtain rfl := Except.ok.inj h
  exact ⟨rfl, isResolvable_of_forIn hsort⟩

/-- If the order can be resolved, preparing a method is translating its conditions. -/
lemma prepare_of_isResolvable (h : Query.IsResolvable entity m.sort) :
    m.prepare entity =
      (fun criteria => ⟨criteria, m.projection, m.distinct, m.limit, m.sort⟩) <$>
        toCriteria entity m.groups := by
  have hlookups : ∀ {sort : List Order}, Query.IsResolvable entity sort →
      (forIn sort PUnit.unit fun order _ => do
        discard (entity.resolve order.property)
        pure (ForInStep.yield PUnit.unit)) = (Except.ok PUnit.unit : Except Fault PUnit) := by
    intro sort hsort
    induction sort with
    | nil => rfl
    | cons order sort ih =>
      obtain ⟨⟨field, hfield⟩, hsort⟩ := List.forall_mem_cons.mp hsort
      rw [List.forIn_cons, hfield]
      exact ih hsort
  rw [prepare, hlookups h]
  cases toCriteria entity m.groups <;> rfl

/-- The operands of a prepared method wait for its parameters. -/
lemma operands_of_prepare (h : m.prepare entity = .ok p) :
    p.criteria.elim [] Criteria.allOperands = m.parameters.map Operand.waiting := by
  have hoperands : ∀ {conditions : List Condition} {ks : List Comparison},
      List.Forall₂ (Condition.Becomes entity) conditions ks →
        ks.flatMap (·.test.operands) = (conditions.flatMap fun c =>
          List.replicate c.kind.argumentCount c.kind).map Operand.waiting := by
    intro conditions ks hks
    induction hks with
    | nil => rfl
    | cons hpart _ ih =>
      obtain ⟨_, heq, -, htest⟩ := Condition.toCriteria_eq_ok hpart
      obtain ⟨rfl, -, -⟩ := Criteria.comparison.inj heq
      rw [List.flatMap_cons, List.flatMap_cons, List.map_append, ih,
        Condition.Kind.operands_of_test? htest, List.map_replicate, Operand.waiting]
  rw [parameters, conditions, ← hoperands (comparisons_of_toCriteria (toCriteria_of_prepare h))]
  cases p.criteria <;> rfl

lemma argumentCount_of_prepare (h : m.prepare entity = .ok p) :
    p.argumentCount = m.argumentCount := by
  have hall : ∀ operand ∈ m.parameters.map Operand.waiting, operand.isDeferred = true := by
    simp [Operand.waiting, Operand.isDeferred]
  rw [p.argumentCount_eq_countP, operands_of_prepare h, List.countP_eq_length.mpr hall,
    List.length_map, length_parameters]

/-- The values of the arguments of a call, each converted as the condition that takes it needs. -/
def converted (m : MethodName) (args : List Argument) : Except Fault (List Value) :=
  (m.parameters.zip args).mapM fun (kind, a) => kind.conversion.apply a

end MethodName

/-! ### Calls -/

namespace Prepared

variable {p : Prepared} {args : List Argument} {page : Option Page} {q : Query}

lemma bind_of_length_ne (h : args.length ≠ p.argumentCount) (page : Option Page) :
    p.bind args page = .error (.misuse (.argumentCount p.argumentCount args.length)) := by
  rw [bind, if_pos h]
  rfl

lemma length_of_bind (h : p.bind args page = .ok q) : args.length = p.argumentCount := by
  by_contra hne
  rw [bind_of_length_ne hne] at h
  exact absurd h (by simp)

/-- The arguments of a call fill the operands of the method, and none is left. -/
lemma filled_of_bind (h : p.bind args page = .ok q) :
    Filled (p.criteria.elim [] Criteria.allOperands) args
      (q.criteria.elim [] Criteria.allOperands) := by
  have hlength := (length_of_bind h).trans p.argumentCount_eq_countP
  rcases criteria_of_bind h with ⟨hp, hq⟩ | ⟨c, c', rest, hp, hq, htakes⟩
  · rw [hp] at hlength
    obtain rfl := List.eq_nil_of_length_eq_zero hlength
    rw [hp, hq]
    exact .nil
  · obtain ⟨taken, rfl, hfilled⟩ := Criteria.exists_filled_of_takes htakes
    -- the criteria takes as many arguments as its operands wait for, which are all
    have hrest : rest = [] := by
      rw [hp, Option.elim_some, ← hfilled.length_eq, List.length_append] at hlength
      exact List.eq_nil_of_length_eq_zero (by omega)
    rw [hp, hq, hrest, List.append_nil]
    exact hfilled

/-- A criteria that takes all arguments of a call is that of its query. -/
lemma bind_of_takes {c c' : Criteria} (hp : p.criteria = some c)
    (h : Takes c.resolve args c' []) (page : Option Page) :
    p.bind args page =
      .ok ((Query.mk (some c') p.projection p.distinct p.sort p.limit none).onPage? page) := by
  obtain ⟨taken, rfl, hfilled⟩ := Criteria.exists_filled_of_takes h
  rw [List.append_nil] at h ⊢
  have hlength : taken.length = p.argumentCount := by
    rw [p.argumentCount_eq_countP, hp, Option.elim_some, hfilled.length_eq]
  rw [bind, if_neg (by simpa using hlength)]
  simp only [hp, show c.resolve.run.run taken = (.ok c', []) from h]
  rfl

lemma exists_bind_of_filled (hlength : args.length = p.argumentCount) {os' : List Operand}
    (h : Filled (p.criteria.elim [] Criteria.allOperands) args os') (page : Option Page) :
    ∃ q, p.bind args page = .ok q := by
  cases hp : p.criteria with
  | none =>
    rw [bind, if_neg (by simpa using hlength), hp]
    exact ⟨_, rfl⟩
  | some c =>
    rw [hp] at h
    obtain ⟨c', htakes⟩ := Criteria.exists_takes_of_filled h []
    rw [List.append_nil] at htakes
    exact ⟨_, bind_of_takes hp htakes page⟩

/-- The order of a call is that of its page, if it has one. -/
lemma sort_of_bind (h : p.bind args page = .ok q) :
    q.sort = p.sort ∨ ∃ pg ∈ page, q.sort = pg.sort := by
  obtain ⟨criteria, rfl, -⟩ := bind_eq_ok h
  cases page with
  | none => exact .inl rfl
  | some pg =>
    by_cases hsort : pg.sort.isEmpty
    · exact .inl (if_pos hsort)
    · exact .inr ⟨pg, rfl, if_neg hsort⟩

end Prepared

/-! ### Statements -/

namespace MethodName

/-- The order of a call can be resolved, unless its page brings one that cannot. -/
lemma isResolvable_of_bind {m : MethodName} {p : Prepared} {args : List Argument}
    {page : Option Page} {q : Query} (h : m.prepare entity = .ok p)
    (hbind : p.bind args page = .ok q) (hpage : ∀ pg ∈ page, Query.IsResolvable entity pg.sort) :
    Query.IsResolvable entity q.sort := by
  obtain ⟨hkept, hresolvable⟩ := sort_of_prepare h
  rcases Prepared.sort_of_bind hbind with hsort | ⟨pg, hpg, hsort⟩
  · rw [hsort, hkept]
    exact hresolvable
  · rw [hsort]
    exact hpage pg hpg

/-- A method that is prepared takes as many arguments as its name says; a call with more or less is
refused, and any other is accepted exactly if every argument suits the condition that takes it.
Then all arguments are converted and compared in the order of the call, and every statement of it
has one placeholder for each, which is bound to its value. A page can bring an order that the
entity has to know. -/
theorem arguments_in_order {m : MethodName} {p : Prepared} (h : m.prepare entity = .ok p)
    (args : List Argument) (page : Option Page) :
    p.argumentCount = m.argumentCount ∧
    (args.length ≠ m.argumentCount →
      p.bind args page = .error (.misuse (.argumentCount m.argumentCount args.length))) ∧
    (args.length = m.argumentCount →
      ((∃ q, p.bind args page = .ok q) ↔
        List.Forall₂ Condition.Kind.Accepts m.parameters args)) ∧
    ∀ q, p.bind args page = .ok q →
      ∃ values, m.converted args = .ok values ∧
        List.Forall₂ (Condition.IsSaidBy entity) m.conditions
          (q.criteria.elim [] Criteria.comparisons) ∧
        q.criteria.elim [] Criteria.allOperands = values.map .value ∧
        ((∀ pg ∈ page, Query.IsResolvable entity pg.sort) → ∀ ctx : Context, ctx.entity = entity →
          ∃ s, q.compile ctx = .ok s ∧ s.placeholders.length = m.argumentCount ∧
            s.bindings.style = ctx.style ∧ s.bindings.Binds s.placeholders values) := by
  have hcount := argumentCount_of_prepare h
  have hoperands := operands_of_prepare h
  refine ⟨hcount, ?_, ?_, ?_⟩
  · intro hne
    rw [← hcount] at hne ⊢
    exact Prepared.bind_of_length_ne hne page
  · intro hlength
    rw [← exists_filled_iff, ← hoperands]
    constructor
    · rintro ⟨q, hbind⟩
      exact ⟨_, Prepared.filled_of_bind hbind⟩
    · rintro ⟨os', hfilled⟩
      exact Prepared.exists_bind_of_filled (hlength.trans hcount.symm) hfilled page
  · intro q hbind
    have hfilled := Prepared.filled_of_bind hbind
    rw [hoperands] at hfilled
    obtain ⟨values, hvalues, hconverted⟩ := hfilled.exists_values
    have hsaid := Prepared.isSaidBy_of_bind h hbind
    refine ⟨values, hconverted, hsaid, hvalues, ?_⟩
    rintro hpage ctx rfl
    have hsort := isResolvable_of_bind h hbind hpage
    obtain ⟨s, hs⟩ := Query.exists_compile (Query.deferredCount_of_allOperands hvalues) hsort
    obtain ⟨hstyle, hbinds⟩ := Query.binds_of_compile (Query.isResolved_of_isSaidBy hsaid) hs
    rw [Query.values_of_allOperands hvalues] at hbinds
    refine ⟨s, hs, ?_, hstyle, hbinds⟩
    have hlength := hfilled.length_operands
    rw [hvalues, List.length_map, List.length_map, length_parameters] at hlength
    rw [hbinds.length_eq, hlength]

/-- The age lies between two bounds and there is no name, or the age is one of a set and the name
matches a pattern. -/
def boundsOrPattern : MethodName :=
  .or (.ofConditions [⟨.between, "age", .exact⟩, ⟨.isNull, "name", .exact⟩])
    [⟨.isIn, "age", .exact⟩, ⟨.regex, "name", .exact⟩]

theorem arguments_of_boundsOrPattern :
    ∃ p q s, boundsOrPattern.prepare .person = .ok p ∧
      p.bind [.value (.int 1), .value (.int 9), .value (.int 5), .enum "A*"] none = .ok q ∧
      q.compile ⟨"people", .named, .person, none⟩ = .ok s ∧ s.placeholders.length = 4 ∧
      s.bindings.Binds s.placeholders [.int 1, .int 9, .array [.int 5], .string "A*"] := by
  obtain ⟨p, hprepare⟩ := exists_of_isOk (x := boundsOrPattern.prepare .person) (by decide)
  obtain ⟨-, -, haccepted, hcall⟩ := arguments_in_order hprepare
    [.value (.int 1), .value (.int 9), .value (.int 5), .enum "A*"] none
  have hsuited : List.Forall₂ Condition.Kind.Accepts boundsOrPattern.parameters
      [.value (.int 1), .value (.int 9), .value (.int 5), .enum "A*"] :=
    .cons ⟨by simp, by simp⟩ (.cons ⟨by simp, by simp⟩ (.cons ⟨fun _ => rfl, by simp⟩
      (.cons ⟨by simp, fun _ => rfl⟩ .nil)))
  obtain ⟨q, hbind⟩ := (haccepted rfl).mpr hsuited
  obtain ⟨values, hvalues, -, -, hstatement⟩ := hcall q hbind
  obtain ⟨s, hs, hlength, -, hbinds⟩ :=
    hstatement (by simp) ⟨"people", .named, .person, none⟩ rfl
  obtain rfl := Except.ok.inj hvalues
  exact ⟨p, q, s, hprepare, hbind, hs, hlength, hbinds⟩

end MethodName

end DocQuery
