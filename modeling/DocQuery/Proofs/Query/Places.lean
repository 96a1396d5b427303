import DocQuery.Proofs.Criteria.Arguments
import DocQuery.Proofs.Outcome
import DocQuery.Query.Statement
/-!
# The values of queries

The clauses of a statement have no values but those of its criteria (`places_fragment`). A query has
a statement if all of its operands are known and its order can be resolved (`exists_compile`).
-/

namespace DocQuery

open Fragment

lemma TypeFilter.places_fragment (filter : TypeFilter) : filter.fragment.places = [] := rfl

namespace Query

/-- The values of a query with the hints for their placeholders, in the order of the text. -/
def slots (q : Query) : List (String × Value) := q.criteria.elim [] Criteria.slots

/-! ### Clauses -/

lemma places_head (q : Query) (bucket : String) : places (q.head bucket) = [] := by
  rw [head]
  cases q.projection with
  | entity => cases q.distinct <;> rfl
  | count => rfl
  | «exists» => rfl
  | delete => rfl

lemma places_filter? {q : Query} {ctx : Context} {a : Fragment} (h : q.filter? ctx = some a) :
    places a = q.criteria.elim [] Criteria.places := by
  rw [filter?] at h
  split at h
  · exact absurd h (by simp)
  · next c hc _ =>
    obtain rfl := Option.some.inj h
    rw [hc, Criteria.places_fragment]
    rfl
  · next filter hc _ =>
    obtain rfl := Option.some.inj h
    rw [hc]
    rfl
  · next c filter hc _ =>
    obtain rfl := Option.some.inj h
    rw [hc, Fragment.and, places_binary, Fragment.paren, places_call, Criteria.places_fragment,
      filter.places_fragment, List.append_nil]
    rfl

lemma places_ordering {entity : Entity} {order : Order} {a : Fragment}
    (h : ordering entity order = .ok a) : places a = [] := by
  obtain ⟨field, -, h⟩ := exists_of_bind_eq_ok h
  obtain rfl := Except.ok.inj h
  cases order.ignoreCase <;> cases order.direction <;> rfl

lemma places_withLimit (limit : Option UInt64) (a : Fragment) :
    places (withLimit limit a) = places a := by
  cases limit with
  | none => rfl
  | some n => simp [withLimit, limited]

lemma places_withOffset (offset : Option UInt64) (a : Fragment) :
    places (withOffset offset a) = places a := by
  cases offset with
  | none => rfl
  | some n => simp [withOffset, skipping]

lemma places_withOrder {entity : Entity} {sort : List Order} {a b : Fragment}
    (h : withOrder entity sort a = .ok b) : places b = places a := by
  rw [withOrder] at h
  split at h
  · obtain rfl := Except.ok.inj h
    rfl
  · obtain ⟨orderings, horderings, h⟩ := exists_of_bind_eq_ok h
    obtain rfl := Except.ok.inj h
    have hnone : ∀ b ∈ orderings, places b = [] :=
      forall_mem_of_forall₂ (forall₂_of_mapM_eq_ok horderings) fun _ _ h => places_ordering h
    simp [ordered, places_joined, List.flatMap_eq_nil_iff.mpr hnone]

lemma places_withClauses {q : Query} {entity : Entity} {a b : Fragment}
    (h : q.withClauses entity a = .ok b) : places b = places a := by
  rw [withClauses] at h
  split at h
  · obtain ⟨c, hc, h⟩ := exists_of_bind_eq_ok h
    obtain rfl := Except.ok.inj h
    rw [places_withOffset, places_withLimit, places_withOrder hc]
  · obtain rfl := Except.ok.inj h
    rfl
  · obtain rfl := Except.ok.inj h
    exact places_withLimit (some 1) a
  · obtain rfl := Except.ok.inj h
    exact places_withLimit q.limit a

/-- The places of a statement are those of its criteria. -/
theorem places_fragment {q : Query} {ctx : Context} {a : Fragment} (h : q.fragment ctx = .ok a) :
    places a = q.criteria.elim [] Criteria.places := by
  rw [places_withClauses h]
  split
  · next filter hfilter =>
    rw [filtered, places_binary, places_head, places_filter? hfilter, List.nil_append]
  · next hnone =>
    have hcriteria : q.criteria = none := by
      cases hc : q.criteria with
      | none => rfl
      | some c => cases ht : ctx.typeFilter <;> simp [filter?, hc, ht] at hnone
    rw [places_head, hcriteria]
    rfl

lemma slots_fragment {q : Query} {ctx : Context} {a : Fragment} (h : q.fragment ctx = .ok a) :
    Fragment.slots a = q.slots := by
  rw [Fragment.slots_eq_filterMap, places_fragment h, slots]
  cases q.criteria with
  | none => rfl
  | some c =>
    rw [Option.elim_some, Option.elim_some, ← Criteria.slots_fragment,
      Fragment.slots_eq_filterMap, Criteria.places_fragment]

lemma deferredCount_fragment {q : Query} {ctx : Context} {a : Fragment}
    (h : q.fragment ctx = .ok a) : Fragment.deferredCount a = q.deferredCount := by
  rw [Fragment.deferredCount_eq_countP, places_fragment h, deferredCount]
  cases q.criteria with
  | none => rfl
  | some c => exact (Criteria.deferredCount_eq_countP c).symm

/-! ### Known operands -/

lemma values_of_allOperands {q : Query} {values : List Value}
    (h : q.criteria.elim [] Criteria.allOperands = values.map .value) :
    q.slots.map (·.2) = values := by
  have hslots : q.slots.map (·.2) =
      (q.criteria.elim [] Criteria.allOperands).filterMap Operand.value? := by
    rw [slots]
    cases q.criteria with
    | none => rfl
    | some c => exact c.map_slots
  have hvalue : (Operand.value? ∘ Operand.value) = some := rfl
  rw [hslots, h, List.filterMap_map, hvalue, List.filterMap_some]

lemma deferredCount_of_allOperands {q : Query} {values : List Value}
    (h : q.criteria.elim [] Criteria.allOperands = values.map .value) : q.deferredCount = 0 := by
  have hcount : q.deferredCount =
      (q.criteria.elim [] Criteria.allOperands).countP Operand.isDeferred := by
    rw [deferredCount]
    cases q.criteria with
    | none => rfl
    | some c => exact c.deferredCount_eq_countP_allOperands
  rw [hcount, h, List.countP_eq_zero]
  simp [Operand.isDeferred]

/-! ### Statements -/

/-- What a statement is made of. -/
lemma compile_eq_ok {q : Query} {ctx : Context} {s : Statement} (h : q.compile ctx = .ok s) :
    ∃ a, q.fragment ctx = .ok a ∧ (a.bound (.empty ctx.style)).1 = .ok s.text ∧
      (a.bound (.empty ctx.style)).2.finish = .ok s.bindings ∧ s.style = ctx.style := by
  rw [compile] at h
  split at h
  · exact absurd h throw_bind_ne_ok
  · obtain ⟨a, ha, h⟩ := exists_of_bind_eq_ok h
    obtain ⟨text, htext, h⟩ := exists_of_bind_eq_ok h
    obtain ⟨bindings, hbindings, h⟩ := exists_of_bind_eq_ok h
    obtain rfl := Except.ok.inj h
    exact ⟨a, ha, htext, hbindings, rfl⟩

lemma deferredCount_of_compile {q : Query} {ctx : Context} {s : Statement}
    (h : q.compile ctx = .ok s) : q.deferredCount = 0 := by
  by_contra hopen
  rw [compile, if_pos hopen] at h
  exact absurd h throw_bind_ne_ok

/-- The order names properties of the entity. -/
def IsResolvable (entity : Entity) (sort : List Order) : Prop :=
  ∀ order ∈ sort, ∃ field, entity.resolve order.property = .ok field

lemma exists_withOrder {entity : Entity} {sort : List Order} (h : IsResolvable entity sort)
    (a : Fragment) : ∃ b, withOrder entity sort a = .ok b := by
  have hterms : ∃ terms, sort.mapM (ordering entity) = .ok terms := by
    apply exists_mapM_eq_ok
    intro order horder
    obtain ⟨field, hfield⟩ := h order horder
    rw [ordering, hfield]
    exact ⟨_, rfl⟩
  obtain ⟨terms, hterms⟩ := hterms
  rw [withOrder, hterms]
  split
  · exact ⟨_, rfl⟩
  · exact ⟨_, rfl⟩

lemma exists_fragment {q : Query} {ctx : Context} (h : IsResolvable ctx.entity q.sort) :
    ∃ a, q.fragment ctx = .ok a := by
  rw [fragment, withClauses]
  split
  · obtain ⟨b, hb⟩ := exists_withOrder h _
    rw [hb]
    exact ⟨_, rfl⟩
  · exact ⟨_, rfl⟩
  · exact ⟨_, rfl⟩
  · exact ⟨_, rfl⟩

/-- A query whose operands are all known has a statement if it has a fragment. -/
lemma compile_of_fragment {q : Query} {ctx : Context} {a : Fragment}
    (hknown : q.deferredCount = 0) (ha : q.fragment ctx = .ok a) :
    ∃ s, q.compile ctx = .ok s ∧
      ((Placeholders.empty ctx.style).issue q.slots).finish = .ok s.bindings := by
  obtain ⟨bindings, hfinish, -⟩ := Placeholders.finish_issue ctx.style a.slots
  have hbound := bound_eq_fill ((deferredCount_fragment ha).trans hknown) (.empty ctx.style)
  rw [compile, if_neg (by simpa using hknown), ha]
  simp only [bind, Except.bind, pure, Except.pure, hbound, hfinish]
  rw [slots_fragment ha] at hfinish
  exact ⟨_, rfl, hfinish⟩

/-- A query without operands that wait has a statement if its order can be resolved. -/
theorem exists_compile {q : Query} {ctx : Context} (hknown : q.deferredCount = 0)
    (hsort : IsResolvable ctx.entity q.sort) : ∃ s, q.compile ctx = .ok s := by
  obtain ⟨a, ha⟩ := exists_fragment hsort
  obtain ⟨s, hs, -⟩ := compile_of_fragment hknown ha
  exact ⟨s, hs⟩

end Query

end DocQuery
