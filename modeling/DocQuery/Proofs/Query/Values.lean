import DocQuery.Proofs.Criteria.Values
import DocQuery.Proofs.Query.Places
/-!
# Other values in a query

A query with other values compiles whenever the query itself does, to the same text, and the other
values are bound to the same placeholders (`compile_mapValues`).
-/

namespace DocQuery

variable (f : Value → Value)

/-- A fragment without places has no values to change. -/
lemma Fragment.mapValues_of_places {a : Fragment} (h : a.places = []) : a.mapValues f = a := by
  induction a with
  | nil => rfl
  | cons piece a ih =>
    cases piece with
    | text s => exact congrArg (.text s :: ·) (ih h)
    | value hint v => exact absurd h (List.cons_ne_nil _ _)
    | deferred => exact absurd h (List.cons_ne_nil _ _)

/-- The statement with other values. -/
def Statement.mapValues (s : Statement) : Statement := { s with bindings := s.bindings.mapValues f }

namespace Query

variable (q : Query)

/-- The query with other values. -/
def mapValues : Query := { q with criteria := q.criteria.map (Criteria.mapValues f) }

/-! ### Clauses -/

lemma filter?_mapValues (ctx : Context) :
    (q.mapValues f).filter? ctx = (q.filter? ctx).map (Fragment.mapValues f) := by
  rw [filter?, filter?, mapValues]
  cases q.criteria with
  | none => cases ctx.typeFilter <;> rfl
  | some c =>
    cases ctx.typeFilter with
    | none => exact congrArg some (c.fragment_mapValues f)
    | some filter =>
      have htype := Fragment.mapValues_of_places f filter.places_fragment
      simp [Fragment.and, Fragment.paren, htype, Criteria.fragment_mapValues]

lemma withLimit_mapValues (limit : Option UInt64) (a : Fragment) :
    withLimit limit (a.mapValues f) = (withLimit limit a).mapValues f := by
  cases limit with
  | none => rfl
  | some n => simp [withLimit, Fragment.limited]

lemma withOffset_mapValues (offset : Option UInt64) (a : Fragment) :
    withOffset offset (a.mapValues f) = (withOffset offset a).mapValues f := by
  cases offset with
  | none => rfl
  | some n => simp [withOffset, Fragment.skipping]

lemma withOrder_mapValues (entity : Entity) (sort : List Order) (a : Fragment) :
    withOrder entity sort (a.mapValues f) = Fragment.mapValues f <$> withOrder entity sort a := by
  rw [withOrder, withOrder]
  split
  · rfl
  · cases hterms : sort.mapM (ordering entity) with
    | error e => rfl
    | ok terms =>
      have hterm : ∀ b ∈ terms, Fragment.mapValues f b = b :=
        forall_mem_of_forall₂ (forall₂_of_mapM_eq_ok hterms) fun _ _ hb =>
          Fragment.mapValues_of_places f (places_ordering hb)
      have hvalues : terms.map (Fragment.mapValues f) = terms :=
        (List.map_congr_left hterm).trans (List.map_id' terms)
      show Except.ok _ = Except.ok _
      simp [Fragment.ordered, hvalues]

lemma withClauses_mapValues (entity : Entity) (a : Fragment) :
    (q.mapValues f).withClauses entity (a.mapValues f) =
      Fragment.mapValues f <$> q.withClauses entity a := by
  rw [withClauses, withClauses, mapValues]
  cases q.projection with
  | entity =>
    simp only [withOrder_mapValues]
    cases withOrder entity q.sort a with
    | error e => rfl
    | ok b =>
      show Except.ok _ = Except.ok _
      rw [withLimit_mapValues, withOffset_mapValues]
  | count => rfl
  | «exists» => exact congrArg Except.ok (withLimit_mapValues f (some 1) a)
  | delete => exact congrArg Except.ok (withLimit_mapValues f q.limit a)

lemma fragment_mapValues (ctx : Context) :
    (q.mapValues f).fragment ctx = Fragment.mapValues f <$> q.fragment ctx := by
  have hhead : ((q.mapValues f).head ctx.bucket) = (q.head ctx.bucket).mapValues f :=
    (Fragment.mapValues_of_places f (q.places_head ctx.bucket)).symm
  rw [fragment, fragment, filter?_mapValues, hhead, ← withClauses_mapValues]
  cases q.filter? ctx with
  | none => rfl
  | some filter => simp [Fragment.filtered]

/-! ### Statements -/

lemma deferredCount_mapValues : (q.mapValues f).deferredCount = q.deferredCount := by
  rw [deferredCount, deferredCount, mapValues]
  cases q.criteria with
  | none => rfl
  | some c => exact c.deferredCount_mapValues f

/-- Compilation looks at no value: other values are bound in a statement of the same text. -/
theorem compile_mapValues (ctx : Context) :
    (q.mapValues f).compile ctx = Statement.mapValues f <$> q.compile ctx := by
  rw [compile, compile, deferredCount_mapValues, fragment_mapValues]
  split
  · rfl
  · cases q.fragment ctx with
    | error e => rfl
    | ok a =>
      have hbound := a.bound_mapValues f (.empty ctx.style)
      have hempty : (Placeholders.empty ctx.style).mapValues f = .empty ctx.style := rfl
      rw [hempty] at hbound
      simp only [Functor.map, Except.map, bind, Except.bind, hbound]
      cases (a.bound (.empty ctx.style)).1 with
      | error e => rfl
      | ok text =>
        simp only [Placeholders.finish_mapValues]
        cases (a.bound (.empty ctx.style)).2.finish <;> rfl

end Query

end DocQuery
