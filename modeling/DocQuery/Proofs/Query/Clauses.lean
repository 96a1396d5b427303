import DocQuery.Proofs.Query.Places
/-!
# The clauses of a statement

A statement is its head, the condition behind `WHERE` if there is one, and the clauses that the
projection takes (`text_of_compile`). Head and clauses have no values, so that their texts are
fixed.
-/

namespace DocQuery

open Fragment

/-! ### Fragments of fixed text -/

namespace Fragment

variable {a : Fragment}

/-- A fragment without places is written in one way only. -/
lemma writes_of_places {σ : Type} {w : Writer σ} {s s' : σ} {cs : List Char} (h : a.places = []) :
    Writes w a s cs s' ↔ cs = a.headText.toList ∧ s' = s := by
  induction a generalizing cs with
  | nil => exact writes_nil
  | cons piece a ih =>
    cases piece with
    | text t =>
      rw [writes_text, headText, String.toList_append]
      constructor
      · rintro ⟨rest, hrest, rfl⟩
        obtain ⟨rfl, rfl⟩ := (ih h).mp hrest
        exact ⟨rfl, rfl⟩
      · rintro ⟨rfl, rfl⟩
        exact ⟨_, (ih h).mpr ⟨rfl, rfl⟩, rfl⟩
    | value hint v => exact absurd h (List.cons_ne_nil _ _)
    | deferred => exact absurd h (List.cons_ne_nil _ _)

lemma headText_append (h : a.places = []) (b : Fragment) :
    headText (a ++ b) = a.headText ++ b.headText := by
  induction a with
  | nil => exact String.empty_append.symm
  | cons piece a ih =>
    cases piece with
    | text t => rw [List.cons_append, headText, headText, ih h, String.append_assoc]
    | value hint v => exact absurd h (List.cons_ne_nil _ _)
    | deferred => exact absurd h (List.cons_ne_nil _ _)

lemma headText_raw (t : String) : headText (raw t) = t := String.append_empty

end Fragment

/-! ### Texts -/

/-- The comparison with the mark, as it is written. -/
def TypeFilter.text (filter : TypeFilter) : String :=
  Quoted.identifier filter.key ++ " = " ++ Quoted.literal filter.value

lemma TypeFilter.headText_fragment (filter : TypeFilter) :
    filter.fragment.headText = filter.text := by
  rw [← String.toList_inj]
  simp [fragment, Fragment.eq, binary, identifier, string, raw, headText, text]

/-- A term of the order on a stored field. -/
def Order.term (order : Order) (field : FieldPath) : String :=
  let key := if order.ignoreCase then "LOWER(TOSTRING(" ++ field.text ++ "))" else field.text
  match order.direction with
  | .asc => key ++ " ASC"
  | .desc => key ++ " DESC"

namespace Query

/-- The text in front of the condition. -/
def headLine (q : Query) (bucket : String) : String :=
  let b := Quoted.identifier bucket
  match q.projection with
  | .entity =>
    (if q.distinct then "SELECT DISTINCT META(" else "SELECT META(") ++ b ++
      ").id AS __id, META(" ++ b ++ ").cas AS __cas, " ++ b ++ ".* FROM " ++ b
  | .count => "SELECT COUNT(*) AS count FROM " ++ b
  | .exists => "SELECT META(" ++ b ++ ").id AS __id FROM " ++ b
  | .delete => "DELETE FROM " ++ b

def orderClause (terms : List String) : String :=
  if terms.isEmpty then "" else " ORDER BY " ++ String.intercalate ", " terms

def limitClause : Option UInt64 → String
  | none => ""
  | some n => " LIMIT " ++ toString n.toNat

def offsetClause : Option UInt64 → String
  | none => ""
  | some n => " OFFSET " ++ toString n.toNat

/-- The text behind the condition: an order of stored fields, a limit and an offset, as far as the
projection takes them. -/
def HasClauses (q : Query) (entity : Entity) (text : String) : Prop :=
  match q.projection with
  | .entity => ∃ terms : List String,
      List.Forall₂ (fun order term => ∃ field, entity.resolve order.property = .ok field ∧
        term = order.term field) q.sort terms ∧
      text = orderClause terms ++ limitClause q.limit ++ offsetClause q.offset
  | .count => text = ""
  | .exists => text = limitClause (some 1)
  | .delete => text = limitClause q.limit

variable {q : Query} {entity : Entity} {a b : Fragment}

lemma headText_head (q : Query) (bucket : String) :
    (q.head bucket).headText = q.headLine bucket := by
  rw [head, headLine, ← String.toList_inj]
  cases q.projection with
  | entity =>
    cases q.distinct <;>
      simp [source, select, selectDistinct, joined, binary, named, path, metadata, call, identifier,
        raw, headText]
  | count => simp [source, select, joined, binary, named, count, call, identifier, raw, headText]
  | «exists» =>
    simp [source, select, joined, binary, named, path, metadata, call, identifier, raw, headText]
  | delete => simp [deleteFrom, identifier, raw, headText]

/-! ### Clauses -/

lemma ordering_eq_ok {order : Order} (h : ordering entity order = .ok a) :
    ∃ field, entity.resolve order.property = .ok field ∧ a.headText = order.term field := by
  obtain ⟨field, hfield, h⟩ := exists_of_bind_eq_ok h
  obtain rfl := Except.ok.inj h
  refine ⟨field, hfield, ?_⟩
  rw [Order.term, ← String.toList_inj]
  cases order.ignoreCase <;> cases order.direction <;>
    simp [ascending, descending, suffixed, lower, asText, call, joined, raw, headText]

lemma headText_joined {separator : String} {as : List Fragment} (h : ∀ a ∈ as, places a = []) :
    headText (joined separator as) = String.intercalate separator (as.map headText) := by
  induction as with
  | nil => exact String.intercalate_nil.symm
  | cons a as ih =>
    obtain ⟨ha, has⟩ := List.forall_mem_cons.mp h
    cases as with
    | nil => exact String.intercalate_singleton.symm
    | cons b as =>
      have hstart : places (a ++ raw separator) = [] := by
        rw [places_append, ha]
        rfl
      show headText (a ++ raw separator ++ joined separator (b :: as)) = _
      rw [headText_append hstart, headText_append ha, headText_raw, ih has, List.map_cons,
        List.map_cons, List.map_cons, String.intercalate_cons_cons]

lemma exists_orderClause {sort : List Order} (h : withOrder entity sort a = .ok b) :
    ∃ (tail : Fragment) (terms : List String), b = a ++ tail ∧ tail.places = [] ∧
      List.Forall₂ (fun order term => ∃ field, entity.resolve order.property = .ok field ∧
        term = order.term field) sort terms ∧ tail.headText = orderClause terms := by
  rw [withOrder] at h
  split at h
  · next hsort =>
    obtain rfl := Except.ok.inj h
    obtain rfl := List.isEmpty_iff.mp hsort
    exact ⟨[], [], (List.append_nil a).symm, rfl, .nil, rfl⟩
  · next hsort =>
    obtain ⟨terms, hterms, h⟩ := exists_of_bind_eq_ok h
    obtain rfl := Except.ok.inj h
    have hordered := forall₂_of_mapM_eq_ok hterms
    have hplaces : ∀ b ∈ terms, places b = [] :=
      forall_mem_of_forall₂ hordered fun _ _ => places_ordering
    refine ⟨raw " ORDER BY " ++ joined ", " terms, terms.map headText, ?_, ?_, ?_, ?_⟩
    · rw [ordered, List.append_assoc]
    · rw [places_append, places_joined, List.flatMap_eq_nil_iff.mpr hplaces]
      rfl
    · exact List.forall₂_map_right_iff.mpr (hordered.imp fun _ _ => ordering_eq_ok)
    · have hne : (terms.map headText).isEmpty = false := by
        cases hordered with
        | nil => exact absurd rfl hsort
        | cons _ _ => rfl
      rw [orderClause, hne, headText_append (places_raw _), headText_raw, headText_joined hplaces]
      rfl

lemma exists_limitClause (limit : Option UInt64) (a : Fragment) :
    ∃ tail : Fragment, withLimit limit a = a ++ tail ∧ tail.places = [] ∧
      tail.headText = limitClause limit := by
  cases limit with
  | none => exact ⟨[], (List.append_nil a).symm, rfl, rfl⟩
  | some n => exact ⟨_, rfl, rfl, headText_raw _⟩

lemma exists_offsetClause (offset : Option UInt64) (a : Fragment) :
    ∃ tail : Fragment, withOffset offset a = a ++ tail ∧ tail.places = [] ∧
      tail.headText = offsetClause offset := by
  cases offset with
  | none => exact ⟨[], (List.append_nil a).symm, rfl, rfl⟩
  | some n => exact ⟨_, rfl, rfl, headText_raw _⟩

/-- Clauses are put behind a fragment. -/
lemma exists_clauses (h : q.withClauses entity a = .ok b) :
    ∃ tail : Fragment, b = a ++ tail ∧ tail.places = [] ∧ q.HasClauses entity tail.headText := by
  cases hp : q.projection with
  | entity =>
    simp only [withClauses, hp] at h
    simp only [HasClauses, hp]
    obtain ⟨c, hc, h⟩ := exists_of_bind_eq_ok h
    obtain rfl := Except.ok.inj h
    obtain ⟨order, terms, rfl, hplaces₁, hterms, hreads₁⟩ := exists_orderClause hc
    obtain ⟨limit, hlimit, hplaces₂, hreads₂⟩ := exists_limitClause q.limit (a ++ order)
    obtain ⟨offset, hoffset, hplaces₃, hreads₃⟩ :=
      exists_offsetClause q.offset (a ++ order ++ limit)
    refine ⟨order ++ limit ++ offset, ?_, ?_, terms, hterms, ?_⟩
    · rw [hlimit, hoffset, List.append_assoc, List.append_assoc, List.append_assoc]
    · rw [places_append, places_append, hplaces₁, hplaces₂, hplaces₃]
      rfl
    · have hplaces : places (order ++ limit) = [] := by
        rw [places_append, hplaces₁, hplaces₂]
        rfl
      rw [headText_append hplaces, headText_append hplaces₁, hreads₁, hreads₂, hreads₃]
  | count =>
    simp only [withClauses, hp] at h
    simp only [HasClauses, hp]
    obtain rfl := Except.ok.inj h
    exact ⟨[], (List.append_nil a).symm, rfl, rfl⟩
  | «exists» =>
    simp only [withClauses, hp] at h
    simp only [HasClauses, hp]
    obtain rfl := Except.ok.inj h
    exact exists_limitClause (some 1) a
  | delete =>
    simp only [withClauses, hp] at h
    simp only [HasClauses, hp]
    obtain rfl := Except.ok.inj h
    exact exists_limitClause q.limit a

/-! ### Conditions -/

/-- What is written for the condition of a query: the criteria, in parentheses beside the comparison
with the mark. -/
lemma writes_filter? {σ : Type} {w : Writer σ} {s s' : σ} {cs : List Char} {ctx : Context}
    (h : q.filter? ctx = some a) (hwrites : Writes w a s cs s') :
    (∃ c, q.criteria = some c ∧ ctx.typeFilter = none ∧ Writes w c.fragment s cs s') ∨
      (∃ filter, q.criteria = none ∧ ctx.typeFilter = some filter ∧ cs = filter.text.toList) ∨
        ∃ c filter text, q.criteria = some c ∧ ctx.typeFilter = some filter ∧
          Writes w c.fragment s text s' ∧
          cs = ("(" ++ String.ofList text ++ ") and " ++ filter.text).toList := by
  rw [filter?] at h
  split at h
  · simp at h
  · next c hc ht =>
    obtain rfl := Option.some.inj h
    exact .inl ⟨c, hc, ht, hwrites⟩
  · next filter hc ht =>
    obtain rfl := Option.some.inj h
    obtain ⟨rfl, -⟩ := (writes_of_places filter.places_fragment).mp hwrites
    exact .inr (.inl ⟨filter, hc, ht, by rw [filter.headText_fragment]⟩)
  · next c filter hc ht =>
    obtain rfl := Option.some.inj h
    obtain ⟨_, _, _, hparen, hmark, rfl⟩ := (writes_binary "and").mp hwrites
    obtain ⟨text, hcriteria, rfl⟩ := (writes_call "").mp hparen
    obtain ⟨rfl, rfl⟩ := (writes_of_places filter.places_fragment).mp hmark
    refine .inr (.inr ⟨c, filter, text, hc, ht, hcriteria, ?_⟩)
    rw [filter.headText_fragment]
    simp

/-! ### Statements -/

/-- What is written for a query: its head, its condition if it has one, and its clauses. -/
lemma writes_fragment {σ : Type} {w : Writer σ} {s s' : σ} {cs : List Char} {ctx : Context}
    (h : q.fragment ctx = .ok a) (hwrites : Writes w a s cs s') :
    ∃ clauses, q.HasClauses ctx.entity clauses ∧
      ((q.filter? ctx = none ∧ cs = (q.headLine ctx.bucket ++ clauses).toList) ∨
        ∃ filter condition, q.filter? ctx = some filter ∧ Writes w filter s condition s' ∧
          cs =
            (q.headLine ctx.bucket ++ " WHERE " ++ String.ofList condition ++ clauses).toList) := by
  obtain ⟨tail, rfl, hplaces, hclauses⟩ := exists_clauses h
  refine ⟨tail.headText, hclauses, ?_⟩
  have hhead := q.places_head ctx.bucket
  obtain ⟨_, s₁, _, hwrites, htail, rfl⟩ := writes_append.mp hwrites
  obtain ⟨rfl, rfl⟩ := (writes_of_places hplaces).mp htail
  split at hwrites
  · next filter hfilter =>
    obtain ⟨_, s₂, condition, hstart, hcondition, rfl⟩ := (writes_binary "WHERE").mp hwrites
    obtain ⟨rfl, rfl⟩ := (writes_of_places hhead).mp hstart
    refine .inr ⟨filter, condition, hfilter, hcondition, ?_⟩
    rw [headText_head]
    simp
  · next hnone =>
    obtain ⟨rfl, rfl⟩ := (writes_of_places hhead).mp hwrites
    refine .inl ⟨hnone, ?_⟩
    rw [headText_head, String.toList_append]

/-- The text of a compiled statement: its head, its condition if it has one, and its clauses. -/
theorem text_of_compile {ctx : Context} {s : Statement} (h : q.compile ctx = .ok s) :
    ∃ clauses, q.HasClauses ctx.entity clauses ∧
      ((q.filter? ctx = none ∧ s.text = q.headLine ctx.bucket ++ clauses) ∨
        ∃ filter condition p, q.filter? ctx = some filter ∧
          Writes (Writer.placeholders ctx.style) filter ⟨.empty ctx.style, rfl⟩ condition p ∧
          s.text =
            q.headLine ctx.bucket ++ " WHERE " ++ String.ofList condition ++ clauses) := by
  obtain ⟨a, ha, htext, -⟩ := compile_eq_ok h
  rw [bound_eq_write a ⟨.empty ctx.style, rfl⟩] at htext
  obtain ⟨clauses, hclauses, hcases⟩ := writes_fragment ha ⟨s.text, Prod.ext htext rfl, rfl⟩
  refine ⟨clauses, hclauses, ?_⟩
  rcases hcases with ⟨hnone, heq⟩ | ⟨filter, condition, hfilter, hcondition, heq⟩
  · exact .inl ⟨hnone, String.toList_inj.mp heq⟩
  · exact .inr ⟨filter, condition, _, hfilter, hcondition, String.toList_inj.mp heq⟩

end Query

end DocQuery
