import DocQuery.Proofs.MethodName.Meaning
import DocQuery.Proofs.Predicate.Meaning
import DocQuery.Proofs.Query.Places
import DocQuery.Proofs.Query.Scanning
import DocQuery.Request
/-!
# Placeholders and values of statements

The placeholders that a scan finds in a statement are those that its values are bound to
(`placeholders_match`).
-/

namespace DocQuery

open Fragment

/-! ### Statements -/

/-- The placeholders of a statement, as a scan finds them. -/
def Statement.placeholders (s : Statement) : List String := scan (symbols s.text.toList)

/-- The placeholders of a statement are those of its values: `$1`, `$2`, … as many as there are
values, or each name of the dictionary once. -/
def Statement.IsMatched (s : Statement) : Prop :=
  match s.style, s.bindings with
  | .positional, .positional values =>
    s.placeholders = (List.range' 1 values.length).map fun i => "$" ++ toString i
  | .named, .named entries =>
    s.placeholders.Nodup ∧ s.placeholders.Perm (entries.map fun entry => "$" ++ entry.1)
  | _, _ => False

lemma Statement.isMatched_of_binds {s : Statement} {values : List Value}
    (hstyle : s.bindings.style = s.style) (h : s.bindings.Binds s.placeholders values) :
    s.IsMatched := by
  obtain ⟨text, bindings, style⟩ := s
  cases bindings with
  | positional bound =>
    obtain rfl : PlaceholderStyle.positional = style := hstyle
    obtain ⟨rfl, htokens⟩ := h
    exact htokens
  | named entries =>
    obtain rfl : PlaceholderStyle.named = style := hstyle
    obtain ⟨names, htokens, hnodup, hlength, hperm⟩ := h
    have hinjective : Function.Injective fun name : String => "$" ++ name := by
      intro a b hab
      simpa [← String.toList_inj] using hab
    refine ⟨htokens ▸ hnodup.map hinjective, ?_⟩
    have hnames : (names.zip values).map Prod.fst = names := List.map_fst_zip (Nat.le_of_eq hlength)
    have hkeys : (entries.map Prod.fst).Perm names := hnames ▸ hperm.map Prod.fst
    have htokensPerm := (hkeys.map ("$" ++ ·)).symm
    rw [List.map_map] at htokensPerm
    exact htokens ▸ htokensPerm

namespace Query

/-- The placeholders of a compiled statement are bound to the values of the query. -/
lemma binds_of_compile {q : Query} (hq : q.IsResolved) {ctx : Context} {s : Statement}
    (h : q.compile ctx = .ok s) :
    s.bindings.style = ctx.style ∧ s.bindings.Binds s.placeholders (q.slots.map (·.2)) := by
  obtain ⟨a, ha, htext, hfinish, -⟩ := compile_eq_ok h
  have hscan := scannable_fragment hq ha
  have hknown : a.deferredCount = 0 :=
    (deferredCount_fragment ha).trans (deferredCount_of_compile h)
  rw [bound_eq_fill hknown] at htext hfinish
  obtain ⟨bindings, hbindings, hkind, hbinds⟩ := Placeholders.finish_issue ctx.style a.slots
  obtain rfl : bindings = s.bindings := Except.ok.inj (hbindings.symm.trans hfinish)
  have hplaceholders : s.placeholders =
      ((Placeholders.empty ctx.style).issuedNames a.slots).map ("$" ++ ·) := by
    rw [Statement.placeholders, ← Except.ok.inj htext]
    exact scan_fill hscan (Placeholders.length_issuedNames _ _)
      (Placeholders.isNameChar_of_mem_issuedNames _ _ hscan.hints)
  rw [Placeholders.names_issue_empty, ← hplaceholders, slots_fragment ha] at hbinds
  exact ⟨hkind, hbinds⟩

/-- A compiled statement of resolved fields has the placeholders of its values. -/
lemma isMatched_of_compile {q : Query} (hq : q.IsResolved) {ctx : Context} {s : Statement}
    (h : q.compile ctx = .ok s) : s.IsMatched := by
  obtain ⟨_, -, -, -, hstyle⟩ := compile_eq_ok h
  obtain ⟨hkind, hbinds⟩ := binds_of_compile hq h
  exact Statement.isMatched_of_binds (hkind.trans hstyle.symm) hbinds

end Query

/-! ### Requests -/

lemma Query.isResolved_onPage? {q : Query} (h : q.IsResolved) (page : Option Page) :
    (q.onPage? page).IsResolved := by
  rw [IsResolved, criteria_onPage?]
  exact h

/-- The query of a request by predicate has the shape that is asked for, and the criteria of its
condition. -/
lemma PredicateRequest.toQuery_eq_ok {r : PredicateRequest} {entity : Entity} {q : Query}
    (h : r.toQuery entity = .ok q) :
    ∃ criteria, q =
        (Query.mk criteria r.projection r.distinct r.sort r.limit r.offset).onPage? r.page ∧
      ((r.condition = none ∧ criteria = none) ∨
        ∃ p c, r.condition = some p ∧ p.toCriteria entity = .ok c ∧ criteria = some c) := by
  rw [toQuery] at h
  cases hcondition : r.condition with
  | none =>
    simp only [hcondition] at h
    obtain rfl := Except.ok.inj h
    exact ⟨none, rfl, .inl ⟨rfl, rfl⟩⟩
  | some p =>
    simp only [hcondition] at h
    obtain ⟨criteria, hcriteria, h⟩ := exists_of_bind_eq_ok h
    obtain ⟨c, hc, rfl⟩ := exists_of_map_eq_ok hcriteria
    obtain rfl := Except.ok.inj h
    exact ⟨some c, rfl, .inr ⟨p, c, rfl, hc, rfl⟩⟩

lemma PredicateRequest.isResolved_of_toQuery {r : PredicateRequest} {entity : Entity} {q : Query}
    (h : r.toQuery entity = .ok q) : q.IsResolved := by
  obtain ⟨criteria, rfl, hcriteria⟩ := toQuery_eq_ok h
  apply Query.isResolved_onPage?
  rcases hcriteria with ⟨-, rfl⟩ | ⟨p, c, -, hc, rfl⟩
  · simp [Query.IsResolved]
  · simpa [Query.IsResolved] using (Predicate.isReadable_of_toCriteria hc).fields

lemma Query.isResolved_of_isSaidBy {entity : Entity} {conditions : List Condition} {q : Query}
    (h : List.Forall₂ (Condition.IsSaidBy entity) conditions
      (q.criteria.elim [] Criteria.comparisons)) : q.IsResolved := by
  intro c hc
  rw [Option.mem_def.mp hc] at h
  exact forall_mem_of_forall₂ h fun _ _ hpart => Entity.isQuoted_of_resolve hpart.field

lemma MethodRequest.isResolved_of_toQuery {r : MethodRequest} {entity : Entity} {q : Query}
    (h : r.toQuery entity = .ok q) : q.IsResolved := by
  obtain ⟨m, -, h⟩ := exists_of_bind_eq_ok h
  obtain ⟨p, hprepare, hbind⟩ := exists_of_bind_eq_ok h
  exact Query.isResolved_of_isSaidBy (Prepared.isSaidBy_of_bind hprepare hbind)

/-- The criteria of a request is on resolved fields. -/
lemma Request.isResolved_of_toQuery {r : Request} {entity : Entity} {q : Query}
    (h : r.toQuery entity = .ok q) : q.IsResolved := by
  cases r with
  | predicate r => exact r.isResolved_of_toQuery h
  | method r => exact r.isResolved_of_toQuery h

/-- A statement of a request, for its documents or for their number, has the placeholders of its
values: `$1`, `$2`, … in their order or each name once. -/
theorem Request.placeholders_match {r : Request} {entity : Entity} {ctx : Context} {q : Query}
    {s : Statement} (hq : r.toQuery entity = .ok q)
    (hs : q.compile ctx = .ok s ∨ q.compileCount ctx = .ok s) :
    s.style = ctx.style ∧ s.IsMatched := by
  have hresolved := isResolved_of_toQuery hq
  rcases hs with h | h
  · obtain ⟨_, -, -, -, hstyle⟩ := Query.compile_eq_ok h
    exact ⟨hstyle, Query.isMatched_of_compile hresolved h⟩
  · obtain ⟨_, -, -, -, hstyle⟩ := Query.compile_eq_ok h
    exact ⟨hstyle, Query.isMatched_of_compile (q := { q with projection := .count }) hresolved h⟩

/-- A page of persons between two ages, ordered by their names. -/
def Request.betweenAges : Request :=
  .predicate ⟨"Person", some (.operation .and
    [.operation .gte [.path "age", .constant (.value (.int 18))],
      .operation .gt [.constant (.value (.int 65)), .path "age"]]),
    .entity, false, [⟨"name", .desc, true⟩], some 10, none, none⟩

theorem Request.placeholders_of_betweenAges :
    ∃ q s, betweenAges.toQuery .person = .ok q ∧
      q.compile ⟨"b $2", .named, .person, some ⟨"kind", "$3"⟩⟩ = .ok s ∧
      s.style = .named ∧ s.IsMatched := by
  obtain ⟨s, h⟩ := exists_of_isOk (x := betweenAges.toQuery .person >>= fun q =>
    q.compile ⟨"b $2", .named, .person, some ⟨"kind", "$3"⟩⟩) (by decide)
  obtain ⟨q, hq, hs⟩ := exists_of_bind_eq_ok h
  exact ⟨q, s, hq, hs, placeholders_match hq (.inl hs)⟩

end DocQuery
