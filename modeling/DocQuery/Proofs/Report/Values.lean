import DocQuery.Proofs.Predicate.Values
import DocQuery.Proofs.Query.Placeholders
import DocQuery.Proofs.Query.Values
import DocQuery.Proofs.Report.Basic
/-!
# Values stay out of the text

Requests that differ in nothing but values have statements that differ in nothing but what is bound
to their placeholders (`text_does_not_depend_on_values`).
-/

namespace DocQuery

/-! ### Statements -/

namespace Bindings

/-- The names of a dictionary; placeholders that are counted have none. -/
def names : Bindings → List String
  | .positional _ => []
  | .named entries => entries.map Prod.fst

variable (f : Value → Value) (b : Bindings)

@[simp] lemma size_mapValues : (b.mapValues f).size = b.size := by
  cases b <;> simp [mapValues, size]

@[simp] lemma names_mapValues : (b.mapValues f).names = b.names := by
  cases b <;> simp [mapValues, names]

end Bindings

/-- The statements have the same text and as many values, which go by the same names. -/
structure Statement.SameText (s s' : Statement) : Prop where
  text : s.text = s'.text
  style : s.style = s'.style
  size : s.bindings.size = s'.bindings.size
  names : s.bindings.names = s'.bindings.names

lemma Statement.sameText_of_mapValues {f : Value → Value} {s s' : Statement}
    (h : s.mapValues f = s'.mapValues f) : s.SameText s' := by
  obtain ⟨htext, hbindings, hstyle⟩ := Statement.mk.inj h
  refine ⟨htext, hstyle, ?_, ?_⟩
  · simpa using congrArg Bindings.size hbindings
  · simpa using congrArg Bindings.names hbindings

/-- Queries that differ in nothing but values have statements of the same text. -/
lemma Query.sameText_of_compile {f : Value → Value} {q q' : Query} {ctx : Context}
    {s s' : Statement} (h : q.mapValues f = q'.mapValues f) (hs : q.compile ctx = .ok s)
    (hs' : q'.compile ctx = .ok s') : s.SameText s' := by
  have hcompile := q.compile_mapValues f ctx
  rw [h, q'.compile_mapValues, hs, hs'] at hcompile
  exact Statement.sameText_of_mapValues (Except.ok.inj hcompile).symm

/-! ### Requests -/

lemma Query.mapValues_onPage? (f : Value → Value) (q : Query) (page : Option Page) :
    (q.onPage? page).mapValues f = (q.mapValues f).onPage? page := by
  cases page <;> rfl

/-- The requests differ in nothing but values: in the arguments of a method, or in the constants of
a predicate, which are sets in the same places. -/
inductive Request.SameButValues : Request → Request → Prop where
  | method (r : MethodRequest) (args : List Argument) :
      SameButValues (.method r) (.method { r with args })
  | predicate (r : PredicateRequest) {condition : Option Predicate}
      (h : r.condition.map Predicate.blank = condition.map Predicate.blank) :
      SameButValues (.predicate r) (.predicate { r with condition })

variable {entity : Entity} {q q' : Query}

lemma Prepared.mapValues_of_bind {p : Prepared} {args args' : List Argument} {page : Option Page}
    (h : p.bind args page = .ok q) (h' : p.bind args' page = .ok q') :
    q.mapValues Value.blank = q'.mapValues Value.blank := by
  obtain ⟨criteria, rfl, hcriteria⟩ := bind_eq_ok h
  obtain ⟨criteria', rfl, hcriteria'⟩ := bind_eq_ok h'
  have hvalues : criteria.map (Criteria.mapValues Value.blank) =
      criteria'.map (Criteria.mapValues Value.blank) := by
    rcases hcriteria with ⟨hp, rfl⟩ | ⟨c, d, rest, hp, rfl, htakes⟩
    · rcases hcriteria' with ⟨-, rfl⟩ | ⟨c', d', rest', hp', -, -⟩
      · rfl
      · exact absurd (hp.symm.trans hp') (by simp)
    · rcases hcriteria' with ⟨hp', -⟩ | ⟨c', d', rest', hp', rfl, htakes'⟩
      · exact absurd (hp'.symm.trans hp) (by simp)
      · obtain rfl := Option.some.inj (hp.symm.trans hp')
        exact congrArg some (Criteria.mapValues_of_takes htakes htakes')
  rw [Query.mapValues_onPage?, Query.mapValues_onPage?, Query.mapValues, Query.mapValues]
  simp only [hvalues]

lemma PredicateRequest.mapValues_of_toQuery {r : PredicateRequest} {condition : Option Predicate}
    (hconditions : r.condition.map Predicate.blank = condition.map Predicate.blank)
    (h : r.toQuery entity = .ok q) (h' : { r with condition }.toQuery entity = .ok q') :
    q.mapValues Value.blank = q'.mapValues Value.blank := by
  obtain ⟨criteria, rfl, hcriteria⟩ := toQuery_eq_ok h
  obtain ⟨criteria', rfl, hcriteria'⟩ := toQuery_eq_ok h'
  have hvalues : criteria.map (Criteria.mapValues Value.blank) =
      criteria'.map (Criteria.mapValues Value.blank) := by
    rcases hcriteria with ⟨hp, rfl⟩ | ⟨p, c, hp, hc, rfl⟩
    · rcases hcriteria' with ⟨-, rfl⟩ | ⟨p', c', hp', -, -⟩
      · rfl
      · exact absurd hconditions (by simp [hp, show condition = some p' from hp'])
    · rcases hcriteria' with ⟨hp', -⟩ | ⟨p', c', hp', hc', rfl⟩
      · exact absurd hconditions (by simp [hp, show condition = none from hp'])
      · have hblank : p.blank = p'.blank := by
          simpa [hp, show condition = some p' from hp'] using hconditions
        exact congrArg some (Predicate.mapValues_of_blank_eq hblank hc hc')
  rw [Query.mapValues_onPage?, Query.mapValues_onPage?, Query.mapValues, Query.mapValues]
  simp only [hvalues]

lemma Request.mapValues_of_toQuery {r r' : Request} (hrr' : r.SameButValues r')
    (h : r.toQuery entity = .ok q) (h' : r'.toQuery entity = .ok q') :
    q.mapValues Value.blank = q'.mapValues Value.blank := by
  cases hrr' with
  | predicate r hconditions => exact PredicateRequest.mapValues_of_toQuery hconditions h h'
  | method r args =>
    obtain ⟨m, hm, h⟩ := exists_of_bind_eq_ok h
    obtain ⟨m', hm', h'⟩ := exists_of_bind_eq_ok h'
    obtain rfl : m = m' := Except.ok.inj (hm.symm.trans hm')
    obtain ⟨p, hp, h⟩ := exists_of_bind_eq_ok h
    obtain ⟨p', hp', h'⟩ := exists_of_bind_eq_ok h'
    obtain rfl : p = p' := Except.ok.inj (hp.symm.trans hp')
    exact Prepared.mapValues_of_bind h h'

namespace Report

variable {r r' : Request} {ctx : Context} {withCount : Bool} {report report' : Report}

/-- Requests that differ in nothing but values have statements of the same text, for their documents
and for their number; the values that are bound are as many, and go by the same names. -/
theorem text_does_not_depend_on_values (hrr' : r.SameButValues r')
    (h : inContext r ctx withCount = .ok report) (h' : inContext r' ctx withCount = .ok report') :
    report.statement.SameText report'.statement ∧
      Option.Rel Statement.SameText report.count report'.count := by
  obtain ⟨q, hq, hs, hcount⟩ := inContext_eq_ok h
  obtain ⟨q', hq', hs', hcount'⟩ := inContext_eq_ok h'
  have hvalues := Request.mapValues_of_toQuery hrr' hq hq'
  refine ⟨Query.sameText_of_compile hvalues hs hs', ?_⟩
  rcases hcount with ⟨rfl, hnone⟩ | ⟨s, rfl, hsome, hcompile⟩
  · rcases hcount' with ⟨-, hnone'⟩ | ⟨_, hfalse, -, -⟩
    · rw [hnone, hnone']
      exact .none
    · exact absurd hfalse (by simp)
  · rcases hcount' with ⟨hfalse, -⟩ | ⟨s', -, hsome', hcompile'⟩
    · exact absurd hfalse (by simp)
    · rw [hsome, hsome']
      have hvaluesCount : { q with projection := .count }.mapValues Value.blank =
          { q' with projection := .count }.mapValues Value.blank :=
        congrArg (fun q : Query => { q with projection := .count }) hvalues
      exact .some (Query.sameText_of_compile hvaluesCount hcompile hcompile')

/-- The name has a part, or the age is in a set. -/
def byPart (args : List Argument) : Request :=
  .method ⟨"Person", "findByNameContainingOrAgeIn", args, none⟩

/-- The age is in a set. -/
def amongAges (ages : Argument) : Request :=
  .predicate ⟨"Person", some (.operation .isIn [.path "age", .constant ages]), .entity, false, [],
    none, none, none⟩

theorem text_of_hostileValues :
    (∃ report report' : Report,
      inContext (byPart [.value (.string "\") or (\"\" = \""), .collection []])
        ⟨"people", .named, .person, none⟩ true = .ok report ∧
      inContext (byPart [.enum "q", .value (.int 7)])
        ⟨"people", .named, .person, none⟩ true = .ok report' ∧
      report.statement.SameText report'.statement ∧
      Option.Rel Statement.SameText report.count report'.count) ∧
    ∃ report report' : Report,
      inContext (amongAges (.value (.array [.string "`) or (`"])))
        ⟨"people", .named, .person, none⟩ true = .ok report ∧
      inContext (amongAges (.collection [])) ⟨"people", .named, .person, none⟩ true = .ok report' ∧
      report.statement.SameText report'.statement ∧
      Option.Rel Statement.SameText report.count report'.count := by
  constructor
  · obtain ⟨report, h⟩ := exists_of_isOk (x := inContext
      (byPart [.value (.string "\") or (\"\" = \""), .collection []])
      ⟨"people", .named, .person, none⟩ true) (by decide)
    obtain ⟨report', h'⟩ := exists_of_isOk (x := inContext
      (byPart [.enum "q", .value (.int 7)]) ⟨"people", .named, .person, none⟩ true) (by decide)
    exact ⟨report, report', h, h', text_does_not_depend_on_values (.method _ _) h h'⟩
  · have hrr' : (amongAges (.value (.array [.string "`) or (`"]))).SameButValues
        (amongAges (.collection [])) := .predicate _ rfl
    obtain ⟨report, h⟩ := exists_of_isOk (x := inContext
      (amongAges (.value (.array [.string "`) or (`"]))) ⟨"people", .named, .person, none⟩ true)
      (by decide)
    obtain ⟨report', h'⟩ := exists_of_isOk (x := inContext
      (amongAges (.collection [])) ⟨"people", .named, .person, none⟩ true) (by decide)
    exact ⟨report, report', h, h', text_does_not_depend_on_values hrr' h h'⟩

end Report

end DocQuery
