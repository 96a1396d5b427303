import DocQuery.Proofs.Query.Counting
import DocQuery.Request
/-!
# Which rows a statement is about

A limit, an offset and the order of limited rows say which rows are meant. A selection of documents
has the clauses for all that its query says of the rows; a deletion has its limit alone, so that its
clauses say what is meant if the query has neither an offset nor an order of limited rows
(`designates_iff`).
-/

namespace DocQuery

namespace Query

/-- The terms are those of the order, on the fields that its properties resolve to. -/
def OrderTerms (entity : Entity) (sort : List Order) (terms : List String) : Prop :=
  List.Forall₂ (fun order term => ∃ field, entity.resolve order.property = .ok field ∧
    term = order.term field) sort terms

/-- The clauses have what the query says of the rows that it is about. -/
structure Designates (q : Query) (entity : Entity) (clauses : String) : Prop where
  /-- A limit ends the clauses, up to the offset behind it. -/
  limit : ∀ n, q.limit = some n →
    ∃ front, clauses = front ++ limitClause (some n) ++ offsetClause q.offset
  offset : ∀ n, q.offset = some n → ∃ front, clauses = front ++ offsetClause (some n)
  /-- The order matters where not all rows are taken. -/
  order : q.sort ≠ [] → q.limit ≠ none →
    ∃ terms behind, OrderTerms entity q.sort terms ∧ clauses = orderClause terms ++ behind

variable {q : Query} {entity : Entity} {ctx : Context} {clauses : String}

/-! ### Selections -/

lemma designates_of_entity (hentity : q.projection = .entity) (h : q.HasClauses entity clauses) :
    q.Designates entity clauses := by
  simp only [HasClauses, hentity] at h
  obtain ⟨terms, hterms, rfl⟩ := h
  constructor
  · intro n hn
    exact ⟨orderClause terms, by rw [hn]⟩
  · intro n hn
    exact ⟨orderClause terms ++ limitClause q.limit, by rw [hn]⟩
  · intro _ _
    exact ⟨terms, limitClause q.limit ++ offsetClause q.offset, hterms, String.append_assoc ..⟩

/-! ### Deletions -/

/-- A limit is written with the letters of its keyword and digits. -/
lemma mem_limitClause {limit : Option UInt64} {c : Char} (h : c ∈ (limitClause limit).toList) :
    c ∈ " LIMIT ".toList ∨ c.isDigit = true := by
  cases limit with
  | none => simp [limitClause] at h
  | some n =>
    rw [limitClause, String.toList_append, List.mem_append] at h
    exact h.imp_right isDigit_of_mem_toString

lemma limitClause_ne_append_offsetClause (limit : Option UInt64) (front : String) (n : UInt64) :
    limitClause limit ≠ front ++ offsetClause (some n) := by
  intro h
  have hmem : 'F' ∈ (limitClause limit).toList := by simp [h, offsetClause]
  exact absurd (mem_limitClause hmem) (by decide)

lemma limitClause_ne_orderClause_append {terms : List String} (hterms : terms ≠ [])
    (limit : Option UInt64) (behind : String) :
    limitClause limit ≠ orderClause terms ++ behind := by
  intro h
  have hmem : 'R' ∈ (limitClause limit).toList := by simp [h, orderClause, hterms]
  exact absurd (mem_limitClause hmem) (by decide)

/-- A deletion says which rows it is about if a limit is all there is to say. -/
lemma designates_iff_of_delete (hdelete : q.projection = .delete)
    (h : q.HasClauses entity clauses) :
    q.Designates entity clauses ↔ q.offset = none ∧ (q.sort = [] ∨ q.limit = none) := by
  simp only [HasClauses, hdelete] at h
  subst h
  constructor
  · intro hmeant
    constructor
    · by_contra hoffset
      obtain ⟨n, hn⟩ := Option.ne_none_iff_exists'.mp hoffset
      obtain ⟨front, heq⟩ := hmeant.offset n hn
      exact limitClause_ne_append_offsetClause q.limit front n heq
    · by_contra hsort
      obtain ⟨hne, hlimit⟩ := not_or.mp hsort
      obtain ⟨terms, behind, hterms, heq⟩ := hmeant.order hne hlimit
      have hsome : terms ≠ [] := by
        rintro rfl
        exact hne (List.forall₂_nil_right_iff.mp hterms)
      exact limitClause_ne_orderClause_append hsome q.limit behind heq
  · rintro ⟨hoffset, hsort⟩
    constructor
    · intro n hn
      exact ⟨"", by rw [hn, hoffset]; simp [offsetClause]⟩
    · intro n hn
      simp [hoffset] at hn
    · intro hne hlimit
      exact absurd hsort (not_or.mpr ⟨hne, hlimit⟩)

/-! ### Statements -/

/-- The statement of a query for documents ends with clauses for all that the query says of the
rows. So does that of a deletion exactly if the deletion has no offset and no order of limited
rows; its clauses are its limit. -/
theorem designates_iff {s : Statement} (h : q.compile ctx = .ok s)
    (hrows : q.projection = .entity ∨ q.projection = .delete) :
    ∃ condition clauses, q.condition ctx = .ok condition ∧
      s.text = q.headLine ctx.bucket ++ whereClause condition ++ clauses ∧
      q.HasClauses ctx.entity clauses ∧
      (q.Designates ctx.entity clauses ↔
        (q.projection = .delete → q.offset = none ∧ (q.sort = [] ∨ q.limit = none))) := by
  obtain ⟨condition, clauses, hcondition, hclauses, htext⟩ := condition_of_compile h
  refine ⟨condition, clauses, hcondition, htext, hclauses, ?_⟩
  rcases hrows with hentity | hdelete
  · exact iff_of_true (designates_of_entity hentity hclauses) (by simp [hentity])
  · rw [designates_iff_of_delete hdelete hclauses]
    exact ⟨fun hnothing _ => hnothing, fun hnothing => hnothing hdelete⟩

/-- The third page of adults, in the order of their ages. -/
def thirdPage : Request :=
  .predicate ⟨"Person", some (.operation .gt [.path "age", .constant (.value (.int 18))]), .entity,
    false, [⟨"age", .desc, false⟩], none, none, some ⟨2, 3, []⟩⟩

theorem designates_thirdPage :
    ∃ q s, thirdPage.toQuery .person = .ok q ∧ q.compile ⟨"b", .named, .person, none⟩ = .ok s ∧
      q.projection = .entity ∧
      ∃ condition clauses, q.condition ⟨"b", .named, .person, none⟩ = .ok condition ∧
        s.text = q.headLine "b" ++ whereClause condition ++ clauses ∧
        q.HasClauses .person clauses ∧
        (q.Designates .person clauses ↔
          (q.projection = .delete → q.offset = none ∧ (q.sort = [] ∨ q.limit = none))) := by
  obtain ⟨s, h⟩ := exists_of_isOk (x := thirdPage.toQuery .person >>= fun q =>
    q.compile ⟨"b", .named, .person, none⟩) (by decide)
  obtain ⟨q, hq, hs⟩ := exists_of_bind_eq_ok h
  have hentity : q.projection = .entity := by
    obtain rfl := Except.ok.inj (hq.symm.trans rfl)
    rfl
  exact ⟨q, s, hq, hs, hentity, designates_iff hs (.inl hentity)⟩

/-- Deletes a page of the same adults by a method name. -/
def deleteThirdPage : Request :=
  .method ⟨"Person", "deleteTop3ByAgeGreaterThanOrderByAgeDesc", [.value (.int 18)],
    some ⟨2, 3, []⟩⟩

/-- The page and the order of a deletion get lost on the way to its statement. -/
theorem deleteThirdPage_loses_page :
    ∃ q s condition, deleteThirdPage.toQuery .person = .ok q ∧
      q.compile ⟨"b", .named, .person, none⟩ = .ok s ∧ q.projection = .delete ∧
      q.sort = [⟨"age", .desc, false⟩] ∧ q.limit = some 3 ∧ q.offset = some 6 ∧
      q.condition ⟨"b", .named, .person, none⟩ = .ok condition ∧
      s.text = "DELETE FROM `b` WHERE `age` > $age LIMIT 3" ∧
      s.text = q.headLine "b" ++ whereClause condition ++ limitClause (some 3) ∧
      ¬ q.Designates .person (limitClause (some 3)) := by
  refine ⟨_, _, _, rfl, rfl, rfl, rfl, rfl, rfl, rfl, rfl, rfl, fun hmeant => ?_⟩
  obtain ⟨front, heq⟩ := hmeant.offset 6 rfl
  exact limitClause_ne_append_offsetClause (some 3) front 6 heq

end Query

end DocQuery
