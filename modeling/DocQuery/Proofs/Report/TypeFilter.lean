import DocQuery.Proofs.Query.Clauses
import DocQuery.Proofs.Query.Placeholders
import DocQuery.Proofs.Report.Basic
import DocQuery.Proofs.Text.Depth
/-!
# Statements stay within their entity

Every statement of a report asks for the mark of its entity: the condition of the request stands in
parentheses, which it cannot close, and the mark is joined to it by `and` (`statement_is_guarded`).
-/

namespace DocQuery

open Fragment

/-! ### The mark of an entity -/

namespace TypeFilter

/-- The tokens of the comparison. -/
def tokens (filter : TypeFilter) : List Token := DocQuery.tokens (symbols filter.text.toList)

/-- The condition asks for the mark: it is the comparison, or a balanced text in parentheses and the
comparison behind it, which is read as the conjunction of the two. -/
inductive Guards (filter : TypeFilter) : String → Prop where
  | alone (hread : Formula.ofText? filter.text = some (.atom filter.tokens)) :
      Guards filter filter.text
  | conjunct {text : String} {f : Formula (List Token)} (hclosed : Closed text.toList)
      (hdepth : depthAfter 0 (symbols text.toList) = some 0)
      (hinside : Formula.ofText? text = some f)
      (hread : Formula.ofText? ("(" ++ text ++ ") and " ++ filter.text) =
        some (.and f (.atom filter.tokens))) :
      Guards filter ("(" ++ text ++ ") and " ++ filter.text)

variable (filter : TypeFilter)

/-- Whatever its names are, the comparison is one operand. -/
lemma comparisonText : ComparisonText False filter.text.toList := by
  have hkey : SubjectText (Quoted.identifier filter.key).toList := by
    rw [← FieldPath.text_ofSegments_singleton]
    exact FieldPath.IsQuoted.subjectText ⟨filter.key, [], rfl⟩
  have hvalue : OperandText (Quoted.literal filter.value).toList :=
    LiteralText.operandText (.of_wrap rfl filter.value)
  have htext : filter.text.toList = (Quoted.identifier filter.key).toList ++
      ' ' :: ("=".toList ++ ' ' :: (Quoted.literal filter.value).toList) := by
    simp [text]
  rw [htext]
  exact hkey.binary ⟨rfl, rfl⟩ hvalue

lemma guards_alone : filter.Guards filter.text := by
  obtain ⟨v, items, hspells, hsolid, hformula, -⟩ := filter.comparisonText
  apply Guards.alone
  rw [hspells.ofText?, itemsFormula, hsolid.operands_eq, Chain.map_single, hformula,
    Chain.formula_single, ← hspells.tokens_eq]
  rfl

/-- A text that spells something is kept apart by its parentheses. -/
lemma guards_conjunct {text : String} {items : List Item} (h : Spells text.toList items) :
    filter.Guards ("(" ++ text ++ ") and " ++ filter.text) := by
  obtain ⟨v, is, hspells, hsolid, hformula, -⟩ := filter.comparisonText
  have hand : Spells "and".toList [.word (bareWord (junctionWord .and))] := .word rfl rfl
  have hgroup : Solid [.group (itemTokens items) (itemsFormula items)] :=
    solid_of_plain (by simp [Item.IsPlain])
  have hwhole : Spells ("(" ++ text ++ ") and " ++ filter.text).toList
      ([.group (itemTokens items) (itemsFormula items)] ++
        ([.word (bareWord (junctionWord .and))] ++ .word v :: is)) := by
    simpa using h.paren.blank (hand.blank hspells)
  refine .conjunct h.closed h.depthAfter_eq h.ofText? ?_
  rw [hwhole.ofText?, itemsFormula, List.singleton_append (l := .word v :: is), hgroup.settled,
    hgroup.operands_eq, hsolid.operands_eq, Chain.map_join, Chain.map_single, Chain.map_single,
    hformula, ← hspells.tokens_eq]
  rfl

end TypeFilter

/-! ### Statements -/

/-- The statement has its head, a condition that asks for the mark, and its clauses. -/
def Query.IsGuarded (q : Query) (bucket : String) (entity : Entity) (filter : TypeFilter)
    (text : String) : Prop :=
  ∃ condition clauses, filter.Guards condition ∧ q.HasClauses entity clauses ∧
    text = q.headLine bucket ++ " WHERE " ++ condition ++ clauses

lemma Query.isGuarded_of_compile {q : Query} (hq : q.IsResolved) {ctx : Context}
    {filter : TypeFilter} (hfilter : ctx.typeFilter = some filter) {s : Statement}
    (h : q.compile ctx = .ok s) : q.IsGuarded ctx.bucket ctx.entity filter s.text := by
  obtain ⟨clauses, hclauses, ⟨hnone, -⟩ | ⟨a, condition, p, ha, hwrites, htext⟩⟩ :=
    text_of_compile h
  · cases hc : q.criteria <;> simp [filter?, hc, hfilter] at hnone
  · refine ⟨String.ofList condition, clauses, ?_, hclauses, htext⟩
    obtain ⟨c, -, hnone, -⟩ | ⟨f, -, hsome, rfl⟩ | ⟨c, f, text, hc, hsome, hcriteria, rfl⟩ :=
      writes_filter? ha hwrites
    · rw [hfilter] at hnone
      simp at hnone
    · obtain rfl := Option.some.inj (hfilter.symm.trans hsome)
      rw [String.ofList_toList]
      exact filter.guards_alone
    · obtain rfl := Option.some.inj (hfilter.symm.trans hsome)
      obtain ⟨items, hspells, -⟩ := Criteria.reads_fragment
        (Writer.writesOperands_placeholders ctx.style) (hq c hc) _ _ _ hcriteria
      rw [String.ofList_toList]
      apply filter.guards_conjunct
      rwa [String.toList_ofList]

/-- Every statement of a report, for its documents or for their number, is guarded by the mark of
the entity that the request is about. -/
theorem Report.statement_is_guarded {r : Request} {config : Config} {withCount : Bool}
    {report : Report} (h : Report.ofRequest r config withCount = .ok report) :
    ∃ entity q, config.entity? r.entity = some entity ∧ r.toQuery entity = .ok q ∧
      q.IsGuarded config.bucket entity ⟨config.typeKey, entity.typeAlias⟩ report.statement.text ∧
      ∀ count ∈ report.count, { q with projection := .count }.IsGuarded config.bucket entity
        ⟨config.typeKey, entity.typeAlias⟩ count.text := by
  obtain ⟨entity, hentity, h⟩ := ofRequest_eq_ok h
  obtain ⟨q, hq, hs, hcount⟩ := inContext_eq_ok h
  have hresolved := Request.isResolved_of_toQuery hq
  refine ⟨entity, q, hentity, hq, Query.isGuarded_of_compile hresolved rfl hs, ?_⟩
  rcases hcount with ⟨-, hnone⟩ | ⟨s, -, hsome, hs⟩
  · simp [hnone]
  · intro count hmem
    obtain rfl : s = count := Option.some.inj (hsome.symm.trans hmem)
    have hguarded :=
      Query.isGuarded_of_compile (q := { q with projection := .count }) hresolved rfl hs
    exact hguarded

/-- A configuration whose names are full of quotes and parentheses. -/
def Config.hostile : Config :=
  ⟨"b` where (", .named, "kind`) or (`",
    [⟨"Person", some "x\") or (\"", Entity.person.properties⟩]⟩

/-- Deletes persons by their name or their age. -/
def Request.deleteByNameOrAge : Request :=
  .method ⟨"Person", "deleteTop3ByNameContainingOrAgeIn", [.value (.string ")"), .collection []],
    none⟩

theorem Report.deleteByNameOrAge_is_guarded :
    ∃ report, ofRequest .deleteByNameOrAge .hostile true = .ok report ∧
      ∃ entity q, Config.hostile.entity? "Person" = some entity ∧
        Request.deleteByNameOrAge.toQuery entity = .ok q ∧
        q.IsGuarded "b` where (" entity ⟨"kind`) or (`", entity.typeAlias⟩ report.statement.text ∧
        ∀ count ∈ report.count, { q with projection := .count }.IsGuarded "b` where (" entity
          ⟨"kind`) or (`", entity.typeAlias⟩ count.text := by
  obtain ⟨report, h⟩ := exists_of_isOk (x := ofRequest .deleteByNameOrAge .hostile true) (by decide)
  exact ⟨report, h, statement_is_guarded h⟩

end DocQuery
