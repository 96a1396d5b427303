import DocQuery.Proofs.Query.Clauses
/-!
# Counting the documents of a query

The statement of a query and the one that counts its documents have the same condition and the same
parameters, and the order of the query alone can make a difference between them
(`count_keeps_step`).
-/

namespace DocQuery

open Fragment

namespace Query

variable {q : Query} {ctx : Context} {s : Statement} {fault : Fault}

/-! ### Conditions -/

/-- The text of the condition: the criteria with its placeholders, in parentheses beside the
comparison with the mark of the entity. -/
def condition (q : Query) (ctx : Context) : Except Fault (Option String) :=
  match q.criteria, ctx.typeFilter with
  | none, none => .ok none
  | some criteria, none => some <$> (criteria.bound (.empty ctx.style)).1
  | none, some filter => .ok (some filter.text)
  | some criteria, some filter =>
    (fun text => some ("(" ++ text ++ ") and " ++ filter.text)) <$>
      (criteria.bound (.empty ctx.style)).1

/-- The condition behind its keyword. -/
def whereClause : Option String → String
  | none => ""
  | some condition => " WHERE " ++ condition

lemma condition_of_filter?_eq_none (h : q.filter? ctx = none) : q.condition ctx = .ok none := by
  cases hc : q.criteria <;> cases ht : ctx.typeFilter <;> simp_all [condition, filter?]

lemma bound_of_writes {c : Criteria} {style : PlaceholderStyle} {cs : List Char}
    {p : {p : Placeholders // p.style = style}}
    (h : Writes (Writer.placeholders style) c.fragment ⟨.empty style, rfl⟩ cs p) :
    (c.bound (.empty style)).1 = .ok (String.ofList cs) := by
  obtain ⟨text, htext, rfl⟩ := h
  let start : {p : Placeholders // p.style = style} := ⟨.empty style, rfl⟩
  have hwrite := congrArg Prod.fst (bound_eq_write c.fragment start)
  rw [htext] at hwrite
  rw [String.ofList_toList]
  exact hwrite

/-- What is written for the filter of a query is its condition. -/
lemma condition_of_writes {a : Fragment} {cs : List Char}
    {p : {p : Placeholders // p.style = ctx.style}} (h : q.filter? ctx = some a)
    (hwrites : Writes (Writer.placeholders ctx.style) a ⟨.empty ctx.style, rfl⟩ cs p) :
    q.condition ctx = .ok (some (String.ofList cs)) := by
  obtain ⟨c, hc, ht, hcriteria⟩ | ⟨filter, hc, ht, rfl⟩ | ⟨c, filter, text, hc, ht, hcriteria, rfl⟩ :=
    writes_filter? h hwrites
  · simp only [condition, hc, ht, bound_of_writes hcriteria]
    rfl
  · simp only [condition, hc, ht, String.ofList_toList]
  · simp only [condition, hc, ht, bound_of_writes hcriteria, String.ofList_toList]
    rfl

/-- The text of a statement is its head, its condition behind `WHERE`, and its clauses. -/
lemma condition_of_compile (h : q.compile ctx = .ok s) :
    ∃ condition clauses, q.condition ctx = .ok condition ∧ q.HasClauses ctx.entity clauses ∧
      s.text = q.headLine ctx.bucket ++ whereClause condition ++ clauses := by
  obtain ⟨clauses, hclauses, ⟨hnone, htext⟩ | ⟨a, cs, p, ha, hwrites, htext⟩⟩ := text_of_compile h
  · refine ⟨none, clauses, condition_of_filter?_eq_none hnone, hclauses, ?_⟩
    rw [htext, whereClause, String.append_empty]
  · refine ⟨_, clauses, condition_of_writes ha hwrites, hclauses, ?_⟩
    simp only [htext, whereClause, String.append_assoc]

/-! ### Statements -/

/-- The parameters of a statement are those of its criteria. -/
lemma bindings_of_compile (h : q.compile ctx = .ok s) :
    ((Placeholders.empty ctx.style).issue q.slots).finish = .ok s.bindings := by
  obtain ⟨a, ha, -⟩ := compile_eq_ok h
  obtain ⟨s', hs, hfinish⟩ := compile_of_fragment (deferredCount_of_compile h) ha
  obtain rfl : s' = s := Except.ok.inj (hs.symm.trans h)
  exact hfinish

/-- Only an order that is asked for can go wrong. -/
lemma exists_of_fragment_eq_error (h : q.fragment ctx = .error fault) :
    q.projection = .entity ∧ ∃ order ∈ q.sort,
      ctx.entity.resolve order.property = .error fault := by
  rw [fragment, withClauses] at h
  split at h
  · next hprojection =>
    obtain h | ⟨_, -, h⟩ := of_bind_eq_error h
    · rw [withOrder] at h
      split at h
      · simp [pure, Except.pure] at h
      · obtain h | ⟨_, -, h⟩ := of_bind_eq_error h
        · obtain ⟨order, horder, h⟩ := exists_of_mapM_eq_error h
          obtain h | ⟨_, -, h⟩ := of_bind_eq_error h
          · exact ⟨hprojection, order, horder, h⟩
          · simp [pure, Except.pure] at h
        · simp [pure, Except.pure] at h
    · simp [pure, Except.pure] at h
  · simp [pure, Except.pure] at h
  · simp [pure, Except.pure] at h
  · simp [pure, Except.pure] at h

/-- A query whose operands are all known has no statement only if it has no fragment. -/
lemma fragment_of_compile_eq_error (hknown : q.deferredCount = 0)
    (h : q.compile ctx = .error fault) : q.fragment ctx = .error fault := by
  cases ha : q.fragment ctx with
  | ok a =>
    obtain ⟨s, hs, -⟩ := compile_of_fragment hknown ha
    rw [hs] at h
    simp at h
  | error fault' =>
    rw [compile, if_neg (by simpa using hknown), ha] at h
    exact congrArg Except.error (Except.error.inj h)

/-- The documents of a query whose operands are all known can be counted. -/
lemma exists_compileCount (hknown : q.deferredCount = 0) (ctx : Context) :
    ∃ n condition, q.compileCount ctx = .ok n ∧
      ((Placeholders.empty ctx.style).issue q.slots).finish = .ok n.bindings ∧
      n.style = ctx.style ∧ q.condition ctx = .ok condition ∧
      n.text = "SELECT COUNT(*) AS count FROM " ++ Quoted.identifier ctx.bucket ++
        whereClause condition := by
  have hcount : { q with projection := .count }.fragment ctx = .ok _ := rfl
  obtain ⟨n, hn, hfinish⟩ :=
    compile_of_fragment (q := { q with projection := .count }) hknown hcount
  obtain ⟨_, -, -, -, hstyle⟩ := compile_eq_ok hn
  obtain ⟨condition, _, hcondition, rfl, htext⟩ := condition_of_compile hn
  refine ⟨n, condition, hn, hfinish, hstyle, hcondition, ?_⟩
  rw [htext, String.append_empty]
  rfl

/-- If a query has a statement, so has the query for the number of its documents, with the same
parameters and the same condition, and nothing behind it. If the documents can be counted, only an
order of documents by a property that the entity does not have keeps the query from having a
statement. -/
theorem count_keeps_step (q : Query) (ctx : Context) :
    (∀ s, q.compile ctx = .ok s →
      ∃ n condition clauses, q.compileCount ctx = .ok n ∧ n.bindings = s.bindings ∧
        n.style = s.style ∧ q.condition ctx = .ok condition ∧ q.HasClauses ctx.entity clauses ∧
        s.text = q.headLine ctx.bucket ++ whereClause condition ++ clauses ∧
        n.text = "SELECT COUNT(*) AS count FROM " ++ Quoted.identifier ctx.bucket ++
          whereClause condition) ∧
    ∀ n, q.compileCount ctx = .ok n → ∀ fault, q.compile ctx = .error fault →
      q.projection = .entity ∧ ∃ order ∈ q.sort,
        ctx.entity.resolve order.property = .error fault ∧
        fault = .unknownProperty order.property := by
  constructor
  · intro s hs
    have hknown := deferredCount_of_compile hs
    obtain ⟨n, condition, hn, hfinish, hstyle, hcondition, htext⟩ := exists_compileCount hknown ctx
    obtain ⟨_, -, -, -, hstyle'⟩ := compile_eq_ok hs
    obtain ⟨condition', clauses, hcondition', hclauses, htext'⟩ := condition_of_compile hs
    obtain rfl : condition = condition' := Except.ok.inj (hcondition.symm.trans hcondition')
    have hbindings : n.bindings = s.bindings :=
      Except.ok.inj (hfinish.symm.trans (bindings_of_compile hs))
    exact ⟨n, condition, clauses, hn, hbindings, hstyle.trans hstyle'.symm, hcondition, hclauses,
      htext', htext⟩
  · intro n hn fault hfault
    have hknown := deferredCount_of_compile (q := { q with projection := .count }) hn
    obtain ⟨hprojection, order, horder, hresolve⟩ :=
      exists_of_fragment_eq_error (fragment_of_compile_eq_error (q := q) hknown hfault)
    exact ⟨hprojection, order, horder, hresolve, Entity.resolve_eq_error hresolve⟩

/-- The ten youngest adults with a name that starts in some way. -/
def youngestAdults : Query :=
  ⟨some (((Criterion.on (.ofKey "age")).relate .gt (.int 21)).and
      ((Criterion.on (.ofKey "name")).relate .startsWith (.string "A"))),
    .entity, true, [⟨"age", .asc, false⟩], some 10, none⟩

/-- The same adults by a property that persons do not have. -/
def tallestAdults : Query :=
  { youngestAdults with sort := [⟨"age", .asc, false⟩, ⟨"size", .desc, false⟩] }

theorem count_of_adults :
    let ctx : Context := ⟨"b", .named, .person, some ⟨"kind", "Person"⟩⟩
    (∃ s n, youngestAdults.compile ctx = .ok s ∧ youngestAdults.compileCount ctx = .ok n ∧
      n.bindings = s.bindings) ∧
    ∃ fault, tallestAdults.compile ctx = .error fault ∧
      ∃ order ∈ tallestAdults.sort, fault = .unknownProperty order.property := by
  intro ctx
  constructor
  · obtain ⟨s, hs⟩ := exists_of_isOk (x := youngestAdults.compile ctx) (by decide)
    obtain ⟨n, -, -, hn, hbindings, -⟩ := (count_keeps_step youngestAdults ctx).1 s hs
    exact ⟨s, n, hs, hn, hbindings⟩
  · obtain ⟨n, hn⟩ := exists_of_isOk (x := tallestAdults.compileCount ctx) (by decide)
    obtain ⟨-, order, horder, -, hfault⟩ := (count_keeps_step tallestAdults ctx).2 n hn _ rfl
    exact ⟨_, rfl, order, horder, hfault⟩

end Query

end DocQuery
