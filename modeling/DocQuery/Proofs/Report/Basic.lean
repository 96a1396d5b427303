import DocQuery.Proofs.Outcome
import DocQuery.Report.Basic
/-!
# What a report is made of

The statements of a report are compiled of one query, in the context of the entity that the request
is about.
-/

namespace DocQuery.Report

variable {r : Request} {ctx : Context} {withCount : Bool} {report : Report}

lemma inContext_eq_ok (h : inContext r ctx withCount = .ok report) :
    ∃ q, r.toQuery ctx.entity = .ok q ∧ q.compile ctx = .ok report.statement ∧
      ((withCount = false ∧ report.count = none) ∨
        ∃ s, withCount = true ∧ report.count = some s ∧
          Query.compile { q with projection := .count } ctx = .ok s) := by
  obtain ⟨q, hq, h⟩ := exists_of_bind_eq_ok h
  obtain ⟨s, hs, h⟩ := exists_of_bind_eq_ok h
  cases withCount with
  | false =>
    obtain rfl := Except.ok.inj h
    exact ⟨q, hq, hs, .inl ⟨rfl, rfl⟩⟩
  | true =>
    obtain ⟨count, hcount, h⟩ := exists_of_bind_eq_ok h
    obtain rfl := Except.ok.inj h
    exact ⟨q, hq, hs, .inr ⟨count, rfl, rfl, hcount⟩⟩

/-- The context is that of the entity in the configuration, whose documents bear its mark. -/
lemma ofRequest_eq_ok {config : Config} (h : ofRequest r config withCount = .ok report) :
    ∃ entity, config.entity? r.entity = some entity ∧
      inContext r ⟨config.bucket, config.style, entity, some ⟨config.typeKey, entity.typeAlias⟩⟩
        withCount = .ok report := by
  rw [ofRequest, Config.context] at h
  cases hentity : config.entity? r.entity with
  | none => simp [hentity] at h
  | some entity =>
    simp only [hentity] at h
    exact ⟨entity, rfl, eq_ok_of_mapError_eq_ok h⟩

end DocQuery.Report
