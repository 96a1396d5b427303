import DocQuery.Proofs.Criteria.Normal
import DocQuery.Proofs.Predicate.Normal
import DocQuery.Proofs.Query.Shape
import DocQuery.Request
/-!
# Requests in normal form

A request is read back from its JSON with its arguments in normal form (`Request.ofJson?_toJson`),
what is read is in normal form (`Request.normal_of_ofJson?`), and the query is that of the request or
refused for a reason of the same kind (`Request.toQuery_normal`).
-/

namespace DocQuery

open Json

/-! ### Fields that may be absent -/

section

variable {α : Type} {toJson : α → Json} {read : Json → Option α}

lemma hasText_nullable (h : ∀ a, (toJson a).HasText) (a : Option α) :
    (nullable toJson a).HasText := by
  cases a with
  | none => exact .null
  | some a => exact h a

lemma optional_nullable (hread : ∀ a, read (toJson a) = some a) (hnull : ∀ a, toJson a ≠ .null)
    (a : Option α) : Json.optional read (some (nullable toJson a)) = some a := by
  cases a with
  | none => rfl
  | some a =>
    rw [nullable, Json.optional, hread]
    · rfl
    · exact hnull a

lemma exists_of_optional {j : Option Json} {a : α} (h : Json.optional read j = some (some a)) :
    ∃ k, j = some k ∧ read k = some a := by
  unfold Json.optional at h
  split at h
  · exact absurd (Option.some.inj h) (by simp)
  · exact absurd (Option.some.inj h) (by simp)
  · next k _ =>
    obtain ⟨b, hb, heq⟩ := Option.map_eq_some_iff.mp h
    obtain rfl := Option.some.inj heq
    exact ⟨k, rfl, hb⟩

lemma map_of_optional {f : α → α} (h : ∀ j a, read j = some a → f a = a) {j : Option Json}
    {a : Option α} (hread : Json.optional read j = some a) : a.map f = a := by
  cases a with
  | none => rfl
  | some a =>
    obtain ⟨k, rfl, hk⟩ := exists_of_optional hread
    rw [Option.map_some, h _ _ hk]

lemma optional_uint64Json (n : Option UInt64) :
    Json.optional uint64? (some (nullable uint64Json n)) = some n :=
  optional_nullable uint64?_toNat (fun _ => Json.noConfusion) n

lemma optional_page (nothing : Nothing) (page : Option Page) :
    Json.optional (Page.ofJson? nothing) (some (nullable Page.toJson page)) = some page :=
  optional_nullable (Page.ofJson?_toJson nothing) (fun _ => Json.noConfusion) page

end

/-! ### Requests by predicate -/

namespace PredicateRequest

/-- The request with its condition in normal form. -/
def normal (r : PredicateRequest) : PredicateRequest :=
  { r with condition := r.condition.map Predicate.normal }

lemma hasText_fields (r : PredicateRequest) : ∀ field ∈ r.fields, field.2.HasText := by
  have hcondition : ∀ field ∈ (r.condition.map fun p => ("where", p.toJson)).toList,
      field.2.HasText := by
    cases r.condition with
    | none => simp
    | some p => simpa using p.hasText_toJson
  have hrest : ∀ field ∈ [("projection", Json.string r.projection.name),
      ("distinct", .bool r.distinct), ("sort", .array (r.sort.map Order.toJson)),
      ("limit", nullable uint64Json r.limit), ("offset", nullable uint64Json r.offset),
      ("page", nullable Page.toJson r.page)], field.2.HasText := by
    simp only [List.forall_mem_cons]
    exact ⟨.string _, .bool _, hasText_array_map Order.hasText_toJson _,
      hasText_nullable hasText_toNat _, hasText_nullable hasText_toNat _,
      hasText_nullable Page.hasText_toJson _, by simp⟩
  rw [fields, List.forall_mem_append, List.forall_mem_append]
  exact ⟨⟨by simpa using Json.HasText.string r.entity, hcondition⟩, hrest⟩

variable {nothing : Nothing}

lemma record?_fields (r : PredicateRequest) :
    (Json.object r.fields).record? ["entity", "where", "projection", "distinct", "sort", "limit",
      "offset", "page"] =
    some [some (.string r.entity), r.condition.map Predicate.toJson,
      some (.string r.projection.name), some (.bool r.distinct),
      some (.array (r.sort.map Order.toJson)), some (nullable uint64Json r.limit),
      some (nullable uint64Json r.offset), some (nullable Page.toJson r.page)] := by
  cases h : r.condition <;> simp [record?, field?, fields, h]

/-- A request is read field by field. -/
lemma ofJson?_of_record? {j : Json} {r : PredicateRequest}
    {entity condition projection distinct sort limit offset page : Option Json}
    (hrecord : j.record? ["entity", "where", "projection", "distinct", "sort", "limit", "offset",
      "page"] = some [entity, condition, projection, distinct, sort, limit, offset, page])
    (hentity : required string? entity = some r.entity)
    (hcondition : Json.optional (Predicate.ofJson? nothing) condition = some r.condition)
    (hprojection : withDefault .entity (Projection.ofJson? nothing) projection = some r.projection)
    (hdistinct : withDefault false bool? distinct = some r.distinct)
    (hsort : withDefault [] (list? (Order.ofJson? nothing)) sort = some r.sort)
    (hlimit : Json.optional uint64? limit = some r.limit)
    (hoffset : Json.optional uint64? offset = some r.offset)
    (hpage : Json.optional (Page.ofJson? nothing) page = some r.page) :
    ofJson? nothing j = some r := by
  simp [ofJson?, hrecord, hentity, hcondition, hprojection, hdistinct, hsort, hlimit, hoffset, hpage]

lemma optional_condition (nothing : Nothing) (condition : Option Predicate) :
    Json.optional (Predicate.ofJson? nothing) (condition.map Predicate.toJson) =
      some (condition.map Predicate.normal) := by
  cases condition with
  | none => rfl
  | some p =>
    rw [Option.map_some, Json.optional, Predicate.ofJson?_toJson]
    · rfl
    · cases p <;> exact Json.noConfusion

lemma ofJson?_fields (nothing : Nothing) (r : PredicateRequest) :
    ofJson? nothing (.object r.fields) = some r.normal :=
  ofJson?_of_record? r.record?_fields rfl (optional_condition nothing r.condition)
    (Projection.ofJson?_name nothing r.projection) rfl
    (list?_map (Order.ofJson?_toJson nothing) r.sort) (optional_uint64Json r.limit)
    (optional_uint64Json r.offset) (optional_page nothing r.page)

lemma normal_of_ofJson? {j : Json} {r : PredicateRequest} (h : ofJson? nothing j = some r) :
    r.normal = r := by
  obtain ⟨values, -, h⟩ := Option.bind_eq_some_iff.mp h
  split at h
  · obtain ⟨entity, -, h⟩ := Option.bind_eq_some_iff.mp h
    obtain ⟨condition, hcondition, h⟩ := Option.bind_eq_some_iff.mp h
    obtain ⟨projection, -, h⟩ := Option.bind_eq_some_iff.mp h
    obtain ⟨distinct, -, h⟩ := Option.bind_eq_some_iff.mp h
    obtain ⟨sort, -, h⟩ := Option.bind_eq_some_iff.mp h
    obtain ⟨limit, -, h⟩ := Option.bind_eq_some_iff.mp h
    obtain ⟨offset, -, h⟩ := Option.bind_eq_some_iff.mp h
    obtain ⟨page, -, h⟩ := Option.bind_eq_some_iff.mp h
    obtain rfl := Option.some.inj h
    rw [normal, map_of_optional (fun _ _ => Predicate.normal_of_ofJson?) hcondition]
  · exact absurd h (by simp)

lemma toQuery_normal (r : PredicateRequest) (entity : Entity) :
    SameOutcome (r.normal.toQuery entity) (r.toQuery entity) := by
  obtain ⟨name, condition, projection, distinct, sort, limit, offset, page⟩ := r
  cases condition with
  | none => exact .refl _
  | some p =>
    have hcriteria : SameOutcome (some <$> p.normal.toCriteria entity)
        (some <$> p.toCriteria entity) := by
      rw [map_eq_pure_bind, map_eq_pure_bind]
      exact (p.toCriteria_normal entity).bind fun c => .refl _
    exact hcriteria.bind fun criteria => .refl _

end PredicateRequest

/-! ### Requests by method name -/

lemma Argument.list?_toJsons (as : List Argument) :
    list? ofJson? (.array (toJsons as)) = some (normals as) := by
  have hread : (toJsons as).mapM ofJson? = some (normals as) := by
    induction as with
    | nil => rfl
    | cons a as ih => simp [toJsons, List.mapM_cons, ofJson?_toJson, ih, normals]
  exact hread

lemma Argument.length_normals (as : List Argument) : (normals as).length = as.length := by
  induction as with
  | nil => rfl
  | cons a as ih => rw [normals, List.length_cons, ih, List.length_cons]

lemma Argument.normals_of_list? {j : Json} {as : List Argument} (h : list? ofJson? j = some as) :
    normals as = as := by
  cases j with
  | array items =>
    change items.mapM ofJson? = some as at h
    induction items generalizing as with
    | nil =>
      obtain rfl := Option.some.inj h
      rfl
    | cons j js ih =>
      rw [List.mapM_cons] at h
      obtain ⟨a, ha, h⟩ := Option.bind_eq_some_iff.mp h
      obtain ⟨as, has, h⟩ := Option.bind_eq_some_iff.mp h
      obtain rfl := Option.some.inj h
      rw [normals, normal_of_ofJson? ha, ih has]
  | _ => exact absurd h (by simp [list?])

lemma Argument.normals_of_withDefault {j : Option Json} {as : List Argument}
    (h : withDefault [] (list? ofJson?) j = some as) : normals as = as := by
  cases j with
  | none =>
    obtain rfl := Option.some.inj h
    rfl
  | some j => exact normals_of_list? h

/-- A call brings its arguments in normal form or as they are. -/
lemma Prepared.bind_normals (p : Prepared) (args : List Argument) (page : Option Page) :
    SameOutcome (p.bind (Argument.normals args) page) (p.bind args page) := by
  rw [bind, bind, Argument.length_normals]
  split
  · exact .refl _
  · cases p.criteria with
    | none => exact .refl _
    | some c =>
      have hcriteria : SameOutcome (some <$> (c.resolve.run.run (Argument.normals args)).1)
          (some <$> (c.resolve.run.run args).1) := by
        rw [map_eq_pure_bind, map_eq_pure_bind]
        exact (c.takesAlike_resolve args).1.bind fun c => .refl _
      exact hcriteria.bind fun criteria => .refl _

namespace MethodRequest

/-- The request with its arguments in normal form. -/
def normal (r : MethodRequest) : MethodRequest := { r with args := Argument.normals r.args }

lemma hasText_fields (r : MethodRequest) : ∀ field ∈ r.fields, field.2.HasText := by
  simp only [fields, List.forall_mem_cons]
  exact ⟨.string _, .string _, .array (Argument.hasText_toJsons r.args),
    hasText_nullable Page.hasText_toJson _, by simp⟩

variable {nothing : Nothing}

/-- A request is read field by field. -/
lemma ofJson?_of_record? {j : Json} {r : MethodRequest} {entity method args page : Option Json}
    (hrecord : j.record? ["entity", "method", "args", "page"] = some [entity, method, args, page])
    (hentity : required string? entity = some r.entity)
    (hmethod : required string? method = some r.method)
    (hargs : withDefault [] (list? Argument.ofJson?) args = some r.args)
    (hpage : Json.optional (Page.ofJson? nothing) page = some r.page) :
    ofJson? nothing j = some r := by
  simp [ofJson?, hrecord, hentity, hmethod, hargs, hpage]

lemma record?_fields (r : MethodRequest) :
    (Json.object r.fields).record? ["entity", "method", "args", "page"] =
      some [some (.string r.entity), some (.string r.method), some (.array (Argument.toJsons r.args)),
        some (nullable Page.toJson r.page)] := by
  simp [record?, field?, fields]

lemma ofJson?_fields (nothing : Nothing) (r : MethodRequest) :
    ofJson? nothing (.object r.fields) = some r.normal :=
  ofJson?_of_record? r.record?_fields rfl rfl (Argument.list?_toJsons r.args)
    (optional_page nothing r.page)

lemma normal_of_ofJson? {j : Json} {r : MethodRequest} (h : ofJson? nothing j = some r) :
    r.normal = r := by
  obtain ⟨values, -, h⟩ := Option.bind_eq_some_iff.mp h
  split at h
  · obtain ⟨entity, -, h⟩ := Option.bind_eq_some_iff.mp h
    obtain ⟨method, -, h⟩ := Option.bind_eq_some_iff.mp h
    obtain ⟨args, hargs, h⟩ := Option.bind_eq_some_iff.mp h
    obtain ⟨page, -, h⟩ := Option.bind_eq_some_iff.mp h
    obtain rfl := Option.some.inj h
    rw [normal, Argument.normals_of_withDefault hargs]
  · exact absurd h (by simp)

lemma toQuery_normal (r : MethodRequest) (entity : Entity) :
    SameOutcome (r.normal.toQuery entity) (r.toQuery entity) := by
  refine (SameOutcome.refl (MethodName.decode r.method)).bind fun m => ?_
  exact (SameOutcome.refl (m.prepare entity)).bind fun p => p.bind_normals r.args r.page

end MethodRequest

/-! ### Requests -/

namespace Request

/-- The request with its arguments in normal form. -/
def normal : Request → Request
  | .predicate r => .predicate r.normal
  | .method r => .method r.normal

lemma entity_normal (r : Request) : r.normal.entity = r.entity := by
  cases r with
  | predicate r => rfl
  | method r => rfl

theorem hasText_toJson (r : Request) : r.toJson.HasText := by
  cases r with
  | predicate r => exact .object (List.forall_mem_cons.mpr ⟨.string _, r.hasText_fields⟩)
  | method r => exact .object (List.forall_mem_cons.mpr ⟨.string _, r.hasText_fields⟩)

/-- The kind of a request stands in front of its fields, none of which bears that name. -/
lemma ofJson?_kind {kind : Json} {fields : List (String × Json)}
    (hsound : (Json.object (("kind", kind) :: fields)).isSound = true)
    (h : ∀ field ∈ fields, field.1 ≠ "kind") :
    ofJson? (.object (("kind", kind) :: fields)) = ofKind? kind (.object fields) := by
  have hnone : fields.filter (·.1 == "kind") = [] := by
    simpa [List.filter_eq_nil_iff] using h
  have hall : fields.filter (·.1 != "kind") = fields := by
    simpa [List.filter_eq_self] using h
  simp [ofJson?, hsound, field?, hnone, hall, required]

/-- A request is read back in normal form. -/
theorem ofJson?_toJson (r : Request) : ofJson? r.toJson = some r.normal := by
  have hsound := r.hasText_toJson.isSound
  cases r with
  | predicate r =>
    rw [toJson] at hsound ⊢
    rw [ofJson?_kind hsound, ofKind?, r.ofJson?_fields]
    · rfl
    · cases h : r.condition <;> simp [PredicateRequest.fields, h]
  | method r =>
    rw [toJson] at hsound ⊢
    rw [ofJson?_kind hsound, ofKind?, r.ofJson?_fields]
    · rfl
    · simp [MethodRequest.fields]

lemma normal_of_ofKind? {kind body : Json} {r : Request} (h : ofKind? kind body = some r) :
    r.normal = r := by
  unfold ofKind? at h
  split at h
  · obtain ⟨r, hr, rfl⟩ := Option.map_eq_some_iff.mp h
    rw [normal, PredicateRequest.normal_of_ofJson? hr]
  · obtain ⟨r, hr, rfl⟩ := Option.map_eq_some_iff.mp h
    rw [normal, MethodRequest.normal_of_ofJson? hr]
  · exact absurd h (by simp)

/-- What is read is in normal form. -/
theorem normal_of_ofJson? {j : Json} {r : Request} (h : ofJson? j = some r) : r.normal = r := by
  unfold ofJson? at h
  split at h
  · exact absurd h (by simp)
  · split at h
    · obtain ⟨_, -, h⟩ := Option.bind_eq_some_iff.mp h
      obtain ⟨kind, -, h⟩ := Option.bind_eq_some_iff.mp h
      exact normal_of_ofKind? h
    · exact normal_of_ofKind? h
    · exact absurd h (by simp)

/-- A request in normal form asks the same query. -/
theorem toQuery_normal (r : Request) (entity : Entity) :
    SameOutcome (r.normal.toQuery entity) (r.toQuery entity) := by
  cases r with
  | predicate r => exact r.toQuery_normal entity
  | method r => exact r.toQuery_normal entity

end Request

end DocQuery
