import DocQuery.Proofs.Json.Depth
import DocQuery.Proofs.Request.Normal
/-!
# How deep requests nest that are read

The JSON of a request that is read nests no deeper than what it is read from, except for fields that
are always written (`Request.depth_of_ofJson?`). So what is read can be written and read again.
-/

namespace DocQuery

open Json

/-! ### Arguments and predicates -/

mutual

lemma Argument.depth_of_ofSoundJson? : ∀ {j : Json} {a : Argument},
    ofSoundJson? j = some a → a.toJson.depth ≤ j.depth
  | .object fields, a, h => by
    obtain ⟨variant, -, h⟩ := Option.bind_eq_some_iff.mp h
    split at h
    · obtain rfl := Option.some.inj h
      simp [toJson, Json.depth, fieldDepths]
    · exact absurd h (by simp)
  | .array items, a, h => by
    obtain ⟨as, has, rfl⟩ := Option.map_eq_some_iff.mp h
    exact Nat.succ_le_succ (Argument.depth_of_ofSoundJsons? has)
  | .int n, a, h => by
    obtain rfl := Option.some.inj h
    rw [Value.ofInt]
    split <;> exact Nat.zero_le _
  | .null, a, h | .bool _, a, h | .float _, a, h | .string _, a, h => by
    obtain rfl := Option.some.inj h
    exact Nat.zero_le _
  | .flawed, a, h => by simp [ofSoundJson?] at h

lemma Argument.depth_of_ofSoundJsons? : ∀ {js : List Json} {as : List Argument},
    ofSoundJsons? js = some as → depths (toJsons as) ≤ depths js
  | [], as, h => by
    obtain rfl := Option.some.inj h
    exact Nat.zero_le _
  | j :: js, as, h => by
    obtain ⟨a, ha, h⟩ := Option.bind_eq_some_iff.mp h
    obtain ⟨as, has, h⟩ := Option.bind_eq_some_iff.mp h
    obtain rfl := Option.some.inj h
    have hj := Argument.depth_of_ofSoundJson? ha
    have hjs := Argument.depth_of_ofSoundJsons? has
    simp only [toJsons, depths]
    omega

end

lemma Argument.depth_of_ofJson? {j : Json} {a : Argument} (h : ofJson? j = some a) :
    a.toJson.depth ≤ j.depth := by
  rw [ofJson?] at h
  split at h
  · exact depth_of_ofSoundJson? h
  · exact absurd h (by simp)

lemma Argument.depth_of_list? {j : Json} {as : List Argument} (h : list? ofJson? j = some as) :
    (Json.array (toJsons as)).depth ≤ j.depth := by
  cases j with
  | array items =>
    change items.mapM ofJson? = some as at h
    refine Nat.succ_le_succ ?_
    induction items generalizing as with
    | nil =>
      obtain rfl := Option.some.inj h
      exact Nat.zero_le _
    | cons j js ih =>
      rw [List.mapM_cons] at h
      obtain ⟨a, ha, h⟩ := Option.bind_eq_some_iff.mp h
      obtain ⟨as, has, h⟩ := Option.bind_eq_some_iff.mp h
      obtain rfl := Option.some.inj h
      have hj := depth_of_ofJson? ha
      have hjs := ih has
      simp only [toJsons, depths]
      omega
  | _ => exact absurd h (by simp [list?])

namespace Predicate

variable {nothing : Nothing}

mutual

theorem depth_of_ofJson? : ∀ {j : Json} {p : Predicate},
    ofJson? nothing j = some p → p.toJson.depth ≤ j.depth
  | .object [(form, j)], p, h => by
    rw [ofJson?] at h
    split at h
    · obtain ⟨logical, -, rfl⟩ := Option.map_eq_some_iff.mp h
      simp [toJson, Json.depth, fieldDepths]
    · split at h
      · obtain ⟨a, ha, rfl⟩ := Option.map_eq_some_iff.mp h
        have hdepth := Argument.depth_of_ofJson? ha
        simp only [toJson, Json.depth, fieldDepths]
        omega
      · split at h
        · exact depth_of_operation? h
        · exact absurd h (by simp)
  | .object [], _, h | .object (_ :: _ :: _), _, h | .null, _, h | .bool _, _, h | .int _, _, h
  | .float _, _, h | .string _, _, h | .array _, _, h | .flawed, _, h => by simp [ofJson?] at h

theorem depth_of_operation? : ∀ {form : String} {j : Json} {p : Predicate},
    operation? nothing j = some p → p.toJson.depth ≤ (Json.object [(form, j)]).depth
  | _, .object fields, p, h => by
    rw [operation?] at h
    obtain ⟨_, -, h⟩ := Option.bind_eq_some_iff.mp h
    obtain ⟨op, -, h⟩ := Option.bind_eq_some_iff.mp h
    obtain ⟨_, -, h⟩ := Option.bind_eq_some_iff.mp h
    obtain ⟨_, -, h⟩ := Option.bind_eq_some_iff.mp h
    obtain ⟨args, hargs, h⟩ := Option.bind_eq_some_iff.mp h
    obtain rfl := Option.some.inj h
    have hdepth := depth_of_operands? hargs
    simp only [toJson, Json.depth, fieldDepths] at hdepth ⊢
    omega
  | _, .array [op, args], p, h => by
    rw [operation?] at h
    obtain ⟨op, -, h⟩ := Option.bind_eq_some_iff.mp h
    obtain ⟨args, hargs, h⟩ := Option.bind_eq_some_iff.mp h
    obtain rfl := Option.some.inj h
    have hdepth := depth_of_list? hargs
    simp only [toJson, Json.depth, fieldDepths, depths] at hdepth ⊢
    omega
  | _, .array [], _, h | _, .array [_], _, h | _, .array (_ :: _ :: _ :: _), _, h | _, .null, _, h
  | _, .bool _, _, h | _, .int _, _, h | _, .float _, _, h | _, .string _, _, h
  | _, .flawed, _, h => by
    simp [operation?] at h

theorem depth_of_operands? : ∀ {fields : List (String × Json)} {ps : List Predicate},
    operands? nothing fields = some ps → (Json.array (toJsons ps)).depth ≤ fieldDepths fields
  | [], _, h => by simp [operands?] at h
  | (name, j) :: fields, ps, h => by
    rw [operands?] at h
    split at h
    · exact Nat.le_trans (depth_of_list? h) (Nat.le_max_left ..)
    · exact Nat.le_trans (depth_of_operands? h) (Nat.le_max_right ..)

theorem depth_of_list? : ∀ {j : Json} {ps : List Predicate},
    list? nothing j = some ps → (Json.array (toJsons ps)).depth ≤ j.depth
  | .array items, _, h => Nat.succ_le_succ (depth_of_items? h)
  | .object _, _, h | .null, _, h | .bool _, _, h | .int _, _, h | .float _, _, h | .string _, _, h
  | .flawed, _, h => by simp [list?] at h

theorem depth_of_items? : ∀ {js : List Json} {ps : List Predicate},
    items? nothing js = some ps → depths (toJsons ps) ≤ depths js
  | [], _, h => by
    obtain rfl := Option.some.inj h
    exact Nat.zero_le _
  | j :: js, ps, h => by
    rw [items?] at h
    obtain ⟨p, hp, h⟩ := Option.bind_eq_some_iff.mp h
    obtain ⟨ps, hps, h⟩ := Option.bind_eq_some_iff.mp h
    obtain rfl := Option.some.inj h
    have hj := depth_of_ofJson? hp
    have hjs := depth_of_items? hps
    simp only [toJsons, depths]
    omega

end

end Predicate

/-! ### Fields -/

lemma depth_of_field? {name : String} {fields : List (String × Json)} {j : Json}
    (h : field? name fields = some (some j)) : j.depth ≤ fieldDepths fields := by
  unfold field? at h
  split at h
  · exact absurd (Option.some.inj h) (by simp)
  · next other k heq =>
    have hmem : (other, k) ∈ fields.filter (·.1 == name) := by simp [heq]
    rw [← Option.some.inj (Option.some.inj h)]
    exact depth_le_of_mem_fields (List.mem_of_mem_filter hmem)
  · exact absurd h (by simp)

/-- The fields of a record nest less deep than the record. -/
lemma depth_of_record? {names : List String} {j v : Json} {values : List (Option Json)}
    (h : j.record? names = some values) (hv : some v ∈ values) : v.depth < j.depth := by
  unfold record? at h
  split at h
  · next fields =>
    refine Nat.lt_succ_of_le ?_
    induction names generalizing values with
    | nil =>
      obtain rfl := Option.some.inj h
      exact absurd hv (by simp)
    | cons name names ih =>
      rw [List.mapM_cons] at h
      obtain ⟨value, hvalue, h⟩ := Option.bind_eq_some_iff.mp h
      obtain ⟨values, hvalues, h⟩ := Option.bind_eq_some_iff.mp h
      obtain rfl := Option.some.inj h
      rcases List.mem_cons.mp hv with rfl | hv
      · exact depth_of_field? hvalue
      · exact ih hv hvalues
  · next items =>
    split at h
    · obtain rfl := Option.some.inj h
      have hmem : v ∈ items := by simpa using hv
      exact Nat.lt_succ_of_le (depth_le_of_mem hmem)
    · exact absurd h (by simp)
  · exact absurd h (by simp)

lemma depth_array_map {α : Type} {toJson : α → Json} {d : Nat} (h : ∀ a, (toJson a).depth ≤ d)
    (as : List α) : (Json.array (as.map toJson)).depth ≤ d + 1 := by
  refine Nat.succ_le_succ ?_
  induction as with
  | nil => exact Nat.zero_le d
  | cons a as ih => exact Nat.max_le.mpr ⟨h a, ih⟩

lemma depth_nullable {α : Type} {toJson : α → Json} {d : Nat} (h : ∀ a, (toJson a).depth ≤ d)
    (a : Option α) : (nullable toJson a).depth ≤ d := by
  cases a with
  | none => exact Nat.zero_le d
  | some a => exact h a

lemma Order.depth_toJson (o : Order) : o.toJson.depth ≤ 1 := by
  simp [toJson, Json.depth, fieldDepths]

lemma Page.depth_toJson (p : Page) : p.toJson.depth ≤ 3 := by
  have hsort := depth_array_map Order.depth_toJson p.sort
  simp only [toJson, Json.depth, fieldDepths] at hsort ⊢
  omega

/-! ### Requests -/

/-- How deep the fields of a request nest that are always written. -/
def requiredDepth : Nat := 4

variable {nothing : Nothing} {j : Json}

/-- The fields of a request by predicate behind its condition. -/
lemma PredicateRequest.depth_fields {r : PredicateRequest} {d : Nat}
    (h : ∀ p ∈ r.condition, p.toJson.depth < d) :
    (Json.object r.fields).depth ≤ max requiredDepth d := by
  have hsort := depth_array_map Order.depth_toJson r.sort
  have hlimit : (nullable uint64Json r.limit).depth ≤ 0 := depth_nullable (fun _ => Nat.le_refl 0) _
  have hoffset : (nullable uint64Json r.offset).depth ≤ 0 :=
    depth_nullable (fun _ => Nat.le_refl 0) _
  have hpage := depth_nullable Page.depth_toJson r.page
  cases hcondition : r.condition with
  | none =>
    simp only [fields, hcondition, Option.map_none, Option.toList_none, List.append_nil,
      List.cons_append, List.nil_append, Json.depth, fieldDepths, requiredDepth] at hsort ⊢
    omega
  | some p =>
    have hp := h p (by simp [hcondition])
    simp only [fields, hcondition, Option.map_some, Option.toList_some, List.cons_append,
      List.nil_append, Json.depth, fieldDepths, requiredDepth] at hsort ⊢
    omega

lemma PredicateRequest.depth_of_ofJson? {r : PredicateRequest} (h : ofJson? nothing j = some r) :
    (Json.object r.fields).depth ≤ max requiredDepth j.depth := by
  obtain ⟨values, hvalues, h⟩ := Option.bind_eq_some_iff.mp h
  split at h
  · obtain ⟨entity, -, h⟩ := Option.bind_eq_some_iff.mp h
    obtain ⟨condition, hcondition, h⟩ := Option.bind_eq_some_iff.mp h
    obtain ⟨projection, -, h⟩ := Option.bind_eq_some_iff.mp h
    obtain ⟨distinct, -, h⟩ := Option.bind_eq_some_iff.mp h
    obtain ⟨sort, -, h⟩ := Option.bind_eq_some_iff.mp h
    obtain ⟨limit, -, h⟩ := Option.bind_eq_some_iff.mp h
    obtain ⟨offset, -, h⟩ := Option.bind_eq_some_iff.mp h
    obtain ⟨page, -, h⟩ := Option.bind_eq_some_iff.mp h
    obtain rfl := Option.some.inj h
    refine depth_fields fun p hp => ?_
    obtain rfl : condition = some p := hp
    obtain ⟨k, rfl, hk⟩ := exists_of_optional hcondition
    have hdepth := depth_of_record? hvalues (v := k) (by simp)
    have hp := Predicate.depth_of_ofJson? hk
    omega
  · exact absurd h (by simp)

lemma MethodRequest.depth_of_ofJson? {r : MethodRequest} (h : ofJson? nothing j = some r) :
    (Json.object r.fields).depth ≤ max requiredDepth j.depth := by
  obtain ⟨values, hvalues, h⟩ := Option.bind_eq_some_iff.mp h
  split at h
  · next args _ =>
    obtain ⟨entity, -, h⟩ := Option.bind_eq_some_iff.mp h
    obtain ⟨method, -, h⟩ := Option.bind_eq_some_iff.mp h
    obtain ⟨as, hargs, h⟩ := Option.bind_eq_some_iff.mp h
    obtain ⟨page, -, h⟩ := Option.bind_eq_some_iff.mp h
    obtain rfl := Option.some.inj h
    have hpage := depth_nullable Page.depth_toJson page
    have hdepth : (Json.array (Argument.toJsons as)).depth ≤ max 1 (j.depth - 1) := by
      cases args with
      | none =>
        obtain rfl := Option.some.inj hargs
        exact Nat.le_max_left ..
      | some k =>
        have hdepth := depth_of_record? hvalues (v := k) (by simp)
        have hk := Argument.depth_of_list? hargs
        omega
    simp only [fields, Json.depth, fieldDepths, requiredDepth] at hdepth ⊢
    omega
  · exact absurd h (by simp)

/-- The kind in front of the fields of a request does not nest. -/
lemma depth_kind (kind : String) (fields : List (String × Json)) :
    (Json.object (("kind", .string kind) :: fields)).depth = (Json.object fields).depth := by
  simp [Json.depth, fieldDepths]

namespace Request

lemma depth_of_ofKind? {kind body : Json} {r : Request} (h : ofKind? kind body = some r) :
    r.toJson.depth ≤ max requiredDepth body.depth := by
  unfold ofKind? at h
  split at h
  · obtain ⟨r, hr, rfl⟩ := Option.map_eq_some_iff.mp h
    rw [toJson, depth_kind]
    exact r.depth_of_ofJson? hr
  · obtain ⟨r, hr, rfl⟩ := Option.map_eq_some_iff.mp h
    rw [toJson, depth_kind]
    exact r.depth_of_ofJson? hr
  · exact absurd h (by simp)

/-- A request that is read is written no deeper than what it is read from, apart from what is always
written. -/
theorem depth_of_ofJson? {r : Request} (h : ofJson? j = some r) :
    r.toJson.depth ≤ max requiredDepth j.depth := by
  unfold ofJson? at h
  split at h
  · exact absurd h (by simp)
  · split at h
    · next fields _ =>
      obtain ⟨_, -, h⟩ := Option.bind_eq_some_iff.mp h
      obtain ⟨kind, -, h⟩ := Option.bind_eq_some_iff.mp h
      have hdepth := depth_of_ofKind? h
      have hfilter : fieldDepths (fields.filter (·.1 != "kind")) ≤ fieldDepths fields :=
        fieldDepths_le fun field hfield => depth_le_of_mem_fields (List.mem_of_mem_filter hfield)
      simp only [Json.depth] at hdepth ⊢
      omega
    · next kind items _ =>
      have hdepth := depth_of_ofKind? h
      simp only [Json.depth, depths] at hdepth ⊢
      omega
    · exact absurd h (by simp)

end Request

end DocQuery
