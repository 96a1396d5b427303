import DocQuery.Proofs.Config
import DocQuery.Proofs.Json.Doubles
import DocQuery.Proofs.Request.Depth
import DocQuery.Report.Basic
/-!
# Saving and reloading

A request that is saved and read again is in normal form, and has the same outcome as before; a
configuration is the same (`saved_is_reloaded`). Both can nest only as deep as JSON is read: deeper
ones are saved, but refused when they are read (`Config.nested_is_refused`).
-/

namespace DocQuery

open Json

/-! ### Requests -/

namespace Request

/-- The text of a request is read as the request in normal form. -/
theorem parse?_compact {r : Request} (hdepth : r.toJson.depth ≤ maxDepth)
    (hdoubles : DoublesReadBack r.toJson.doubles) :
    (parse? r.toJson.compact).bind ofJson? = some r.normal := by
  rw [parse?_compact_of_hasText r.hasText_toJson hdoubles hdepth]
  exact r.ofJson?_toJson

lemma normal_of_parse? {text : String} {r : Request} (h : (parse? text).bind ofJson? = some r) :
    r.normal = r := by
  obtain ⟨j, -, hr⟩ := Option.bind_eq_some_iff.mp h
  exact normal_of_ofJson? hr

/-- What is read can be saved, and is read again as it is. -/
theorem parse?_compact_of_parse? {text : String} {r : Request}
    (h : (parse? text).bind ofJson? = some r) (hdoubles : DoublesReadBack r.toJson.doubles) :
    (parse? r.toJson.compact).bind ofJson? = some r := by
  obtain ⟨j, hj, hr⟩ := Option.bind_eq_some_iff.mp h
  have hread : j.depth ≤ maxDepth := depth_of_parse? hj
  have hwritten : r.toJson.depth ≤ max requiredDepth j.depth := depth_of_ofJson? hr
  have hdepth : r.toJson.depth ≤ maxDepth :=
    Nat.le_trans hwritten (Nat.max_le.mpr ⟨by decide, hread⟩)
  rw [parse?_compact hdepth hdoubles, normal_of_ofJson? hr]

/-- A request in normal form has the same statements and values. -/
theorem sameOutcome_normal (r : Request) (ctx : Context) (withCount : Bool) :
    SameOutcome (Report.inContext r.normal ctx withCount) (Report.inContext r ctx withCount) := by
  rw [Report.inContext, Report.inContext, r.entity_normal]
  exact (r.toQuery_normal ctx.entity).bind fun query => .refl _

end Request

/-! ### Saving and reloading -/

/-- Requests that are saved are read again in normal form, which has the same outcome in every
context, and what is read stays as it is. Configurations are read again as they are. -/
theorem saved_is_reloaded :
    (∀ r : Request, r.toJson.depth ≤ maxDepth → DoublesReadBack r.toJson.doubles →
      (parse? r.toJson.compact).bind Request.ofJson? = some r.normal) ∧
    (∀ (r : Request) (ctx : Context) (withCount : Bool),
      SameOutcome (Report.inContext r.normal ctx withCount) (Report.inContext r ctx withCount)) ∧
    (∀ (text : String) (r : Request), (parse? text).bind Request.ofJson? = some r →
      r.normal = r ∧ (DoublesReadBack r.toJson.doubles →
        (parse? r.toJson.compact).bind Request.ofJson? = some r)) ∧
    ∀ c : Config, c.toJson.depth ≤ maxDepth → Config.parse? c.toJson.compact = some c := by
  refine ⟨fun r => Request.parse?_compact, Request.sameOutcome_normal, fun text r h => ?_, ?_⟩
  · exact ⟨Request.normal_of_parse? h, Request.parse?_compact_of_parse? h⟩
  · intro c hdepth
    rw [c.parse?_compact, if_pos hdepth]

/-- A request with arrays for arguments, one of them inside another. -/
def Request.withArrays : Request :=
  .method {
    entity := "Person"
    method := "findByAgeInAndNameIn"
    args := [.value (.array [.int 1, .array [.null]]), .collection [.value (.array []), .enum "Ann"]]
    page := some ⟨0, 10, [⟨"age", .desc, false⟩]⟩ }

/-- A configuration with a property in another one. -/
def Config.withAddress : Config where
  bucket := "travel"
  style := .named
  typeKey := "type"
  entities := [⟨"Person", some "person", [⟨"address", some "addr", .object,
    [⟨"city", none, .string, []⟩]⟩]⟩]

/-- The arrays come back as collections, and the configuration as it was. -/
theorem arrays_and_address_are_reloaded :
    (parse? Request.withArrays.toJson.compact).bind Request.ofJson? =
      some (.method {
        entity := "Person"
        method := "findByAgeInAndNameIn"
        args := [.collection [.value (.int 1), .collection [.value .null]],
          .collection [.collection [], .enum "Ann"]]
        page := some ⟨0, 10, [⟨"age", .desc, false⟩]⟩ }) ∧
    Config.parse? Config.withAddress.toJson.compact = some Config.withAddress := by
  have hdoubles : DoublesReadBack Request.withArrays.toJson.doubles := by
    have hnone : Request.withArrays.toJson.doubles = [] := rfl
    rw [hnone]
    exact List.forall_mem_nil _
  exact ⟨saved_is_reloaded.1 Request.withArrays (by decide) hdoubles,
    saved_is_reloaded.2.2.2 Config.withAddress (by decide)⟩

/-! ### What nests too deep -/

/-- A property that nests a number of properties. -/
def Property.nested : Nat → Property
  | 0 => ⟨"p", none, .string, []⟩
  | n + 1 => ⟨"p", none, .object, [nested n]⟩

/-- A configuration of one entity with nested properties. -/
def Config.nested (n : Nat) : Config where
  bucket := "b"
  style := .positional
  typeKey := "_class"
  entities := [⟨"A", none, [.nested n]⟩]

lemma Property.depth_nested (n : Nat) : (nested n).toJson.depth = 2 * n + 1 := by
  induction n with
  | zero => rfl
  | succ n ih =>
    simp [nested, toJson, toJsons, Json.depth, fieldDepths, depths, ih]
    omega

lemma Config.depth_nested (n : Nat) : (nested n).toJson.depth = 2 * n + 5 := by
  simp [nested, toJson, Entity.toJson, Property.toJsons, Json.depth, fieldDepths, depths,
    Property.depth_nested]

/-- Properties can be nested so deep that the configuration is saved, but refused when it is read. -/
theorem Config.nested_is_refused :
    parse? (nested 62).toJson.compact = none ∧
      ¬ ∀ c : Config, parse? c.toJson.compact = some c := by
  have hrefused : parse? (nested 62).toJson.compact = none := by
    rw [parse?_compact, depth_nested, if_neg (by decide)]
  refine ⟨hrefused, fun h => ?_⟩
  rw [h] at hrefused
  exact absurd hrefused (by simp)

end DocQuery
