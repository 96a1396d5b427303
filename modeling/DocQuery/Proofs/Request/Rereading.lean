import DocQuery.Proofs.Json.Doubles
import DocQuery.Proofs.Request.Normal
/-!
# Requests and arguments read from their texts

An argument is read alike from a text of its own and within the text of a request: in normal form,
with its doubles as their texts are read (`Argument.ofJson?_of_isTextOf`,
`MethodRequest.ofJson?_of_isTextOf`).
-/

namespace DocQuery

open Json

/-- The text is read as the compact text of the value is. -/
def Json.IsTextOf (text : String) (j : Json) : Prop := parse? text = parse? j.compact

/-! ### Values and arguments -/

namespace Value

mutual

/-- The value with its doubles as their texts are read. -/
def reread : Value → Value
  | .float x => .float (readDouble x)
  | .array items => .array (rereads items)
  | v => v

/-- The items of an array with their doubles as they are read. -/
def rereads : List Value → List Value
  | [] => []
  | v :: vs => reread v :: rereads vs

end

mutual

lemma toJson_reread : ∀ v : Value, v.reread.toJson = v.toJson.reread
  | .array items => by rw [reread, toJson, toJsons_rereads items, toJson, Json.reread]
  | .float _ | .null | .bool _ | .int _ | .string _ => rfl

lemma toJsons_rereads : ∀ vs : List Value, toJsons (rereads vs) = rereadItems (toJsons vs)
  | [] => rfl
  | v :: vs => by rw [rereads, toJsons, toJson_reread v, toJsons_rereads vs, toJsons, rereadItems]

end

end Value

namespace Argument

mutual

/-- The argument with its doubles as their texts are read. -/
def reread : Argument → Argument
  | .enum name => .enum name
  | .collection items => .collection (rereads items)
  | .value v => .value v.reread

/-- The items of a collection with their doubles as they are read. -/
def rereads : List Argument → List Argument
  | [] => []
  | a :: as => reread a :: rereads as

end

mutual

lemma toJson_reread : ∀ a : Argument, a.reread.toJson = a.toJson.reread
  | .enum _ => rfl
  | .collection items => by rw [reread, toJson, toJsons_rereads items, toJson, Json.reread]
  | .value v => v.toJson_reread

lemma toJsons_rereads : ∀ as : List Argument, toJsons (rereads as) = rereadItems (toJsons as)
  | [] => rfl
  | a :: as => by rw [rereads, toJsons, toJson_reread a, toJsons_rereads as, toJsons, rereadItems]

end

/-- An argument is read from a text of its own. -/
theorem ofJson?_of_isTextOf {text : String} {a : Argument} (h : IsTextOf text a.toJson)
    (hx : DoublesAreRead a.toJson.doubles) (hdepth : a.toJson.depth ≤ maxDepth) :
    (parse? text).bind ofJson? = some a.reread.normal := by
  rw [h, parse?_compact_of_doublesAreRead a.hasText_toJson hx hdepth, ← toJson_reread]
  exact a.reread.ofJson?_toJson

end Argument

/-! ### Requests -/

lemma Json.rereadItems_map {α : Type} {toJson : α → Json} (h : ∀ a, (toJson a).reread = toJson a)
    (as : List α) : rereadItems (as.map toJson) = as.map toJson := by
  induction as with
  | nil => rfl
  | cons a as ih => rw [List.map_cons, rereadItems, h, ih]

lemma Page.reread_toJson (p : Page) : p.toJson.reread = p.toJson := by
  have hsort : rereadItems (p.sort.map Order.toJson) = p.sort.map Order.toJson :=
    rereadItems_map (fun _ => rfl) p.sort
  simp [toJson, Json.reread, rereadFields, hsort]

lemma reread_nullable_page (page : Option Page) :
    (nullable Page.toJson page).reread = nullable Page.toJson page := by
  cases page with
  | none => rfl
  | some p => exact p.reread_toJson

namespace MethodRequest

/-- The request with the doubles of its arguments as their texts are read. -/
def reread (r : MethodRequest) : MethodRequest := { r with args := Argument.rereads r.args }

lemma toJson_reread (r : MethodRequest) :
    (Request.method r.reread).toJson = (Request.method r).toJson.reread := by
  simp [Request.toJson, fields, reread, Json.reread, rereadFields, Argument.toJsons_rereads,
    reread_nullable_page]

/-- A request is read from its text. -/
theorem ofJson?_of_isTextOf {text : String} {r : MethodRequest}
    (h : IsTextOf text (Request.method r).toJson)
    (hx : DoublesAreRead (Request.method r).toJson.doubles)
    (hdepth : (Request.method r).toJson.depth ≤ maxDepth) :
    (parse? text).bind Request.ofJson? = some (.method r.reread.normal) := by
  rw [h, parse?_compact_of_doublesAreRead (Request.hasText_toJson _) hx hdepth, ← toJson_reread]
  exact Request.ofJson?_toJson _

/-- The arguments are parts of the request. -/
lemma doubles_toJson (r : MethodRequest) :
    (Request.method r).toJson.doubles =
      itemDoubles (Argument.toJsons r.args) ++ (nullable Page.toJson r.page).doubles := by
  simp [Request.toJson, fields, Json.doubles, fieldDoubles]

lemma depths_lt_depth (r : MethodRequest) :
    depths (Argument.toJsons r.args) < (Request.method r).toJson.depth := by
  simp only [Request.toJson, fields, Json.depth, fieldDepths]
  omega

end MethodRequest

end DocQuery
