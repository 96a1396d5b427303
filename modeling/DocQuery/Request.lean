import DocQuery.MethodName.Decode
import DocQuery.MethodName.Prepared
import DocQuery.Predicate.Criteria
/-!
# Requests

A request asks for a statement about an entity, either by a predicate with the
shape of the result, or by the name of a method with its arguments.
-/

namespace DocQuery

/-- A request by predicate. -/
structure PredicateRequest where
  entity : String
  condition : Option Predicate
  projection : Projection
  distinct : Bool
  sort : List Order
  limit : Option UInt64
  offset : Option UInt64
  page : Option Page

/-- A request by method name. -/
structure MethodRequest where
  entity : String
  method : String
  args : List Argument
  page : Option Page

inductive Request where
  | predicate (r : PredicateRequest)
  | method (r : MethodRequest)

/-! ### Queries -/

/-- The query of a request by predicate. -/
def PredicateRequest.toQuery (r : PredicateRequest) (entity : Entity) : Except Fault Query := do
  let criteria ← match r.condition with
    | some condition => some <$> condition.toCriteria entity
    | none => pure none
  let query : Query := ⟨criteria, r.projection, r.distinct, r.sort, r.limit, r.offset⟩
  return query.onPage? r.page

/-- The query of a request by method name. -/
def MethodRequest.toQuery (r : MethodRequest) (entity : Entity) : Except Fault Query := do
  let method ← MethodName.decode r.method
  (← method.prepare entity).bind r.args r.page

namespace Request

/-- The name of the entity that a request is about. -/
def entity : Request → String
  | .predicate r => r.entity
  | .method r => r.entity

def toQuery (r : Request) (entity : Entity) : Except Fault Query :=
  match r with
  | .predicate r => r.toQuery entity
  | .method r => r.toQuery entity

end Request

/-! ### JSON -/

/-- The JSON of what may be absent. -/
def nullable {α : Type} (toJson : α → Json) : Option α → Json
  | some a => toJson a
  | none => .null

/-- The JSON of a number of 64 bits. -/
def uint64Json (n : UInt64) : Json := .int n.toNat

namespace PredicateRequest

/-- The fields of a request by predicate; an absent condition is left out. -/
def fields (r : PredicateRequest) : List (String × Json) :=
  [("entity", .string r.entity)] ++ (r.condition.map fun p => ("where", p.toJson)).toList ++
    [("projection", .string r.projection.name), ("distinct", .bool r.distinct),
      ("sort", .array (r.sort.map Order.toJson)), ("limit", nullable uint64Json r.limit),
      ("offset", nullable uint64Json r.offset), ("page", nullable Page.toJson r.page)]

/-- Reads a request by predicate. All but the entity may be left out. -/
def ofJson? (nothing : Json.Nothing) (j : Json) : Option PredicateRequest := do
  match ← j.record? ["entity", "where", "projection", "distinct", "sort", "limit", "offset",
    "page"] with
  | [entity, condition, projection, distinct, sort, limit, offset, page] =>
    return {
      entity := ← Json.required Json.string? entity
      condition := ← Json.optional (Predicate.ofJson? nothing) condition
      projection := ← Json.withDefault .entity (Projection.ofJson? nothing) projection
      distinct := ← Json.withDefault false Json.bool? distinct
      sort := ← Json.withDefault [] (Json.list? (Order.ofJson? nothing)) sort
      limit := ← Json.optional Json.uint64? limit
      offset := ← Json.optional Json.uint64? offset
      page := ← Json.optional (Page.ofJson? nothing) page }
  | _ => none

end PredicateRequest

namespace MethodRequest

/-- The fields of a request by method name. -/
def fields (r : MethodRequest) : List (String × Json) :=
  [("entity", .string r.entity), ("method", .string r.method),
    ("args", .array (Argument.toJsons r.args)), ("page", nullable Page.toJson r.page)]

/-- Reads a request by method name: without arguments and page by default. -/
def ofJson? (nothing : Json.Nothing) (j : Json) : Option MethodRequest := do
  match ← j.record? ["entity", "method", "args", "page"] with
  | [entity, method, args, page] =>
    return {
      entity := ← Json.required Json.string? entity
      method := ← Json.required Json.string? method
      args := ← Json.withDefault [] (Json.list? Argument.ofJson?) args
      page := ← Json.optional (Page.ofJson? nothing) page }
  | _ => none

end MethodRequest

namespace Request

/-- The JSON of a request, with its kind in front. -/
def toJson : Request → Json
  | .predicate r => .object (("kind", .string "predicate") :: r.fields)
  | .method r => .object (("kind", .string "derived") :: r.fields)

/-- Reads the body of a request of a given kind. Next to its kind, a choice may write nothing as an
empty object. -/
def ofKind? (kind : Json) (body : Json) : Option Request :=
  match kind with
  | .string "predicate" => (PredicateRequest.ofJson? .nullOrEmpty body).map .predicate
  | .string "derived" => (MethodRequest.ofJson? .nullOrEmpty body).map .method
  | _ => none

/-- Reads a request, no part of which may be flawed. Its kind is a field among the others, or the
first item of an array. -/
def ofJson? (j : Json) : Option Request :=
  if !j.isSound then none
  else match j with
    | .object fields => do
      let kind ← Json.required some (← Json.field? "kind" fields)
      ofKind? kind (.object (fields.filter (·.1 != "kind")))
    | .array (kind :: items) => ofKind? kind (.array items)
    | _ => none

end Request

end DocQuery
