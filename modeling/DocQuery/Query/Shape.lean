import DocQuery.Json.Record
/-!
# The shape of a result

What a query returns, in which order, and which part of it.
-/

namespace DocQuery

/-- What a statement returns or does. -/
inductive Projection where
  /-- Whole documents with their id and version. -/
  | entity
  /-- The number of documents. -/
  | count
  /-- The id of the first document, if there is one. -/
  | exists
  /-- Nothing: the documents are deleted. -/
  | delete
deriving DecidableEq

namespace Projection

def name : Projection → String
  | .entity => "entity"
  | .count => "count"
  | .exists => "exists"
  | .delete => "delete"

/-- The projection that a JSON value names. -/
def ofJson? (nothing : Json.Nothing) : Json → Option Projection :=
  Json.choice? nothing ([.entity, .count, .exists, .delete].map fun p => (name p, p))

end Projection

inductive Direction where
  | asc
  | desc
deriving DecidableEq

namespace Direction

def name : Direction → String
  | .asc => "asc"
  | .desc => "desc"

/-- The direction that a JSON value names. -/
def ofJson? (nothing : Json.Nothing) : Json → Option Direction :=
  Json.choice? nothing ([.asc, .desc].map fun d => (name d, d))

end Direction

structure Order where
  property : String
  direction : Direction
  ignoreCase : Bool
deriving DecidableEq

namespace Order

def toJson (o : Order) : Json :=
  .object [("property", .string o.property), ("direction", .string o.direction.name),
    ("ignore_case", .bool o.ignoreCase)]

/-- Reads an order: ascending by default, and in the given letter case. -/
def ofJson? (nothing : Json.Nothing) (j : Json) : Option Order := do
  match ← j.record? ["property", "direction", "ignore_case"] with
  | [property, direction, ignoreCase] =>
    return ⟨← Json.required Json.string? property,
      ← Json.withDefault .asc (Direction.ofJson? nothing) direction,
      ← Json.withDefault false Json.bool? ignoreCase⟩
  | _ => none

end Order

/-- A page of a result, counted from zero. -/
structure Page where
  number : UInt64
  size : UInt64
  /-- The order of the result; none keeps the order of the query. -/
  sort : List Order
deriving DecidableEq

namespace Page

/-- How many rows come before the page, at most the largest number of 64 bits. -/
def offset (p : Page) : UInt64 := UInt64.ofNat (min (p.number.toNat * p.size.toNat) (UInt64.size - 1))

def toJson (p : Page) : Json :=
  .object [("number", .int p.number.toNat), ("size", .int p.size.toNat),
    ("sort", .array (p.sort.map Order.toJson))]

/-- Reads a page: without an order of its own by default. -/
def ofJson? (nothing : Json.Nothing) (j : Json) : Option Page := do
  match ← j.record? ["number", "size", "sort"] with
  | [number, size, sort] =>
    return ⟨← Json.required Json.uint64? number, ← Json.required Json.uint64? size,
      ← Json.withDefault [] (Json.list? (Order.ofJson? nothing)) sort⟩
  | _ => none

end Page

end DocQuery
