import DocQuery.Criteria.Text
import DocQuery.Entity
import DocQuery.Query.Shape
/-!
# Queries and their statements

A query joins criteria with the shape of the result. In a context it becomes a
statement: its text and the values of its placeholders. Which clauses the text
has depends on the projection.
-/

namespace DocQuery

structure Query where
  criteria : Option Criteria
  projection : Projection
  distinct : Bool
  sort : List Order
  limit : Option UInt64
  offset : Option UInt64

/-- The mark that documents of an entity bear. -/
structure TypeFilter where
  key : String
  value : String

/-- The condition that a document is of the entity. -/
def TypeFilter.fragment (filter : TypeFilter) : Fragment :=
  (Fragment.identifier filter.key).eq (.string filter.value)

/-- What a query is compiled against. -/
structure Context where
  bucket : String
  style : PlaceholderStyle
  entity : Entity
  typeFilter : Option TypeFilter

/-- A statement and the values of its placeholders. -/
structure Statement where
  text : String
  bindings : Bindings
  style : PlaceholderStyle

namespace Query

/-- The query for whole documents in any order. -/
def ofCriteria (criteria : Option Criteria) : Query := ⟨criteria, .entity, false, [], none, none⟩

/-- The query for one page. The page replaces limit and offset, and the order if it has one. -/
def onPage (q : Query) (page : Page) : Query :=
  { q with
    limit := some page.size
    offset := some page.offset
    sort := if page.sort.isEmpty then q.sort else page.sort }

/-- The query for one page, if one is asked for. -/
def onPage? (q : Query) : Option Page → Query
  | some page => q.onPage page
  | none => q

/-! ### Clauses -/

/-- The start of the statement, up to the bucket. -/
def head (q : Query) (bucket : String) : Fragment :=
  let metadata (field : String) : Fragment := .path [.metadata bucket, .raw field]
  let id := (metadata "id").named "__id"
  match q.projection with
  | .entity =>
    let columns := [id, (metadata "cas").named "__cas", .path [.identifier bucket, .raw "*"]]
    (if q.distinct then Fragment.selectDistinct columns else .select columns).source bucket
  | .count => (Fragment.select [(Fragment.count (.raw "*")).named "count"]).source bucket
  | .exists => (Fragment.select [id]).source bucket
  | .delete => .deleteFrom bucket

/-- The condition on documents: the criteria, in parentheses beside a type filter. -/
def filter? (q : Query) (ctx : Context) : Option Fragment :=
  match q.criteria, ctx.typeFilter with
  | none, none => none
  | some criteria, none => some criteria.fragment
  | none, some filter => some filter.fragment
  | some criteria, some filter => some (criteria.fragment.paren.and filter.fragment)

/-- One term of the order. -/
def ordering (entity : Entity) (order : Order) : Except Fault Fragment := do
  let key := Fragment.raw (← entity.resolve order.property).text
  let key := if order.ignoreCase then key.asText.lower else key
  return match order.direction with
    | .asc => key.ascending
    | .desc => key.descending

/-- A fragment with a limit, if there is one. -/
def withLimit (limit : Option UInt64) (a : Fragment) : Fragment :=
  match limit with
  | some n => a.limited n
  | none => a

/-- A fragment with an offset, if there is one. -/
def withOffset (offset : Option UInt64) (a : Fragment) : Fragment :=
  match offset with
  | some n => a.skipping n
  | none => a

/-- A fragment with an order, if there is one. -/
def withOrder (entity : Entity) (sort : List Order) (a : Fragment) : Except Fault Fragment := do
  if sort.isEmpty then return a
  return a.ordered (← sort.mapM (ordering entity))

/-- A fragment with the clauses that the projection takes: documents are ordered, limited and
skipped, deletions are limited, existence needs one row, and a count is of all. -/
def withClauses (q : Query) (entity : Entity) (a : Fragment) : Except Fault Fragment :=
  match q.projection with
  | .entity => do return withOffset q.offset (withLimit q.limit (← withOrder entity q.sort a))
  | .count => return a
  | .exists => return a.limited 1
  | .delete => return withLimit q.limit a

/-- The statement with its values open. -/
def fragment (q : Query) (ctx : Context) : Except Fault Fragment :=
  let start := q.head ctx.bucket
  q.withClauses ctx.entity <| match q.filter? ctx with
    | some filter => start.filtered filter
    | none => start

/-! ### Compilation -/

/-- The number of operands that still wait for an argument. -/
def deferredCount (q : Query) : Nat := q.criteria.elim 0 Criteria.deferredCount

/-- The statement. Operands that wait for an argument are refused before anything else. -/
def compile (q : Query) (ctx : Context) : Except Fault Statement := do
  if q.deferredCount ≠ 0 then throw .deferredOperand
  let (text, placeholders) := (← q.fragment ctx).bound (.empty ctx.style)
  let text ← text
  return ⟨text, ← placeholders.finish, ctx.style⟩

/-- The statement that counts the documents of the query. -/
def compileCount (q : Query) (ctx : Context) : Except Fault Statement :=
  { q with projection := .count }.compile ctx

end Query

end DocQuery
