import DocQuery.Criteria.Resolve
import DocQuery.MethodName.Basic
import DocQuery.Query.Statement
/-!
# Prepared queries

A decoded method name is checked against an entity once. What comes out waits
for the arguments of a call, which fill its operands in the order of the
conditions.
-/

namespace DocQuery

namespace Condition

/-- The test of a condition, whose operands wait for arguments; `none` for what N1QL cannot say. -/
def Kind.test? : Kind → Option Test
  | .is => some (.relation .eq (.deferred .scalar))
  | .isNot => some (.relation .ne (.deferred .scalar))
  | .lessThan => some (.relation .lt (.deferred .scalar))
  | .before => some (.relation .lt (.deferred .scalar))
  | .lessThanEqual => some (.relation .lte (.deferred .scalar))
  | .greaterThan => some (.relation .gt (.deferred .scalar))
  | .after => some (.relation .gt (.deferred .scalar))
  | .greaterThanEqual => some (.relation .gte (.deferred .scalar))
  | .between => some (.between (.deferred .scalar) (.deferred .scalar))
  | .isNull => some (.check .isNull)
  | .isNotNull => some (.check .isNotNull)
  | .like => some (.relation .like (.deferred .scalar))
  | .notLike => some (.relation .notLike (.deferred .scalar))
  | .startingWith => some (.relation .startsWith (.deferred .scalar))
  | .endingWith => some (.relation .endsWith (.deferred .scalar))
  | .containing => some (.relation .contains (.deferred .scalar))
  | .notContaining => some (.relation .notContains (.deferred .scalar))
  | .isIn => some (.relation .isIn (.deferred .set))
  | .isNotIn => some (.relation .isNotIn (.deferred .set))
  | .isTrue => some (.check .isTrue)
  | .isFalse => some (.check .isFalse)
  | .regex => some (.relation .regex (.deferred .pattern))
  | .exists => some (.check .isNotMissing)
  | .near | .within | .isEmpty | .isNotEmpty => none

/-- Whether a condition on the field ignores letter case. It has to know the kind of the field
for that, and refuses one that is no text where the name insists. -/
def ignoresCase (entity : Entity) (field : FieldPath) : LetterCase → Except Fault Bool
  | .exact => .ok false
  | .ignoredWherePossible => return (← entity.typeOf field).isTextual
  | .ignored => do
    let kind ← entity.typeOf field
    if kind.isTextual then return true
    throw (.misuse (.notTextual field.text kind.name))

/-- Whether the letter case of a field can be folded in a test: not beside a set or a pattern. -/
def foldsField : Test → Bool
  | .relation r _ => r.foldsValue
  | _ => true

def toCriteria (entity : Entity) (c : Condition) : Except Fault Criteria := do
  let field ← entity.resolve c.property
  let some test := c.kind.test?
    | throw (.unsupported c.kind.name ("(" ++ c.property ++ ")"))
  let ignoreCase ← ignoresCase entity field c.letterCase
  let criterion := Criterion.on field
  return (if ignoreCase && foldsField test then criterion.ignoreCase else criterion).test test

end Condition

/-- A query that waits for the arguments of a call. -/
structure Prepared where
  criteria : Option Criteria
  projection : Projection
  distinct : Bool
  limit : Option UInt64
  sort : List Order

/-- Criteria joined from the left; none if there are none. -/
def Criteria.joinAll (join : Criteria → Criteria → Criteria) : List Criteria → Option Criteria
  | [] => none
  | first :: rest => some (rest.foldl join first)

namespace MethodName

/-- The criteria of the groups of conditions: all conditions of one of the groups hold. -/
def toCriteria (entity : Entity) (groups : List (List Condition)) :
    Except Fault (Option Criteria) := do
  let groups ← groups.mapM fun group => group.mapM (Condition.toCriteria entity)
  return Criteria.joinAll .or (groups.filterMap (Criteria.joinAll .and))

/-- The query of a method, checked against the entity: its conditions first, then its order. -/
def prepare (m : MethodName) (entity : Entity) : Except Fault Prepared := do
  let criteria ← toCriteria entity m.groups
  for order in m.sort do
    discard (entity.resolve order.property)
  return ⟨criteria, m.projection, m.distinct, m.limit, m.sort⟩

end MethodName

namespace Prepared

/-- The number of arguments that a call has to bring. -/
def argumentCount (p : Prepared) : Nat := p.criteria.elim 0 Criteria.deferredCount

def bind (p : Prepared) (args : List Argument) (page : Option Page) : Except Fault Query := do
  if args.length ≠ p.argumentCount then
    throw (.misuse (.argumentCount p.argumentCount args.length))
  let criteria ← match p.criteria with
    | some criteria => some <$> (criteria.resolve.run.run args).1
    | none => pure none
  let query : Query := ⟨criteria, p.projection, p.distinct, p.sort, p.limit, none⟩
  return query.onPage? page

end Prepared

end DocQuery
