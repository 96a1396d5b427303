import DocQuery.Config
import DocQuery.Json.Writer
import DocQuery.Report.Outline
import DocQuery.Request
/-!
# Reports

The outcome of a request: its statement, and the statement that counts the same
documents if it is asked for.
-/

namespace DocQuery

structure Report where
  entity : String
  statement : Statement
  count : Option Statement

inductive ReportFormat where
  | text
  | json
  | outline
deriving DecidableEq

namespace ReportFormat

def name : ReportFormat → String
  | .text => "text"
  | .json => "json"
  | .outline => "toon"

def ofName? (name : String) : Option ReportFormat :=
  [ReportFormat.text, .json, .outline].find? (·.name == name)

end ReportFormat

/-- Why a request has no outcome. -/
inductive RequestFault where
  | config (fault : ConfigFault)
  | compile (fault : Fault)
deriving DecidableEq

namespace Report

/-- The outcome of a request in a context. -/
def inContext (r : Request) (ctx : Context) (withCount : Bool) : Except Fault Report := do
  let query ← r.toQuery ctx.entity
  let statement ← query.compile ctx
  if withCount then return ⟨r.entity, statement, some (← query.compileCount ctx)⟩
  return ⟨r.entity, statement, none⟩

/-- The outcome of a request about an entity of the configuration. -/
def ofRequest (r : Request) (c : Config) (withCount : Bool) : Except RequestFault Report :=
  match c.context r.entity with
  | .error fault => .error (.config fault)
  | .ok ctx => (inContext r ctx withCount).mapError .compile

/-! ### As text -/

/-- The values of a statement, a line each. -/
def bindingLines : Bindings → List String
  | .positional values =>
    values.mapIdx fun i v => "  $" ++ toString (i + 1) ++ " = " ++ v.literal
  | .named entries => entries.map fun (name, v) => "  $" ++ name ++ " = " ++ v.literal

/-- The lines of a statement and its values. -/
def statementLines (s : Statement) : List String :=
  s.text ::
    if s.bindings.size = 0 then ["Parameters: none"]
    else ("Parameters (" ++ s.style.name ++ "):") :: bindingLines s.bindings

/-- The report for a reader. -/
def text (r : Report) : String :=
  String.intercalate "\n" <| statementLines r.statement ++
    match r.count with
    | some count => "" :: "Count:" :: statementLines count
    | none => []

/-! ### As JSON -/

def statementJson (s : Statement) : Json :=
  .object [("statement", .string s.text), ("params", s.bindings.toJson),
    ("style", .string s.style.name)]

/-- The JSON of a report: an absent count is left out. -/
def toJson (r : Report) : Json :=
  .object ([("entity", .string r.entity), ("query", statementJson r.statement)] ++
    (r.count.map fun count => ("count", statementJson count)).toList)

def write (r : Report) : ReportFormat → String
  | .text => r.text
  | .json => r.toJson.pretty
  | .outline => Outline.text r.toJson

end Report

end DocQuery
