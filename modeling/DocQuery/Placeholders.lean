import DocQuery.Fragment
import DocQuery.Json.Record
/-!
# Placeholders

Values are kept out of the statement text: a placeholder `$1`, `$2`, … or
`$name` stands for each, and the values go with the statement as a list or as
a dictionary. Names that are taken get a number.
-/

namespace DocQuery

/-- How placeholders are written. -/
inductive PlaceholderStyle where
  | positional
  | named
deriving DecidableEq

namespace PlaceholderStyle

def name : PlaceholderStyle → String
  | .positional => "positional"
  | .named => "named"

/-- The style that a JSON value names. -/
def ofJson? : Json → Option PlaceholderStyle :=
  Json.choice? .null ([.positional, .named].map fun style => (name style, style))

end PlaceholderStyle

/-- The values that go with a statement. -/
inductive Bindings where
  | positional (values : List Value)
  /-- Values by the name of their placeholder, in the order of the names. -/
  | named (entries : List (String × Value))

namespace Bindings

def size : Bindings → Nat
  | .positional values => values.length
  | .named entries => entries.length

/-- The entries with `name` standing for `v`. -/
def insert (name : String) (v : Value) : List (String × Value) → List (String × Value)
  | [] => [(name, v)]
  | (other, w) :: entries =>
    if name = other then (name, v) :: entries
    else if name < other then (name, v) :: (other, w) :: entries
    else (other, w) :: insert name v entries

/-- The dictionary of the given entries; of two with one name the later counts. -/
def ofEntries (entries : List (String × Value)) : List (String × Value) :=
  entries.foldl (fun sorted (name, v) => insert name v sorted) []

/-- The JSON of the values: an array or an object. -/
def toJson : Bindings → Json
  | .positional values => .array (values.map Value.toJson)
  | .named entries => .object (entries.map fun (name, v) => (name, v.toJson))

end Bindings

/-- The placeholders issued and the values bound so far, both in order. -/
structure Placeholders where
  style : PlaceholderStyle
  /-- What stands behind the `$` of each placeholder. -/
  names : List String
  values : List Value

namespace Placeholders

/-- No placeholders yet. -/
def empty (style : PlaceholderStyle) : Placeholders := ⟨style, [], []⟩

def issued (p : Placeholders) : Nat := p.names.length

/-- The first of `hint_m`, `hint_(m+1)`, … that is not taken. One of `taken.length + 1` names in a
row is free, so that much `fuel` is enough. The number is a natural one: a counter of 32 bits with a
sign ends behind `2 ^ 31 - 1`, and so many placeholders for one hint are out of reach. -/
def numberedName (taken : List String) (hint : String) : Nat → Nat → String
  | 0, m => hint ++ "_" ++ toString m
  | fuel + 1, m =>
    let name := hint ++ "_" ++ toString m
    if name ∈ taken then numberedName taken hint fuel (m + 1) else name

/-- The hint itself if it is not taken, else the first free numbered name. -/
def freshName (taken : List String) (hint : String) : String :=
  if hint ∈ taken then numberedName taken hint taken.length 2 else hint

/-- The name of the next placeholder. -/
def nextName (p : Placeholders) (hint : String) : String :=
  match p.style with
  | .positional => toString (p.names.length + 1)
  | .named => freshName p.names hint

/-- Issues a placeholder. -/
def next (p : Placeholders) (hint : String) : String × Placeholders :=
  let name := p.nextName hint
  ("$" ++ name, { p with names := p.names ++ [name] })

/-- Binds a value to the first placeholder that has none. -/
def bind (p : Placeholders) (v : Value) : Placeholders := { p with values := p.values ++ [v] }

/-- Issues a placeholder and binds a value to it. -/
def push (p : Placeholders) (hint : String) (v : Value) : String × Placeholders :=
  let (token, p) := p.next hint
  (token, p.bind v)

/-- The bound values, if there is one for every placeholder. -/
def finish (p : Placeholders) : Except Fault Bindings :=
  if p.names.length ≠ p.values.length then .error (.bindingCount p.names.length p.values.length)
  else match p.style with
    | .positional => .ok (.positional p.values)
    | .named => .ok (.named (Bindings.ofEntries (p.names.zip p.values)))

end Placeholders

/-- The text with a placeholder for every value, and all placeholders up to the end of the
fragment or up to the first value that is not known yet. -/
def Fragment.bound : Fragment → Placeholders → Except Fault String × Placeholders
  | [], p => (.ok "", p)
  | .text s :: pieces, p =>
    let (text, p) := Fragment.bound pieces p
    (text.map (s ++ ·), p)
  | .value hint v :: pieces, p =>
    let (token, p) := p.push hint v
    let (text, p) := Fragment.bound pieces p
    (text.map (token ++ ·), p)
  | .deferred :: _, p => (.error .deferredOperand, p)

end DocQuery
