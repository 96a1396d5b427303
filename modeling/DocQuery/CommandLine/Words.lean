/-!
# The words of a command line

Options, flags and positional words are told apart from left to right. The
value of an option is checked only when the next word is taken, so that a word
that nobody knows is reported before a bad value in front of it.
-/

namespace DocQuery.CommandLine

/-- Why a command line is not carried out. -/
inductive UsageFault where
  | help
  | helpForNothing
  | version
  | unknownCommand
  | missingCommand
  | missingArgument
  | unknownArgument
  | invalidValue
  | malformedValue
  | repeatedArgument
  | surplusValue
deriving DecidableEq

/-- What a word of the command line says. -/
inductive Key where
  | config
  | format
  | entity
  | arg
  | page
  | size
  | count
  | help
  | version
  | method
  | file
deriving DecidableEq

/-- An option or a flag. -/
structure Switch where
  key : Key
  short : Option Char
  long : String
  takesValue : Bool

/-- The switches and positional words that a command knows, and its subcommands. -/
structure Grammar where
  switches : List Switch
  positionals : List Key
  commands : List String

/-! ### Values -/

/-- The number that follows the digits read so far. -/
def numberFrom? (n : Nat) : List Char → Option UInt64
  | [] => some (UInt64.ofNat n)
  | c :: cs =>
    let n := 10 * n + (c.toNat - 0x30)
    if c.isDigit ∧ n < UInt64.size then numberFrom? n cs else none

/-- A number of 64 bits in decimal, with or without a plus. -/
def number? (word : String) : Option UInt64 :=
  match word.toList with
  | [] => none
  | ['+'] => none
  | '+' :: cs => numberFrom? 0 cs
  | cs => numberFrom? 0 cs

/-- The fault of a value, if it is not a good one. -/
def valueFault? (formats : List String) (value : String) : Key → Option UsageFault
  | .config => if value.isEmpty then some .invalidValue else none
  | .file => if value.isEmpty then some .invalidValue else none
  | .format => if value ∈ formats then none else some .invalidValue
  | .page => if (number? value).isSome then none else some .malformedValue
  | .size => if (number? value).any (0 < ·) then none else some .malformedValue
  | _ => none

/-! ### Reading -/

/-- What has been read of the words. -/
structure State where
  /-- The values given so far; a flag has an empty one. -/
  given : List (Key × String)
  /-- An option or positional word whose value is still to be checked, or to come. -/
  pending : Option (Key × Option String)
  /-- Positional words still to come. -/
  positionals : List Key
  /-- Only positional words follow. -/
  trailing : Bool

namespace State

/-- The state before any word of a command. -/
def start (g : Grammar) : State := ⟨[], none, g.positionals, false⟩

/-- The last value given for a key. -/
def value? (s : State) (key : Key) : Option String := s.given.reverse.lookup key

/-- All values given for a key. -/
def values (s : State) (key : Key) : List String := (s.given.filter (·.1 = key)).map (·.2)

def has (s : State) (key : Key) : Bool := (s.value? key).isSome

/-- Takes a key with its value. Only arguments may be given again. -/
def accept (formats : List String) (s : State) (key : Key) (value : String) :
    Except UsageFault State :=
  if key ≠ .arg ∧ s.has key then .error .repeatedArgument
  else match valueFault? formats value key with
    | some fault => .error fault
    | none => .ok { s with given := s.given ++ [(key, value)] }

/-- Settles what is pending. -/
def settle (formats : List String) (s : State) : Except UsageFault State :=
  match s.pending with
  | none => .ok s
  | some (_, none) => .error .invalidValue
  | some (key, some value) => { s with pending := none }.accept formats key value

/-- Takes a switch with the value attached to it, or waits for its value. -/
def switch (formats : List String) (s : State) (key : Key) (value : Option String) :
    Except UsageFault State := do
  let s ← s.settle formats
  match value with
  | some value => s.accept formats key value
  | none => return { s with pending := some (key, none) }

/-- Takes a flag; some flags end the reading. -/
def flag (formats : List String) (s : State) (key : Key) : Except UsageFault State := do
  let s ← s.settle formats
  match key with
  | .help => throw .help
  | .version => throw .version
  | key => s.accept formats key ""

/-- The switch that waits for its value. -/
def awaited? (s : State) : Option Key :=
  match s.pending with
  | some (key, none) => some key
  | _ => none

end State

/-- The text before and after the first equals sign. -/
def cutAtEquals : List Char → List Char × Option (List Char)
  | [] => ([], none)
  | c :: cs =>
    if c = '=' then ([], some cs)
    else
      let (before, rest) := cutAtEquals cs
      (c :: before, rest)

/-- Reads a word that starts with two hyphens. -/
def readLong (formats : List String) (g : Grammar) (s : State) (word : List Char) :
    Except UsageFault State :=
  let (name, value) := cutAtEquals word
  match g.switches.find? (·.long == String.ofList name) with
  | none => .error .unknownArgument
  | some switch =>
    if switch.takesValue then s.switch formats switch.key (value.map String.ofList)
    else if value.isSome then .error .surplusValue
    else s.flag formats switch.key

/-- Reads the letters behind a single hyphen. What follows an option is its value. -/
def readShort (formats : List String) (g : Grammar) (s : State) : List Char → Except UsageFault State
  | [] => .ok s
  | c :: cs =>
    match g.switches.find? (·.short == some c) with
    | none => .error .unknownArgument
    | some switch =>
      if switch.takesValue then
        s.switch formats switch.key <| match cs with
          | [] => none
          | '=' :: value => some (String.ofList value)
          | value => some (String.ofList value)
      else do readShort formats g (← s.flag formats switch.key) cs

/-- Takes a positional word. -/
def readPositional (formats : List String) (g : Grammar) (s : State) (word : String) :
    Except UsageFault State :=
  match s.positionals with
  | key :: keys => do
    let s ← s.settle formats
    return { s with pending := some (key, some word), positionals := keys }
  | [] =>
    if g.commands.isEmpty || (s.trailing && g.commands.contains word) then .error .unknownArgument
    else .error .unknownCommand

/-- Reads a word that is no subcommand. An argument takes any word as its value; any other option
takes none that starts with a hyphen. -/
def readWord (formats : List String) (g : Grammar) (s : State) (word : String) :
    Except UsageFault State :=
  let asValue (key : Key) : State := { s with pending := some (key, some word) }
  if s.trailing then readPositional formats g s word
  else if s.awaited? = some .arg then .ok (asValue .arg)
  else match word.toList with
    | ['-', '-'] => .ok { s with trailing := true }
    | '-' :: '-' :: cs => readLong formats g s cs
    | '-' :: c :: cs => readShort formats g s (c :: cs)
    | _ => match s.awaited? with
      | some key => .ok (asValue key)
      | none => readPositional formats g s word

/-- Reads words up to a subcommand: what they say, and the subcommand with the words behind it. -/
def readWords (formats : List String) (g : Grammar) (s : State) :
    List String → Except UsageFault (State × Option (String × List String))
  | [] => .ok (s, none)
  | word :: words =>
    if !s.trailing && s.awaited?.isNone && g.commands.contains word then .ok (s, some (word, words))
    else do readWords formats g (← readWord formats g s word) words

end DocQuery.CommandLine
