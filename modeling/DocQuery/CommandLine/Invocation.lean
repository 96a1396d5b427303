import DocQuery.CommandLine.Words
import DocQuery.Report.Basic
/-!
# Invocations

What a command line asks for, and how it is carried out over the files that it
names. Both are pure: a file is what `FileState` says.
-/

namespace DocQuery.CommandLine

inductive Command where
  /-- A statement for a method name. -/
  | derive (request : MethodRequest) (count : Bool)
  /-- A statement for the request in a file. -/
  | compile (path : String) (count : Bool)

/-- What a command line asks for. -/
structure Invocation where
  config : String
  format : ReportFormat
  command : Command

/-! ### Reading the command line -/

/-- The formats of reports by name. -/
def formats : List String := [ReportFormat.text, .json, .outline].map (·.name)

/-- The switches of every command. -/
def commonSwitches : List Switch :=
  [⟨.config, some 'c', "config", true⟩, ⟨.format, some 'f', "format", true⟩,
    ⟨.help, some 'h', "help", false⟩]

/-- What stands before the command. -/
def topGrammar : Grammar :=
  ⟨commonSwitches ++ [⟨.version, some 'V', "version", false⟩], [], ["derive", "compile", "help"]⟩

def deriveGrammar : Grammar :=
  ⟨commonSwitches ++ [⟨.entity, some 'e', "entity", true⟩, ⟨.arg, some 'a', "arg", true⟩,
    ⟨.page, none, "page", true⟩, ⟨.size, none, "size", true⟩, ⟨.count, none, "count", false⟩],
    [.method], []⟩

def compileGrammar : Grammar :=
  ⟨commonSwitches ++ [⟨.count, none, "count", false⟩], [.file], []⟩

/-- The argument of a word: its JSON, or the word itself if it is not the JSON of an argument. -/
def argumentOf (word : String) : Argument :=
  match (Json.parse? word).bind Argument.ofJson? with
  | some a => a
  | none => .value (.string word)

/-- The page that is asked for. Its number and its size go together. -/
def pageOf (s : State) : Except UsageFault (Option Page) :=
  match (s.value? .page).bind number?, (s.value? .size).bind number? with
  | none, none => .ok none
  | some number, some size => .ok (some ⟨number, size, []⟩)
  | _, _ => .error .missingArgument

/-- Reads all words behind a command. -/
def readAll (g : Grammar) (words : List String) : Except UsageFault State := do
  let (s, _) ← readWords formats g (.start g) words
  s.settle formats

/-- Reads a command and the words behind it. -/
def readCommand (name : String) (words : List String) : Except UsageFault (Command × State) :=
  match name with
  | "derive" => do
    let s ← readAll deriveGrammar words
    match s.value? .method, s.value? .entity with
    | some method, some entity =>
      let args := (s.values .arg).map argumentOf
      return (.derive ⟨entity, method, args, ← pageOf s⟩ (s.has .count), s)
    | _, _ => throw .missingArgument
  | "compile" => do
    let s ← readAll compileGrammar words
    match s.value? .file with
    | some path => return (.compile path (s.has .count), s)
    | none => throw .missingArgument
  | _ =>
    match words with
    | [] => .error .help
    | [word] => if topGrammar.commands.contains word then .error .help else .error .unknownCommand
    | _ => .error .unknownCommand

/-- Reads a command line. What is said behind the command counts before what is said in front. -/
def Invocation.ofWords (words : List String) : Except UsageFault Invocation := do
  match ← readWords formats topGrammar (.start topGrammar) words with
  | (s, none) =>
    let s ← s.settle formats
    throw (if s.given.isEmpty then .helpForNothing else .missingCommand)
  | (top, some (name, rest)) =>
    let (command, s) ← readCommand name rest
    let top ← top.settle formats
    let said (key : Key) : Option String := s.value? key <|> top.value? key
    return {
      config := (said .config).getD Config.defaultPath
      format := ((said .format).bind ReportFormat.ofName?).getD .text
      command }

/-! ### Carrying it out -/

/-- What is found under a path. -/
inductive FileState where
  /-- Nothing, for a reason that the system gives. -/
  | missing (reason : String)
  /-- Something that is not text or cannot be read. -/
  | unreadable (reason : String)
  | text (content : String)

/-- Why a command line has no output. -/
inductive CommandFault where
  | usage (fault : UsageFault)
  | config (fault : ConfigFault)
  | compile (fault : Fault)
  | requestUnreadable (path reason : String)
  | requestMalformed (path : String)
deriving DecidableEq

/-- The wording of a fault behind the usage of the command line. -/
def CommandFault.message : CommandFault → String
  | .usage _ => "Invalid command line"
  | .config fault => fault.message
  | .compile fault => fault.message
  | .requestUnreadable path reason => "Failed to read request file " ++ path ++ ": " ++ reason
  | .requestMalformed path => "Invalid request in " ++ path

def loadConfig (path : String) : FileState → Except ConfigFault Config
  | .missing _ => .error (.notFound path)
  | .unreadable reason => .error (.unreadable path reason)
  | .text content =>
    match Config.parse? content with
    | some config => .ok config
    | none => .error (.malformed path)

def loadRequest (path : String) : FileState → Except CommandFault Request
  | .missing reason => .error (.requestUnreadable path reason)
  | .unreadable reason => .error (.requestUnreadable path reason)
  | .text content =>
    match (Json.parse? content).bind Request.ofJson? with
    | some request => .ok request
    | none => .error (.requestMalformed path)

/-- A request with an outcome, or the fault of the command. -/
def report (r : Request) (config : Config) (count : Bool) : Except CommandFault Report :=
  (Report.ofRequest r config count).mapError fun
    | .config fault => .config fault
    | .compile fault => .compile fault

def Command.run (command : Command) (config : Config) (files : String → FileState) :
    Except CommandFault Report :=
  match command with
  | .derive request count => report (.method request) config count
  | .compile path count => do report (← loadRequest path (files path)) config count

/-- The output of a command line: first it is read, then the configuration is loaded, then the
command is carried out. -/
def output (words : List String) (files : String → FileState) : Except CommandFault String := do
  let i ← (Invocation.ofWords words).mapError .usage
  let config ← (loadConfig i.config (files i.config)).mapError .config
  return (← i.command.run config files).write i.format

/-- The files that a command line may read. -/
def paths (words : List String) : List String :=
  match Invocation.ofWords words with
  | .error _ => []
  | .ok i =>
    i.config :: match i.command with
      | .derive _ _ => []
      | .compile path _ => [path]

end DocQuery.CommandLine
