import DocQuery.Proofs.CommandLine.Words
/-!
# Command lines for requests

The words that say what a request by method name says, and the words that name the file of a
request. Each line is read as the command that it is written for (`ofWords_deriveWords`,
`ofWords_compileWords`).
-/

namespace DocQuery.CommandLine

/-! ### Words -/

/-- The words that ask for a page. -/
def pageWords : Option Page → List String
  | none => []
  | some p => [optionWord "page" (toString p.number), optionWord "size" (toString p.size)]

/-- The words that ask for the statement that counts. -/
def countWords (count : Bool) : List String := if count then ["--count"] else []

/-- The words behind `derive` that say what the request says, with a word for every argument. -/
def deriveWords (config : String) (format : ReportFormat) (r : MethodRequest) (args : List String)
    (count : Bool) : List String :=
  [optionWord "config" config] ++ [optionWord "format" format.name] ++
    [optionWord "entity" r.entity] ++ pageWords r.page ++ countWords count ++
    (args.flatMap fun arg => ["--arg", arg]) ++ ["--", r.method]

/-- The words behind `compile` that name the file of a request. -/
def compileWords (config : String) (format : ReportFormat) (path : String) (count : Bool) :
    List String :=
  [optionWord "config" config] ++ [optionWord "format" format.name] ++ countWords count ++
    ["--", path]

/-! ### States -/

/-- What the words of a page give. -/
def pageKeys : Option Page → List (Key × String)
  | none => []
  | some p => [(.page, toString p.number), (.size, toString p.size)]

/-- What the words for the count give. -/
def countKeys (count : Bool) : List (Key × String) := if count then [(.count, "")] else []

/-- What the options in front of the arguments give. -/
def optionKeys (config : String) (format : ReportFormat) (r : MethodRequest) (count : Bool) :
    List (Key × String) :=
  [(.config, config), (.format, format.name)] ++ [(.entity, r.entity)] ++ pageKeys r.page ++
    countKeys count

/-- The state behind the words for a method. -/
def deriveState (config : String) (format : ReportFormat) (r : MethodRequest) (args : List String)
    (count : Bool) : State where
  given := optionKeys config format r count ++ args.map (Key.arg, ·) ++ [(.method, r.method)]
  pending := none
  positionals := []
  trailing := true

/-- The state behind the words for a file. -/
def compileState (config : String) (format : ReportFormat) (path : String) (count : Bool) :
    State where
  given := [(.config, config), (.format, format.name)] ++ countKeys count ++ [(.file, path)]
  pending := none
  positionals := []
  trailing := true

variable {config path : String} {format : ReportFormat} {r : MethodRequest} {args : List String}
  {count : Bool}

/-- The options give neither the method nor an argument. -/
lemma notMem_optionKeys {key : Key} (h : key = .method ∨ key = .arg) :
    key ∉ (optionKeys config format r count).map (·.1) := by
  obtain ⟨entity, method, as, page⟩ := r
  rcases h with rfl | rfl <;> cases page <;> cases count <;>
    simp [optionKeys, pageKeys, countKeys]

/-- Any key but that of the arguments is given once. -/
lemma value?_deriveState {key : Key} (h : key ≠ .arg) :
    (deriveState config format r args count).value? key =
      ([(Key.method, r.method)].lookup key).or
        ((optionKeys config format r count).reverse.lookup key) := by
  have hargs : (args.map (Key.arg, ·)).reverse.lookup key = none := by
    refine List.lookup_eq_none_iff.mpr fun p hp => bne_iff_ne.mpr ?_
    obtain ⟨arg, -, rfl⟩ := List.mem_map.mp (List.mem_reverse.mp hp)
    exact h
  simp only [State.value?, deriveState, List.reverse_append, List.lookup_append, hargs,
    Option.none_or]
  rfl

lemma values_deriveState : (deriveState config format r args count).values .arg = args := by
  have hoptions : (optionKeys config format r count).filter (·.1 = .arg) = [] := by
    refine List.filter_eq_nil_iff.mpr fun p hp heq => ?_
    have hmem := List.mem_map_of_mem (f := (·.1)) hp
    rw [of_decide_eq_true heq] at hmem
    exact notMem_optionKeys (.inr rfl) hmem
  simp [State.values, deriveState, hoptions, List.filter_map, Function.comp_def]

/-- What the state says of a request, but for its arguments. -/
structure State.SaysRequest (s : State) (config : String) (format : ReportFormat)
    (r : MethodRequest) (count : Bool) : Prop where
  config : s.value? .config = some config
  format : s.value? .format = some format.name
  entity : s.value? .entity = some r.entity
  method : s.value? .method = some r.method
  page : s.value? .page = r.page.map (toString ·.number)
  size : s.value? .size = r.page.map (toString ·.size)
  count : s.has .count = count

lemma saysRequest_deriveState :
    (deriveState config format r args count).SaysRequest config format r count := by
  obtain ⟨entity, method, as, page⟩ := r
  constructor
  case count =>
    rw [State.has, value?_deriveState (by decide)]
    cases page <;> cases count <;> rfl
  all_goals
    rw [value?_deriveState (by decide)]
    cases page <;> cases count <;> rfl

/-- A page without a sort is asked for by its number and its size. -/
lemma State.SaysRequest.pageOf {s : State} (h : s.SaysRequest config format r count)
    (hpage : ∀ p ∈ r.page, p.sort = []) : pageOf s = .ok r.page := by
  rw [CommandLine.pageOf, h.page, h.size]
  cases hr : r.page with
  | none => rfl
  | some p => simp only [Option.map_some, Option.bind_some, number?_toString, ← hpage p hr]

/-! ### Good values -/

lemma valueFault?_config (h : config ≠ "") : valueFault? formats config .config = none := by
  simp [valueFault?, h]

lemma valueFault?_file (h : path ≠ "") : valueFault? formats path .file = none := by
  simp [valueFault?, h]

lemma valueFault?_format (format : ReportFormat) :
    valueFault? formats format.name .format = none := by
  cases format <;> rfl

lemma valueFault?_page (p : Page) : valueFault? formats (toString p.number) .page = none := by
  rw [valueFault?, number?_toString]
  rfl

lemma valueFault?_size {p : Page} (h : 0 < p.size) :
    valueFault? formats (toString p.size) .size = none := by
  simp only [valueFault?, number?_toString, Option.any_some, decide_eq_true h, if_true]

/-! ### Reading -/

section

variable {g : Grammar} {given : List (Key × String)} (hcommands : g.commands = [])

include hcommands

lemma adds_countWords
    (hswitch : g.switches.find? (·.long == "count") = some ⟨.count, none, "count", false⟩)
    (hnew : .count ∉ given.map (·.1)) :
    Adds formats g (countWords count) given (given ++ countKeys count) := by
  cases count with
  | false => simpa [countKeys, countWords] using Adds.nil
  | true => exact adds_count hcommands hswitch hnew

/-- The options that every command knows. -/
lemma adds_commonWords (hconfig : config ≠ "")
    (hswitches : g.switches.find? (·.long == "config") = some ⟨.config, some 'c', "config", true⟩ ∧
      g.switches.find? (·.long == "format") = some ⟨.format, some 'f', "format", true⟩) :
    Adds formats g ([optionWord "config" config] ++ [optionWord "format" format.name]) []
      [(.config, config), (.format, format.name)] :=
  (adds_option hcommands (by decide) hswitches.1 rfl (by simp) (valueFault?_config hconfig)).append
    (adds_option hcommands (by decide) hswitches.2 rfl (by simp) (valueFault?_format format))

end

lemma adds_entityWord (hnew : .entity ∉ given.map (·.1)) (entity : String) :
    Adds formats deriveGrammar [optionWord "entity" entity] given (given ++ [(.entity, entity)]) :=
  adds_option rfl (by decide) (show _ = some ⟨.entity, some 'e', "entity", true⟩ from rfl) rfl hnew
    rfl

lemma adds_pageWords {page : Option Page} (hpage : ∀ p ∈ page, 0 < p.size)
    (hnew : .page ∉ given.map (·.1) ∧ .size ∉ given.map (·.1)) :
    Adds formats deriveGrammar (pageWords page) given (given ++ pageKeys page) := by
  cases page with
  | none => simpa [pageKeys, pageWords] using Adds.nil
  | some p =>
    have hnumber : Adds formats deriveGrammar [optionWord "page" (toString p.number)] given
        (given ++ [(.page, toString p.number)]) :=
      adds_option rfl (by decide) (show _ = some ⟨.page, none, "page", true⟩ from rfl) rfl hnew.1
        (valueFault?_page p)
    have hsize : Adds formats deriveGrammar [optionWord "size" (toString p.size)]
        (given ++ [(.page, toString p.number)])
        (given ++ [(.page, toString p.number)] ++ [(.size, toString p.size)]) :=
      adds_option rfl (by decide) (show _ = some ⟨.size, none, "size", true⟩ from rfl) rfl
        (by simpa using hnew.2) (valueFault?_size (hpage p rfl))
    simpa [pageWords, pageKeys] using hnumber.append hsize

lemma readAll_derive (hconfig : config ≠ "") (hpage : ∀ p ∈ r.page, 0 < p.size) :
    readAll deriveGrammar (deriveWords config format r args count) =
      .ok (deriveState config format r args count) := by
  have hcommon : Adds formats deriveGrammar
      ([optionWord "config" config] ++ [optionWord "format" format.name]) []
      [(.config, config), (.format, format.name)] := adds_commonWords rfl hconfig ⟨rfl, rfl⟩
  have hentity := hcommon.append (adds_entityWord (by simp) r.entity)
  have hpage := hentity.append (adds_pageWords hpage (by simp))
  have hoptions : Adds formats deriveGrammar
      ([optionWord "config" config] ++ [optionWord "format" format.name] ++
        [optionWord "entity" r.entity] ++ pageWords r.page ++ countWords count) []
      (optionKeys config format r count) :=
    hpage.append (adds_countWords rfl rfl (by cases r.page <;> simp [pageKeys]))
  have hmethod : .method ∉ (optionKeys config format r count).map (·.1) :=
    notMem_optionKeys (.inl rfl)
  exact readAll_of_adds rfl rfl (hoptions.append (adds_args rfl rfl args))
    (by simpa using hmethod) rfl

lemma readAll_compile (hconfig : config ≠ "") (hpath : path ≠ "") :
    readAll compileGrammar (compileWords config format path count) =
      .ok (compileState config format path count) := by
  have hcommon : Adds formats compileGrammar
      ([optionWord "config" config] ++ [optionWord "format" format.name]) []
      [(.config, config), (.format, format.name)] := adds_commonWords rfl hconfig ⟨rfl, rfl⟩
  exact readAll_of_adds rfl rfl (hcommon.append (adds_countWords rfl rfl (by simp)))
    (by cases count <;> simp [countKeys]) (valueFault?_file hpath)

/-- The words for a request ask for the statement of its method. -/
lemma readCommand_derive (hconfig : config ≠ "") (hpage : ∀ p ∈ r.page, 0 < p.size ∧ p.sort = []) :
    readCommand "derive" (deriveWords config format r args count) =
      .ok (.derive { r with args := args.map argumentOf } count,
        deriveState config format r args count) := by
  have hread : readAll deriveGrammar (deriveWords config format r args count) =
      .ok (deriveState config format r args count) :=
    readAll_derive hconfig fun p hp => (hpage p hp).1
  have hsays : (deriveState config format r args count).SaysRequest config format r count :=
    saysRequest_deriveState
  have hpageOf := hsays.pageOf fun p hp => (hpage p hp).2
  simp only [readCommand, hread, hpageOf, bind, Except.bind, hsays.method, hsays.entity,
    hsays.count, values_deriveState]
  rfl

/-- The words for a file ask for the statement of its request. -/
lemma readCommand_compile (hconfig : config ≠ "") (hpath : path ≠ "") :
    readCommand "compile" (compileWords config format path count) =
      .ok (.compile path count, compileState config format path count) := by
  have hfile : (compileState config format path count).value? .file = some path := by
    cases count <;> rfl
  have hcount : (compileState config format path count).has .count = count := by
    cases count <;> rfl
  simp only [readCommand, readAll_compile hconfig hpath, bind, Except.bind, hfile, hcount]
  rfl

/-- A command line is read as its command, with the configuration and the format behind it. -/
lemma ofWords_of_readCommand {name : String} {words : List String} {command : Command} {s : State}
    (hname : topGrammar.commands.contains name = true)
    (hread : readCommand name words = .ok (command, s)) (hconfig : s.value? .config = some config)
    (hformat : s.value? .format = some format.name) :
    Invocation.ofWords (name :: words) = .ok ⟨config, format, command⟩ := by
  have htop : readWords formats topGrammar (.start topGrammar) (name :: words) =
      .ok (.start topGrammar, some (name, words)) := by
    rw [readWords, hname]
    rfl
  have hsettle : (State.start topGrammar).settle formats = .ok (.start topGrammar) := rfl
  have hofName : ReportFormat.ofName? format.name = some format := by cases format <;> rfl
  simp only [Invocation.ofWords, htop, hread, hsettle, bind, Except.bind, hconfig, hformat]
  change Except.ok (⟨config, (ReportFormat.ofName? format.name).getD .text, command⟩ : Invocation) = _
  rw [hofName]
  rfl

/-- A request is said by its words, apart from its arguments, each of which is a word. -/
theorem ofWords_deriveWords (hconfig : config ≠ "")
    (hpage : ∀ p ∈ r.page, 0 < p.size ∧ p.sort = []) :
    Invocation.ofWords ("derive" :: deriveWords config format r args count) =
      .ok ⟨config, format, .derive { r with args := args.map argumentOf } count⟩ := by
  have hsays : (deriveState config format r args count).SaysRequest config format r count :=
    saysRequest_deriveState
  exact ofWords_of_readCommand (by decide) (readCommand_derive hconfig hpage) hsays.config
    hsays.format

/-- The file of a request is said by its words. -/
theorem ofWords_compileWords (hconfig : config ≠ "") (hpath : path ≠ "") :
    Invocation.ofWords ("compile" :: compileWords config format path count) =
      .ok ⟨config, format, .compile path count⟩ :=
  ofWords_of_readCommand (by decide) (readCommand_compile hconfig hpath) (by cases count <;> rfl)
    (by cases count <;> rfl)

end DocQuery.CommandLine
