import DocQuery.Proofs.CommandLine.Lines
import DocQuery.Proofs.Request.Rereading
/-!
# Two commands for one request

A request by method name can be said in the words of a command line, its arguments one by one, or
handed over as the JSON in a file. Both commands report the same (`derive_agrees_with_compile`).
-/

namespace DocQuery.CommandLine

/-! ### Arguments -/

/-- A word that is the JSON of no argument is an argument as it is. -/
lemma argumentOf_of_not_json {word : String}
    (h : ∀ j a, Json.parse? word = some j → Argument.ofJson? j ≠ some a) :
    argumentOf word = .value (.string word) := by
  have hnone : (Json.parse? word).bind Argument.ofJson? = none := by
    cases hj : Json.parse? word with
    | none => rfl
    | some j => exact Option.eq_none_iff_forall_ne_some.mpr fun a => h j a hj
  rw [argumentOf, hnone]

lemma argumentOf_of_isTextOf {text : String} {a : Argument} (h : Json.IsTextOf text a.toJson)
    (hx : Json.DoublesAreRead a.toJson.doubles) (hdepth : a.toJson.depth ≤ Json.maxDepth) :
    argumentOf text = a.reread.normal := by
  rw [argumentOf, Argument.ofJson?_of_isTextOf h hx hdepth]

lemma map_argumentOf {texts : List String} {as : List Argument}
    (h : List.Forall₂ (fun text a => Json.IsTextOf text (Argument.toJson a)) texts as)
    (hx : Json.DoublesAreRead (Json.itemDoubles (Argument.toJsons as)))
    (hdepth : Json.depths (Argument.toJsons as) ≤ Json.maxDepth) :
    texts.map argumentOf = Argument.normals (Argument.rereads as) := by
  induction h with
  | nil => rfl
  | @cons text a texts as htext _ ih =>
    rw [Argument.toJsons, Json.depths] at hdepth
    obtain ⟨hxa, hxas⟩ := List.forall_mem_append.mp hx
    rw [List.map_cons, argumentOf_of_isTextOf htext hxa (by omega), ih hxas (by omega),
      Argument.rereads, Argument.normals]

/-! ### Commands -/

variable {r : MethodRequest} {texts : List String} {path content : String}
  {files : String → FileState} {count : Bool}

/-- A line with a text for every argument reports the request with its arguments as they are read. -/
lemma run_derive (hdepth : (Request.method r).toJson.depth ≤ Json.maxDepth)
    (hdoubles : Json.DoublesAreRead (Request.method r).toJson.doubles)
    (htexts : List.Forall₂ (fun text a => Json.IsTextOf text (Argument.toJson a)) texts r.args)
    (config : Config) :
    (Command.derive { r with args := texts.map argumentOf } count).run config files =
      report (.method r.reread.normal) config count := by
  rw [r.doubles_toJson] at hdoubles
  have hargs : texts.map argumentOf = Argument.normals (Argument.rereads r.args) :=
    map_argumentOf htexts (List.forall_mem_append.mp hdoubles).1
      (Nat.le_of_lt (Nat.lt_of_lt_of_le r.depths_lt_depth hdepth))
  rw [Command.run, hargs]
  rfl

/-- A file with the text of the request reports the same. -/
lemma run_compile (hdepth : (Request.method r).toJson.depth ≤ Json.maxDepth)
    (hdoubles : Json.DoublesAreRead (Request.method r).toJson.doubles)
    (hfile : files path = .text content)
    (hcontent : Json.IsTextOf content (Request.method r).toJson) (config : Config) :
    (Command.compile path count).run config files =
      report (.method r.reread.normal) config count := by
  have hload : loadRequest path (files path) = .ok (.method r.reread.normal) := by
    rw [hfile, loadRequest, MethodRequest.ofJson?_of_isTextOf hcontent hdoubles hdepth]
  rw [Command.run, hload]
  rfl

/-- The output of a command line is that of its command under its configuration. -/
lemma output_of_ofWords {words : List String} {i : Invocation}
    (h : Invocation.ofWords words = .ok i) :
    output words files = (do
      let config ← (loadConfig i.config (files i.config)).mapError .config
      return (← i.command.run config files).write i.format) := by
  rw [output, h]
  rfl

/-- A request is reported alike, or refused alike, whether a command line says it with a text for
every argument or names a file with its text: as the request itself, with its doubles as they are
read and its arguments in normal form. Each text may be any that is read as the JSON of the argument
or the request, whose doubles have to be read as doubles. The words ask for the request, for which a
page needs a size and no sort; and a word that is the JSON of no argument is one as it is. -/
theorem derive_agrees_with_compile (hpage : ∀ p ∈ r.page, 0 < p.size ∧ p.sort = [])
    (hdepth : (Request.method r).toJson.depth ≤ Json.maxDepth)
    (hdoubles : Json.DoublesAreRead (Request.method r).toJson.doubles)
    (htexts : List.Forall₂ (fun text a => Json.IsTextOf text (Argument.toJson a)) texts r.args)
    (hfile : files path = .text content)
    (hcontent : Json.IsTextOf content (Request.method r).toJson) (count : Bool) :
    (∀ config : Config,
      (Command.derive { r with args := texts.map argumentOf } count).run config files =
        (Command.compile path count).run config files ∧
      (Command.compile path count).run config files =
        report (.method r.reread.normal) config count) ∧
    (∀ (config : String) (format : ReportFormat), config ≠ "" → path ≠ "" →
      (∀ words : List String,
        Invocation.ofWords ("derive" :: deriveWords config format r words count) =
          .ok ⟨config, format, .derive { r with args := words.map argumentOf } count⟩) ∧
      Invocation.ofWords ("compile" :: compileWords config format path count) =
        .ok ⟨config, format, .compile path count⟩ ∧
      output ("derive" :: deriveWords config format r texts count) files =
        output ("compile" :: compileWords config format path count) files) ∧
    ∀ word : String, (∀ j a, Json.parse? word = some j → Argument.ofJson? j ≠ some a) →
      argumentOf word = .value (.string word) := by
  have hrun (config : Config) :
      (Command.derive { r with args := texts.map argumentOf } count).run config files =
        (Command.compile path count).run config files := by
    rw [run_derive hdepth hdoubles htexts, run_compile hdepth hdoubles hfile hcontent]
  refine ⟨fun config => ⟨hrun config, run_compile hdepth hdoubles hfile hcontent config⟩,
    fun config format hconfig hpath => ?_, fun word => argumentOf_of_not_json⟩
  refine ⟨fun words => ofWords_deriveWords hconfig hpage, ofWords_compileWords hconfig hpath, ?_⟩
  rw [output_of_ofWords (ofWords_deriveWords hconfig hpage),
    output_of_ofWords (ofWords_compileWords hconfig hpath)]
  simp only [hrun]

/-- A negative bound, a bound with a fraction, and texts that look like JSON themselves. -/
def boundsAndNames : MethodRequest where
  entity := "Person"
  method := "findByAgeBetweenAndNameIn"
  args := [.value (.int (-5)), .value (.float 65.5),
    .value (.array [.string "[1]", .string "null"])]
  page := some ⟨2, 10, []⟩

/-- The arguments are read as they are meant, and a bare word as itself. -/
theorem derive_agrees_of_boundsAndNames :
    let files (path : String) : FileState :=
      if path = "request.json" then .text (Request.method boundsAndNames).toJson.compact
      else .text ("\x7b\"bucket\":\"b\",\"entities\":[\x7b\"name\":\"Person\",\"properties\":[" ++
        "\x7b\"name\":\"age\",\"kind\":\"number\"\x7d," ++
        "\x7b\"name\":\"name\",\"kind\":\"string\"\x7d]\x7d]\x7d")
    output ("derive" :: deriveWords "config.json" .text boundsAndNames
        ["-5", "65.5", "[\"[1]\",\"null\"]"] true) files =
      output ("compile" :: compileWords "config.json" .text "request.json" true) files ∧
    argumentOf "Oliver" = .value (.string "Oliver") := by
  intro files
  have hpage : ∀ p ∈ boundsAndNames.page, 0 < p.size ∧ p.sort = [] := by
    rintro p ⟨rfl⟩
    exact ⟨by decide, rfl⟩
  have hdoubles : Json.DoublesAreRead (Request.method boundsAndNames).toJson.doubles := by
    have hx : (Request.method boundsAndNames).toJson.doubles = [65.5] := rfl
    rw [hx]
    rintro x hmem
    obtain rfl := List.mem_singleton.mp hmem
    exact ⟨65.5, by rfl⟩
  have hnumber : Json.IsTextOf "65.5" (Argument.value (.float 65.5)).toJson :=
    congrArg Json.parse? (by decide +kernel)
  have hnames : Json.IsTextOf "[\"[1]\",\"null\"]"
      (Argument.value (.array [.string "[1]", .string "null"])).toJson :=
    congrArg Json.parse? (by decide +kernel)
  have hfile : files "request.json" = .text (Request.method boundsAndNames).toJson.compact :=
    if_pos rfl
  obtain ⟨-, houtput, hword⟩ := derive_agrees_with_compile hpage (by decide) hdoubles
    (.cons rfl (.cons hnumber (.cons hnames .nil))) hfile rfl true
  have hbare : Json.parse? "Oliver" = none := Option.isNone_iff_eq_none.mp (by decide +kernel)
  exact ⟨(houtput "config.json" .text (by decide) (by decide)).2.2, hword "Oliver" (by simp [hbare])⟩

end DocQuery.CommandLine
