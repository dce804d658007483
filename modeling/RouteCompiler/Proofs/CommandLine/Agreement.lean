import Mathlib.Tactic.SplitIfs
import RouteCompiler.Proofs.CommandLine.Level
import RouteCompiler.Proofs.Compile.Written
import RouteCompiler.Proofs.Json.Pretty

/-! # The commands agree

The commands load and compile a file alike and differ in what they print of the outcome. With the log off they fail
with the same text on the standard error, and where they succeed, the line of `check` says of the value that
`compile` prints how many routes it has, whether the catch-all is among them, and whether there is a policy. -/

namespace RouteCompiler.CommandLine
open Document

/-! ### Arguments -/

/-- What looks like an option is not taken for a file. -/
theorem file_of_isOption {canBePretty : Bool} {file : String} {tail tail' : Tail} (hfile : isOption file = true)
    (h : readTail canBePretty 1 tail [file] = some tail') : tail'.file = tail.file := by
  simp only [readTail, hfile, if_true] at h
  split_ifs at h with hdash hpretty hcan
  · obtain rfl := Option.some.inj h
    rfl
  · obtain rfl := Option.some.inj h
    rfl
  · split at h
    · obtain rfl := Option.some.inj h
      rfl
    · cases h

theorem readTail_file {canBePretty : Bool} {file : String} {tail : Tail} (hfile : isOption file = false)
    (hnone : tail.file = none) (length : Nat) (rest : List String) :
    readTail canBePretty (length + 1) tail (file :: rest) =
      readTail canBePretty length { tail with file := some file } rest := by
  have hdash : file ≠ "--" := by
    rintro rfl
    cases hfile
  have hpretty : file ≠ "--pretty" := by
    rintro rfl
    cases hfile
  simp [readTail, hdash, hpretty, hfile, hnone]

section Arguments
variable {level file : String} (hoff : Off level)
include hoff

theorem Off.not_isOption : isOption level = false := by
  have hminus : '-' ∉ level.toList := fun hmem => absurd (hoff.gives.chars.2 '-' hmem) (by decide)
  rw [isOption]
  split
  · rename_i c cs heq
    exact absurd (heq ▸ List.mem_cons_self) hminus
  · rfl

/-- What stands behind a level and the name of a command. -/
theorem ofArguments_command {name : String} (hname : isOption name = false) (rest : List String) :
    Invocation.ofArguments ("--log-level" :: level :: name :: rest) =
      (readTail (name == "compile") rest.length ⟨.none, false, none⟩ rest).bind fun tail =>
        (command? name tail).map fun command =>
          ⟨tail.options.level.getD level, tail.options.format.getD .pretty, command⟩ := by
  have hlevel := hoff.not_isOption
  have hoption : isOption "--log-level" = true := by decide
  have hassign : assignment? "--log-level" = none := by decide
  have htake : takeOption .none "--log-level" (level :: name :: rest) = some (⟨some level, none⟩, name :: rest) := by
    simp [takeOption, hassign, hlevel, LogOptions.set, LogOptions.none]
  rw [Invocation.ofArguments, List.length_cons, readArguments, if_pos hoption, htake]
  simp only [List.length_cons, readArguments, hname]
  cases htail : readTail (name == "compile") rest.length ⟨.none, false, none⟩ rest with
  | none => simp
  | some tail =>
    cases hcommand : command? name tail with
    | none => simp [hcommand]
    | some command =>
      obtain ⟨⟨behind, format⟩, pretty, file⟩ := tail
      cases behind <;> cases format <;> simp [hcommand, LogOptions.merge]

/-- If `check` takes a file, `compile` takes it, with and without `--pretty`. -/
theorem ofArguments_compile {invocation : Invocation}
    (h : Invocation.ofArguments ["--log-level", level, "check", file] = some invocation) :
    invocation = ⟨level, .pretty, .check file⟩ ∧
    Invocation.ofArguments ["--log-level", level, "compile", file] = some ⟨level, .pretty, .compile file false⟩ ∧
    Invocation.ofArguments ["--log-level", level, "compile", file, "--pretty"] =
      some ⟨level, .pretty, .compile file true⟩ := by
  rw [ofArguments_command hoff (by decide), Option.bind_eq_some_iff] at h
  obtain ⟨tail, htail, hmap⟩ := h
  obtain ⟨command, hcommand, rfl⟩ := Option.map_eq_some_iff.mp hmap
  cases hfile : isOption file with
  | true =>
    have hnone := file_of_isOption hfile htail
    simp [command?, hnone] at hcommand
  | false =>
    rw [List.length_singleton, readTail_file hfile rfl] at htail
    obtain rfl := Option.some.inj htail
    have hne : file ≠ "" := by
      rintro rfl
      cases hcommand
    rw [ofArguments_command hoff (by decide), ofArguments_command hoff (by decide), List.length_singleton,
      List.length_cons, readTail_file hfile rfl, readTail_file hfile rfl]
    simp only [command?, if_neg hne] at hcommand
    obtain rfl := Option.some.inj hcommand
    refine ⟨rfl, ?_, ?_⟩ <;> simp [readTail, command?, hne, LogOptions.none]

end Arguments

/-! ### Outcomes -/

section Outcomes
variable {file : String} {content : Except FileError ByteArray}

theorem printCompiled_of_error {failure : Failure} (h : (loadAndCompile file content).value = .error failure)
    (render : CompiledApi → String) :
    printCompiled render file content = failure.outcome (loadAndCompile file content).events := by
  simp only [printCompiled, h]

theorem printCompiled_of_ok {api : CompiledApi} (h : (loadAndCompile file content).value = .ok api)
    (render : CompiledApi → String) :
    printCompiled render file content = ⟨some 0, render api ++ "\n", "", (loadAndCompile file content).events⟩ := by
  simp only [printCompiled, h]

/-- A file leads to an API just if it is loaded and its routes compile. -/
theorem loadAndCompile_eq_ok_iff {api : CompiledApi} : (loadAndCompile file content).value = .ok api ↔
    ∃ config, ServiceConfig.load file content = .ok config ∧ config.compile.value = .ok api := by
  rw [loadAndCompile]
  cases hload : ServiceConfig.load file content with
  | error e => simp [Logged.silent]
  | ok config => cases hcompile : config.compile.value <;> simp [hcompile]

theorem consistent_of_loadAndCompile {api : CompiledApi} (h : (loadAndCompile file content).value = .ok api) :
    api.routes.Consistent := by
  obtain ⟨config, -, hcompiled⟩ := loadAndCompile_eq_ok_iff.mp h
  obtain ⟨table, hresolved, rfl⟩ := compile_eq_ok_iff.mp hcompiled
  exact (resolve_eq_ok hresolved).reachable.consistent

end Outcomes

/-! ### The summary -/

/-- Only the catch-all has a star for its text. -/
theorem catchAll_iff {table : RouteTable} (h : table.Consistent) :
    table.catchAll?.isSome = true ↔ "*" ∈ table.entries.toList.map (·.key.text) := by
  rw [Option.isSome_iff_exists, List.mem_map]
  constructor
  · rintro ⟨target, htarget⟩
    exact ⟨_, Array.mem_toList_iff.mpr (h.get?_eq_some_iff.mp htarget), rfl⟩
  · rintro ⟨⟨key, target⟩, hentry, htext⟩
    obtain rfl : key = .catchAll := RouteKey.text_inj htext
    exact ⟨target, h.get?_eq_some_iff.mpr (Array.mem_toList_iff.mp hentry)⟩

theorem summary_eq {api : CompiledApi} (hroutes : api.routes.Consistent) :
    summary api = toString api.routes.entries.toList.length ++ " route(s)" ++
      (if "*" ∈ api.routes.entries.toList.map (·.key.text) then ", catch-all" else "") ++
        (if api.cors.isSome then ", CORS enabled" else "") := by
  have hstar : api.catchAll?.isSome = true ↔ "*" ∈ api.routes.entries.toList.map (·.key.text) := catchAll_iff hroutes
  simp only [summary, hstar, RouteTable.size, Array.length_toList]

/-- What `check` says of an API, it says of the value that shows the API. -/
theorem summary_of_shown {api : CompiledApi} (hroutes : api.routes.Consistent) {v : Value} (h : api.Shown v) :
    ∃ routes, v.member? "routes" = some (.table routes) ∧ (routes.map Prod.fst).Nodup ∧
      summary api = toString routes.length ++ " route(s)" ++
        (if "*" ∈ routes.map Prod.fst then ", catch-all" else "") ++
          (if (v.member? "cors").isSome then ", CORS enabled" else "") := by
  obtain ⟨⟨routes, hmember, hnodup, hshown⟩, hcors⟩ := h
  refine ⟨routes, hmember, hnodup, ?_⟩
  rw [summary_eq hroutes, names_of_shown hshown, hshown.length_eq, isSome_eq_of_rel hcors]

/-! ### The commands -/

/-- The arguments ask for a command with the log off, and this is what the program prints and how it ends. -/
def Prints (read : String → Except FileError ByteArray) (arguments : List String) (command : Command)
    (printed : Transcript) : Prop :=
  ∃ level format, Off level ∧ Invocation.ofArguments arguments = some ⟨level, format, command⟩ ∧
    printed = Invocation.run read ⟨level, format, command⟩

/-- What the commands print of one file, as far as it is the same. -/
structure Agree (file : String) (content : Except FileError ByteArray) (checked compact indented : Transcript) :
    Prop where
  /-- They end, and with the same code. -/
  code : ∃ code, checked.outcome.code = some code ∧ compact.outcome.code = some code ∧
    indented.outcome.code = some code
  /-- They succeed just if the file is loaded and its routes compile. -/
  succeeds_iff : checked.outcome.code = some 0 ↔
    ∃ config api, ServiceConfig.load file content = .ok config ∧ config.compile.value = .ok api
  /-- Nothing is logged. -/
  events : checked.outcome.events = [] ∧ compact.outcome.events = [] ∧ indented.outcome.events = []
  failure : checked.outcome.code ≠ some 0 →
    checked.outcome.stdout = "" ∧ compact.outcome.stdout = "" ∧ indented.outcome.stdout = "" ∧
      compact.errorText = checked.errorText ∧ indented.errorText = checked.errorText
  success : checked.outcome.code = some 0 →
    checked.errorText = "" ∧ compact.errorText = "" ∧ indented.errorText = "" ∧
      ∃ (v : Value) (routes : List (String × Value)),
        Json.tree compact.outcome.stdout = (v.node, []) ∧ Json.tree indented.outcome.stdout = (v.node, []) ∧
          v.member? "routes" = some (.table routes) ∧ (routes.map Prod.fst).Nodup ∧
          checked.outcome.stdout = file ++ ": " ++ (toString routes.length ++ " route(s)" ++
            (if "*" ∈ routes.map Prod.fst then ", catch-all" else "") ++
              (if (v.member? "cors").isSome then ", CORS enabled" else "")) ++ "\n"

/-- A command prints its outcome and nothing else, if the log is off. -/
theorem Prints.eq {read : String → Except FileError ByteArray} {arguments : List String} {command : Command}
    {printed : Transcript} (h : Prints read arguments command printed) :
    printed = ⟨"", { command.run read with events := [] }⟩ := by
  obtain ⟨level, format, hoff, -, rfl⟩ := h
  obtain ⟨hnotices, hshows⟩ := hoff.silent
  have hevents : (command.run read).events.filter (LogFilter.ofText (filterText level)).shows = [] := by
    rw [List.filter_eq_nil_iff]
    intro event _
    simp [hshows event]
  rw [Invocation.run, Invocation.filterText, Outcome.filtered, Invocation.filter, Invocation.filterText, hnotices,
    hevents]

/-- Each of `check`, `compile` and `compile --pretty` takes the files that the others take. With the log off they end
with the same code whatever the file holds, and succeed just if it is loaded and its routes compile. They fail with the
same text; and if they succeed, both forms of the value are texts of one value, and the line of `check` says of it what
it is. -/
theorem commands_agree (read : String → Except FileError ByteArray) (file : String) :
    (∀ level invocation, Off level →
      Invocation.ofArguments ["--log-level", level, "check", file] = some invocation →
        invocation = ⟨level, .pretty, .check file⟩ ∧
        Invocation.ofArguments ["--log-level", level, "compile", file] = some ⟨level, .pretty, .compile file false⟩ ∧
        Invocation.ofArguments ["--log-level", level, "compile", file, "--pretty"] =
          some ⟨level, .pretty, .compile file true⟩) ∧
    ∀ check compile compilePretty checked compact indented, Prints read check (.check file) checked →
      Prints read compile (.compile file false) compact →
        Prints read compilePretty (.compile file true) indented →
          Agree file (read file) checked compact indented := by
  refine ⟨fun level invocation hoff h => ofArguments_compile hoff h, ?_⟩
  intro check compile compilePretty checked compact indented hcheck hcompile hpretty
  obtain rfl := hcheck.eq
  obtain rfl := hcompile.eq
  obtain rfl := hpretty.eq
  simp only [Command.run]
  cases hloaded : (loadAndCompile file (read file)).value with
  | error failure =>
    have hprinted := printCompiled_of_error hloaded
    simp only [CommandLine.check, CommandLine.compile, hprinted, Failure.outcome]
    have hfails : ¬∃ config api, ServiceConfig.load file (read file) = .ok config ∧ config.compile.value = .ok api := by
      rintro ⟨config, api, h⟩
      cases hloaded.symm.trans (loadAndCompile_eq_ok_iff.mpr ⟨config, h⟩)
    exact {
      code := ⟨1, rfl, rfl, rfl⟩
      succeeds_iff := iff_of_false (by simp) hfails
      events := ⟨rfl, rfl, rfl⟩
      failure := fun _ => ⟨rfl, rfl, rfl, rfl, rfl⟩
      success := nofun }
  | ok api =>
    have hprinted := printCompiled_of_ok hloaded
    have hconsistent := consistent_of_loadAndCompile hloaded
    have hshown := CompiledApi.shown hconsistent.nodup_keys
    obtain ⟨routes, hroutes, hnodup, hsummary⟩ := summary_of_shown hconsistent hshown
    obtain ⟨hcompact, hindented⟩ := Json.tree_write_line ((CompiledApi.fits _).mono (by decide))
    obtain ⟨config, hload⟩ := loadAndCompile_eq_ok_iff.mp hloaded
    simp only [CommandLine.check, CommandLine.compile, hprinted]
    exact {
      code := ⟨0, rfl, rfl, rfl⟩
      succeeds_iff := iff_of_true rfl ⟨config, api, hload⟩
      events := ⟨rfl, rfl, rfl⟩
      failure := fun h => absurd rfl h
      success := fun _ => ⟨rfl, rfl, rfl, _, routes, hcompact, hindented, hroutes, hnodup, by rw [hsummary]⟩ }

/-- A file with a route and the catch-all, and one that is not there: the commands succeed with the one and fail with the
other, whichever way the log is turned off. -/
theorem commands_agree_of_written :
    let config : ServiceConfig := ⟨"shop", ⟨some (.enabled true)⟩,
      [⟨"users", none, [⟨some (.shorthand "get /a")⟩, ⟨some (.shorthand "*")⟩]⟩]⟩
    let read : String → Except FileError ByteArray := fun file =>
      if file = "shop.json" then .ok (Json.write config.toValue).toUTF8 else .error .notFound
    let checked (file : String) := Invocation.run read ⟨"off", .pretty, .check file⟩
    let compact (file : String) := Invocation.run read ⟨"0", .pretty, .compile file false⟩
    let indented (file : String) := Invocation.run read ⟨"off", .pretty, .compile file true⟩
    (Agree "shop.json" (read "shop.json") (checked "shop.json") (compact "shop.json") (indented "shop.json") ∧
      (checked "shop.json").outcome.code = some 0 ∧
      (checked "shop.json").outcome.stdout = "shop.json: 2 route(s), catch-all, CORS enabled\n" ∧
      ∃ v : Value, Json.tree (compact "shop.json").outcome.stdout = (v.node, []) ∧
        Json.tree (indented "shop.json").outcome.stdout = (v.node, [])) ∧
    Agree "gone.json" (read "gone.json") (checked "gone.json") (compact "gone.json") (indented "gone.json") ∧
      (checked "gone.json").outcome.code = some 1 ∧
      (checked "gone.json").errorText = "Error: IO error: No such file or directory (os error 2)\n" := by
  intro config read checked compact indented
  have hprints (file : String)
      (hoff : Invocation.ofArguments ["--log-level", "off", "check", file] = some ⟨"off", .pretty, .check file⟩) :
      Prints read ["--log-level", "off", "check", file] (.check file) (checked file) :=
    ⟨"off", .pretty, by decide, hoff, rfl⟩
  have hagree (file : String)
      (hoff : Invocation.ofArguments ["--log-level", "off", "check", file] = some ⟨"off", .pretty, .check file⟩)
      (hzero : Invocation.ofArguments ["--log-level", "0", "check", file] = some ⟨"0", .pretty, .check file⟩) :
      Agree file (read file) (checked file) (compact file) (indented file) := by
    obtain ⟨hforms, hagree⟩ := commands_agree read file
    obtain ⟨-, -, hpretty⟩ := hforms "off" _ (by decide) hoff
    obtain ⟨-, hcompact, -⟩ := hforms "0" _ (by decide) hzero
    exact hagree _ _ _ _ _ _ (hprints file hoff) ⟨"0", .pretty, by decide, hcompact, rfl⟩
      ⟨"off", .pretty, by decide, hpretty, rfl⟩
  have hload : ServiceConfig.load "shop.json" (read "shop.json") = .ok config :=
    (config.load_write (by decide)).trans (if_pos (by decide))
  obtain ⟨table, hresolved, hentries⟩ := resolve_of_entries config.declarations
    [⟨.route (.exact .get) "/a", ⟨"users", none⟩⟩, ⟨.catchAll, ⟨"users", none⟩⟩] rfl (by decide)
  have hcompiled : config.compile.value = .ok ⟨table, _⟩ := compile_eq_ok_iff.mpr ⟨table, hresolved, rfl⟩
  have hsummary : summary ⟨table, (CorsPolicy.merge config.cors table.boundMethods).value⟩ =
      "2 route(s), catch-all, CORS enabled" := by
    rw [summary_eq (resolve_eq_ok hresolved).reachable.consistent, hentries]
    rfl
  have hstdout : (checked "shop.json").outcome.stdout = "shop.json: 2 route(s), catch-all, CORS enabled\n" := by
    rw [(hprints "shop.json" (by decide)).eq, Command.run, CommandLine.check,
      printCompiled_of_ok (loadAndCompile_eq_ok_iff.mpr ⟨config, hload, hcompiled⟩), hsummary]
    rfl
  have hwritten := hagree "shop.json" (by decide) (by decide)
  have hcode := hwritten.succeeds_iff.mpr ⟨config, _, hload, hcompiled⟩
  obtain ⟨-, -, -, v, _, hcompact, hindented, -⟩ := hwritten.success hcode
  refine ⟨⟨hwritten, hcode, hstdout, v, hcompact, hindented⟩, hagree "gone.json" (by decide) (by decide), rfl, ?_⟩
  rw [(hprints "gone.json" (by decide)).eq]
  rfl

end RouteCompiler.CommandLine
