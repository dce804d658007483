import RouteCompiler.Proofs.CommandLine.Agreement
import RouteCompiler.Proofs.Routing.Renaming
import RouteCompiler.Proofs.Service.RoundTrip

/-! # The log of a pass

A pass leaves an event for each binding when it accepts it, one when it derives the allowed methods, and one at its end.
So what is logged on the way agrees with the table that comes out in the end, and a pass that fails has logged just the
bindings before the one that it rejects. -/

namespace RouteCompiler
open Document CommandLine

/-! ### What the log should hold -/

/-- What the log shows of an event: its level, and its message with the fields. -/
structure LogRecord where
  level : Level
  fields : List (String × Value)

def Event.record (event : Event) : LogRecord := ⟨event.level, event.fields⟩

namespace LogRecord

def bound (entry : RouteEntry) : LogRecord :=
  ⟨.debug, [("message", .text "Route bound"), ("route_key", .text entry.key.text), ("target", .text entry.target.name)]⟩

def derived (policy : CorsPolicy) : LogRecord :=
  ⟨.debug, [("message", .text "CORS methods derived from routes"),
    ("methods", .text (Text.quotedSet policy.allowedMethods.values))]⟩

def compiled (api : CompiledApi) : LogRecord :=
  ⟨.info, [("message", .text "Route table compiled"), ("routes", .integer api.routes.entries.size),
    ("catch_all", .bool api.catchAll?.isSome), ("cors", .bool api.cors.isSome)]⟩

end LogRecord

/-- The setting asks for CORS and gives no allowed methods. -/
inductive CorsSetting.DerivesMethods : Option CorsSetting → Prop where
  | enabled : DerivesMethods (some (.enabled true))
  | custom (overrides : CorsOverrides) (h : overrides.allowedMethods = none) : DerivesMethods (some (.custom overrides))

/-- The records that a pass with this outcome should leave. -/
inductive Mirrored (declarations : List TargetRoutes) (cors : Option CorsSetting) :
    Except RouteError CompiledApi → List LogRecord → Prop where
  | derived {api : CompiledApi} {policy : CorsPolicy} (hpolicy : api.cors = some policy)
    (hderives : CorsSetting.DerivesMethods cors) :
    Mirrored declarations cors (.ok api) (api.routes.entries.toList.map .bound ++ [.derived policy, .compiled api])
  | given {api : CompiledApi} (hgiven : ¬CorsSetting.DerivesMethods cors) :
    Mirrored declarations cors (.ok api) (api.routes.entries.toList.map .bound ++ [.compiled api])
  /-- The binding at the place is rejected, and only those before it are logged. -/
  | rejected {e : RouteError} {j : Nat} {entries : List RouteEntry}
    (hplace : RouteTable.empty.RejectsAt (declaredPairs declarations) j e)
    (hentries : ((declaredPairs declarations).take j).map declaredEntry = entries.map .ok) :
    Mirrored declarations cors (.error e) (entries.map .bound)

/-! ### The events of a pass -/

def RouteEntry.boundEvent (entry : RouteEntry) : Event := .routeBound entry.key entry.target.name

/-- The pass adds an entry for each binding that it accepts, with an event for the entry, up to its end or to the
binding that it rejects. -/
theorem RouteTable.bindAll_events (table : RouteTable) (pairs : List (Target × RouteBinding)) :
    (∃ (next : RouteTable) (entries : List RouteEntry), (table.bindAll pairs).value = .ok next ∧
      next.entries.toList = table.entries.toList ++ entries ∧
      (table.bindAll pairs).events = entries.map (·.boundEvent)) ∨
    ∃ (e : RouteError) (j : Nat) (entries : List RouteEntry),
      (table.bindAll pairs).value = .error e ∧ table.RejectsAt pairs j e ∧
      (pairs.take j).map declaredEntry = entries.map .ok ∧
      (table.bindAll pairs).events = entries.map (·.boundEvent) := by
  -- Every accepted binding leaves another table to the bindings behind it.
  induction pairs generalizing table with
  | nil => exact Or.inl ⟨table, [], rfl, (List.append_nil _).symm, rfl⟩
  | cons declared later ih =>
    obtain ⟨target, binding⟩ := declared
    cases hbind : table.bind target binding with
    | error e =>
      rw [bindAll_of_error hbind]
      exact Or.inr ⟨e, 0, [], rfl, rejectsAt_zero hbind later, rfl, rfl⟩
    | ok accepted =>
      obtain ⟨key, after⟩ := accepted
      obtain ⟨hkey, -, -, hafter⟩ := bind_eq_ok_iff.mp hbind
      have hentry : declaredEntry (target, binding) = .ok ⟨key, target⟩ := declaredEntry_eq_ok_iff.mpr ⟨hkey, rfl⟩
      rw [bindAll_of_ok hbind]
      rcases ih after with ⟨next, entries, hvalue, hnext, hevents⟩ | ⟨e, j, entries, hvalue, hplace, htake, hevents⟩
      · refine Or.inl ⟨next, ⟨key, target⟩ :: entries, hvalue, ?_, by rw [hevents]; rfl⟩
        rw [hnext, hafter, entries_insert, List.append_assoc, List.singleton_append]
      · refine Or.inr ⟨e, j + 1, ⟨key, target⟩ :: entries, hvalue, rejectsAt_succ hbind hplace, ?_, by rw [hevents]; rfl⟩
        rw [List.take_succ_cons, List.map_cons, hentry, htake, List.map_cons]

theorem CorsPolicy.merge_events (setting : Option CorsSetting) (bound : MethodSet) :
    (∃ policy, (merge setting bound).value = some policy ∧ CorsSetting.DerivesMethods setting ∧
      (merge setting bound).events = [.methodsDerived policy.allowedMethods]) ∨
    ¬CorsSetting.DerivesMethods setting ∧ (merge setting bound).events = [] := by
  cases setting with
  | none => exact Or.inr ⟨nofun, rfl⟩
  | some setting =>
    cases setting with
    | enabled on =>
      cases on with
      | false => exact Or.inr ⟨nofun, rfl⟩
      | true => exact Or.inl ⟨_, rfl, .enabled, rfl⟩
    | custom overrides =>
      cases hmethods : overrides.allowedMethods with
      | none => exact Or.inl ⟨_, rfl, .custom overrides hmethods, by simp [merge, CorsSetting.overrides?, hmethods]⟩
      | some given =>
        refine Or.inr ⟨?_, by simp [merge, CorsSetting.overrides?, hmethods]⟩
        rintro (_ | ⟨_, hnone⟩)
        cases hmethods.symm.trans hnone

theorem RouteTable.Consistent.hasCatchAll_eq {table : RouteTable} (h : table.Consistent) :
    table.hasCatchAll = table.catchAll?.isSome := by
  rw [Bool.eq_iff_iff, hasCatchAll, catchAll?, h.contains_iff, Option.isSome_iff_exists]
  constructor
  · rintro ⟨⟨key, target⟩, hentry, rfl⟩
    exact ⟨target, h.get?_eq_some_iff.mpr hentry⟩
  · rintro ⟨target, htarget⟩
    exact ⟨_, h.get?_eq_some_iff.mp htarget, rfl⟩

theorem map_record_boundEvent (entries : List RouteEntry) :
    (entries.map (·.boundEvent)).map (·.record) = entries.map .bound := List.map_map

/-- The events of a pass are what its outcome asks for. -/
theorem mirrored_compile (declarations : List TargetRoutes) (cors : Option CorsSetting) :
    Mirrored declarations cors (compile declarations cors).value ((compile declarations cors).events.map (·.record)) := by
  rcases RouteTable.empty.bindAll_events (declaredPairs declarations) with
    ⟨table, entries, hvalue, hentries, hevents⟩ | ⟨e, j, entries, hvalue, hplace, htake, hevents⟩
  · -- The last event asks the index for the catch-all; the invariant says that the entries answer alike.
    have hconsistent := (resolve_eq_ok hvalue).reachable.consistent
    obtain rfl : table.entries.toList = entries := hentries
    have hcompiled : compile declarations cors =
        ⟨table.entries.toList.map (·.boundEvent) ++ (CorsPolicy.merge cors table.boundMethods).events ++
          [.tableCompiled table.size table.catchAll?.isSome (CorsPolicy.merge cors table.boundMethods).value.isSome],
          .ok ⟨table, (CorsPolicy.merge cors table.boundMethods).value⟩⟩ := by
      simp only [compile, resolve, hvalue, hevents, hconsistent.hasCatchAll_eq]
    rw [hcompiled]
    simp only [List.map_append, map_record_boundEvent, List.append_assoc]
    rcases CorsPolicy.merge_events cors table.boundMethods with ⟨policy, hpolicy, hderives, hmerged⟩ | ⟨hgiven, hmerged⟩
    · rw [hmerged]
      exact .derived hpolicy hderives
    · rw [hmerged]
      exact .given hgiven
  · have hrejected : compile declarations cors = ⟨entries.map (·.boundEvent), .error e⟩ := by
      simp only [compile, resolve, hvalue, hevents]
    rw [hrejected, map_record_boundEvent]
    exact .rejected hplace htake

theorem Mirrored.level {declarations : List TargetRoutes} {cors : Option CorsSetting}
    {value : Except RouteError CompiledApi} {log : List LogRecord} (h : Mirrored declarations cors value log) :
    ∀ record ∈ log, record.level = .debug ∨ record.level = .info := by
  cases h <;> simp [or_imp, forall_and, LogRecord.bound, LogRecord.derived, LogRecord.compiled]

/-! ### The log of a command -/

namespace CommandLine

/-- The command compiles the file once and ends. -/
inductive Command.Compiles (file : String) : Command → Prop where
  | check : Compiles file (.check file)
  | compile (pretty : Bool) : Compiles file (.compile file pretty)

section Command
variable {file : String} {command : Command} (hcommand : command.Compiles file)
  {read : String → Except FileError ByteArray}
include hcommand

/-- The command adds no events to those of the pass. -/
theorem Command.Compiles.events : (command.run read).events = (loadAndCompile file (read file)).events := by
  have hprinted (render : CompiledApi → String) :
      (printCompiled render file (read file)).events = (loadAndCompile file (read file)).events := by
    cases hloaded : (loadAndCompile file (read file)).value with
    | error failure => rw [printCompiled_of_error hloaded, Failure.outcome]
    | ok api => rw [printCompiled_of_ok hloaded]
  cases hcommand with
  | check => exact hprinted _
  | compile pretty => exact hprinted _

theorem Command.Compiles.events_of_refused {e : LoadError} (h : ServiceConfig.load file (read file) = .error e) :
    (command.run read).events = [] := by
  rw [hcommand.events, loadAndCompile, h]
  rfl

theorem Command.Compiles.events_of_loaded {config : ServiceConfig}
    (h : ServiceConfig.load file (read file) = .ok config) : (command.run read).events = config.compile.events := by
  rw [hcommand.events, loadAndCompile, h]
  cases hvalue : config.compile.value <;> simp only [hvalue]

theorem Command.Compiles.level : ∀ event ∈ (command.run read).events, event.level = .debug ∨ event.level = .info := by
  cases hload : ServiceConfig.load file (read file) with
  | error e =>
    rw [hcommand.events_of_refused hload]
    exact nofun
  | ok config =>
    rw [hcommand.events_of_loaded hload]
    intro event hevent
    exact (mirrored_compile config.declarations config.cors).level _ (List.mem_map_of_mem hevent)

end Command

theorem Gives.events {level : String} {limit : Limit} (h : Gives level limit) (read : String → Except FileError ByteArray)
    (format : LogFormat) (command : Command) : (Invocation.run read ⟨level, format, command⟩).outcome.events =
      (command.run read).events.filter fun event => limit.allows event.level :=
  congrArg (fun p => List.filter p _) (funext h.shows)

/-- With its log at the level `debug`, a command that compiles a file logs nothing if the file is refused, and else just
what mirrors the pass: a record for each entry of the table, or for each binding before the one that is rejected, and
behind all entries whether the allowed methods are derived, and what the table holds. At the level `info` the log is
what of this has that level; and no level makes a difference for the standard output and the exit code. -/
theorem log_mirrors_pass {file level : String} {command : Command} (hcommand : command.Compiles file)
    (hlevel : Gives level (some .debug)) (read : String → Except FileError ByteArray) (format : LogFormat) :
    let printed := Invocation.run read ⟨level, format, command⟩
    (∀ e, ServiceConfig.load file (read file) = .error e → printed.outcome.events = []) ∧
    (∀ config, ServiceConfig.load file (read file) = .ok config →
      Mirrored config.declarations config.cors config.compile.value (printed.outcome.events.map (·.record))) ∧
    (∀ other otherFormat, Gives other (some .info) →
      (Invocation.run read ⟨other, otherFormat, command⟩).outcome.events.map (·.record) =
        (printed.outcome.events.map (·.record)).filter (·.level = .info)) ∧
    ∀ other otherFormat, (Invocation.run read ⟨other, otherFormat, command⟩).outcome.stdout = printed.outcome.stdout ∧
      (Invocation.run read ⟨other, otherFormat, command⟩).outcome.code = printed.outcome.code := by
  intro printed
  have hall : printed.outcome.events = (command.run read).events := by
    rw [hlevel.events, List.filter_eq_self]
    intro event hevent
    rcases hcommand.level event hevent with h | h <;> rw [h] <;> rfl
  refine ⟨fun e hload => ?_, fun config hload => ?_, fun other otherFormat hother => ?_, fun _ _ => ⟨rfl, rfl⟩⟩
  · rw [hall, hcommand.events_of_refused hload]
  · rw [hall, hcommand.events_of_loaded hload]
    exact mirrored_compile config.declarations config.cors
  · rw [hall, hother.events, List.filter_map]
    refine congrArg (List.map _) (List.filter_congr fun event hevent => ?_)
    simp only [Function.comp_def, Event.record]
    rcases hcommand.level event hevent with h | h <;> rw [h] <;> rfl

/-- A file with a route and the catch-all: of the four records one is left at the level `info`. -/
theorem log_mirrors_pass_of_written :
    let users : Target := ⟨"users", none⟩
    let config : ServiceConfig := ⟨"shop", ⟨some (.enabled true)⟩,
      [⟨"users", none, [⟨some (.shorthand "get /a")⟩, ⟨none⟩, ⟨some (.shorthand "*")⟩]⟩]⟩
    let read : String → Except FileError ByteArray := fun _ => .ok (Json.write config.toValue).toUTF8
    let log (level : String) := (Invocation.run read ⟨level, .pretty, .check "shop.json"⟩).outcome.events.map (·.record)
    ∃ api policy, config.compile.value = .ok api ∧
      log "DEBUG" = [.bound ⟨.route (.exact .get) "/a", users⟩, .bound ⟨.catchAll, users⟩, .derived policy, .compiled api] ∧
      log "3" = [.compiled api] := by
  intro users config read log
  have hload : ServiceConfig.load "shop.json" (read "shop.json") = .ok config :=
    (config.load_write (by decide)).trans (if_pos (by decide))
  obtain ⟨table, htable, hentries⟩ := resolve_of_entries config.declarations
    [⟨.route (.exact .get) "/a", users⟩, ⟨.catchAll, users⟩] rfl (by decide)
  have hcompiled : config.compile.value = .ok ⟨table, _⟩ := compile_eq_ok_iff.mpr ⟨table, htable, rfl⟩
  have hlevel : Gives "DEBUG" (some .debug) := by decide
  have hcommand : (Command.check "shop.json").Compiles "shop.json" := .check
  obtain ⟨-, hmirrored, hinfo, -⟩ := log_mirrors_pass hcommand hlevel read .pretty
  have hlog := hmirrored config hload
  have hfiltered : log "3" = (log "DEBUG").filter (·.level = .info) := hinfo "3" .pretty (by decide)
  rw [hcompiled] at hlog
  change Mirrored _ _ _ (log "DEBUG") at hlog
  rw [hfiltered]
  generalize log "DEBUG" = records at hlog ⊢
  cases hlog with
  | @derived _ policy _ _ =>
    simp only [hentries]
    exact ⟨_, policy, hcompiled, rfl, rfl⟩
  | given hgiven => exact absurd .enabled hgiven

end CommandLine
end RouteCompiler
