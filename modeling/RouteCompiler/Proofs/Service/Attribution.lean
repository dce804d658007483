import Mathlib.Data.List.Forall2
import Mathlib.Logic.Relation
import RouteCompiler.Proofs.Routing.Resolution
import RouteCompiler.Proofs.Service.Validation

/-! # Routes and the functions that declare them

The entries of a compiled table are, one for one, the events of the service that bind a route, and each entry
has the function of its event as its target. When a binding is rejected, the error names one function, which
is the only one of its name in a valid service and has the rejected binding among its own events. Events and
functions that bind nothing, and the name of the service, have no part in this. -/

namespace RouteCompiler
namespace ServiceConfig

/-- The bindings that events declare, each with the function of its event: in the order of functions, and of
    events within a function. -/
def routedEvents (config : ServiceConfig) : List (FunctionConfig × RouteBinding) :=
  config.functions.flatMap fun f => f.events.filterMap fun event => event.httpApi.map (f, ·)

theorem mem_routedEvents {config : ServiceConfig} {f : FunctionConfig} {binding : RouteBinding} :
    (f, binding) ∈ config.routedEvents ↔ f ∈ config.functions ∧ ⟨some binding⟩ ∈ f.events := by
  simp only [routedEvents, List.mem_flatMap, List.mem_filterMap, Option.map_eq_some_iff, Prod.mk.injEq]
  constructor
  · rintro ⟨g, hg, ⟨httpApi⟩, he, b, rfl, rfl, rfl⟩
    exact ⟨hg, he⟩
  · rintro ⟨hf, he⟩
    exact ⟨f, hf, _, he, binding, rfl, rfl, rfl⟩

/-- What is declared for the resolver are the routed events, with the functions as targets. -/
theorem declaredPairs_declarations (config : ServiceConfig) :
    declaredPairs config.declarations = config.routedEvents.map fun routed => (routed.1.target, routed.2) := by
  simp only [declaredPairs, declarations, routedEvents, FunctionConfig.bindings, List.flatMap_map, List.map_flatMap,
    List.map_filterMap, Option.map_map, Function.comp_def]

/-! ### Blame -/

/-- The entries of the table are the routed events, in order, each with the function of its event as target. -/
theorem entries_of_compile {config : ServiceConfig} {api : CompiledApi} (h : config.compile.value = .ok api) :
    List.Forall₂ (fun routed entry => routed.2.key routed.1.name = .ok entry.key ∧ entry.target = routed.1.target)
      config.routedEvents api.routes.entries.toList := by
  obtain ⟨table, hr, rfl⟩ := compile_eq_ok_iff.mp h
  have hl := (resolve_eq_ok hr).entries
  rw [declaredPairs_declarations, List.map_map, ← List.forall₂_eq_eq_eq, List.forall₂_map_left_iff,
    List.forall₂_map_right_iff] at hl
  exact hl.imp fun _ _ he => declaredEntry_eq_ok_iff.mp he

/-- The first routed event that is rejected: all before it make a table, and that table rejects it. -/
theorem rejected_of_compile {config : ServiceConfig} {e : RouteError} (h : config.compile.value = .error e) :
    ∃ f binding earlier later table, config.routedEvents = earlier ++ (f, binding) :: later ∧
      (RouteTable.empty.bindAll (earlier.map fun routed => (routed.1.target, routed.2))).value = .ok table ∧
      table.bind f.target binding = .error e := by
  have hr := compile_eq_error_iff.mp h
  rw [resolve, declaredPairs_declarations] at hr
  obtain ⟨earlier', target, binding, later', table, hsplit, hv, hb⟩ := RouteTable.bindAll_eq_error hr
  obtain ⟨earlier, tail, hevents, rfl, htail⟩ := List.map_eq_append_iff.mp hsplit
  obtain ⟨⟨f, b⟩, later, rfl, hf, -⟩ := List.map_eq_cons_iff.mp htail
  obtain ⟨rfl, rfl⟩ := Prod.mk.inj hf
  exact ⟨f, b, earlier, later, table, hevents, hv, hb⟩

/-! ### Edits that touch no route -/

/-- An edit of a service that neither binds nor unbinds a route. -/
inductive Edit : ServiceConfig → ServiceConfig → Prop where
  /-- The service has another name. -/
  | rename (config : ServiceConfig) (service : String) : Edit config { config with service }
  /-- Some events of a function that bind nothing give way to others that bind nothing; there may be none of
      the ones or of the others. -/
  | events (config : ServiceConfig) (before after : List FunctionConfig) (f : FunctionConfig)
      (earlier old new later : List EventConfig) (hold : ∀ event ∈ old, event.httpApi = none)
      (hnew : ∀ event ∈ new, event.httpApi = none) :
    Edit { config with functions := before ++ { f with events := earlier ++ old ++ later } :: after }
      { config with functions := before ++ { f with events := earlier ++ new ++ later } :: after }
  /-- There is one more function, of which no event binds anything. -/
  | function (config : ServiceConfig) (before after : List FunctionConfig) (f : FunctionConfig)
      (h : ∀ event ∈ f.events, event.httpApi = none) :
    Edit { config with functions := before ++ after } { config with functions := before ++ f :: after }

/-- One edit keeps the bindings with their targets, and the CORS setting. -/
theorem Edit.keeps {config next : ServiceConfig} (h : Edit config next) :
    declaredPairs next.declarations = declaredPairs config.declarations ∧ next.cors = config.cors := by
  have silent : ∀ {events : List EventConfig}, (∀ event ∈ events, event.httpApi = none) →
      events.filterMap (·.httpApi) = [] := List.filterMap_eq_nil_iff.mpr
  cases h with
  | rename service => exact ⟨rfl, rfl⟩
  | events config before after f earlier old new later hold hnew =>
    refine ⟨?_, rfl⟩
    simp [declaredPairs, declarations, FunctionConfig.bindings, FunctionConfig.target, silent hold, silent hnew]
  | function config before after f h =>
    refine ⟨?_, rfl⟩
    simp [declaredPairs, declarations, FunctionConfig.bindings, silent h]

/-- Any number of such edits leaves the whole pass as it is. -/
theorem compile_of_edits {config next : ServiceConfig} (h : Relation.ReflTransGen Edit config next) :
    next.compile = config.compile := by
  induction h with
  | refl => rfl
  | tail _ edit ih =>
    obtain ⟨hpairs, hcors⟩ := edit.keeps
    rw [← ih, compile, compile, hcors]
    exact compile_congr _ hpairs

/-- In a valid service the entries of the compiled table are, in order, the events that bind a route, each with
    the name and the alias of the function that declares it. An error is that of the first rejected event, and
    names the function to which this event belongs and which alone has its name. Renaming the service, and
    editing events or adding functions that bind nothing, changes neither table nor policy nor error. -/
theorem compile_attributed {config : ServiceConfig} (valid : config.problems = []) :
    (∀ api, config.compile.value = .ok api →
      List.Forall₂ (fun (routed : FunctionConfig × RouteBinding) (entry : RouteEntry) =>
          routed.2.key routed.1.name = .ok entry.key ∧ entry.target.name = routed.1.name ∧
            entry.target.pin = routed.1.targetAlias)
        config.routedEvents api.routes.entries.toList) ∧
    (∀ e, config.compile.value = .error e →
      ∃ f binding earlier later table, config.functions.filter (·.name = e.target) = [f] ∧
        ⟨some binding⟩ ∈ f.events ∧ config.routedEvents = earlier ++ (f, binding) :: later ∧
        (RouteTable.empty.bindAll (earlier.map fun routed => (routed.1.target, routed.2))).value = .ok table ∧
        table.bind f.target binding = .error e) ∧
    ∀ next, Relation.ReflTransGen Edit config next → next.compile = config.compile := by
  refine ⟨fun api h => ?_, fun e h => ?_, fun next => compile_of_edits⟩
  · refine (entries_of_compile h).imp fun routed entry he => ⟨he.1, ?_, ?_⟩
    · rw [he.2, FunctionConfig.target]
    · rw [he.2, FunctionConfig.target]
  · obtain ⟨f, binding, earlier, later, table, hevents, hv, hb⟩ := rejected_of_compile h
    have hmem : (f, binding) ∈ config.routedEvents := by simp [hevents]
    obtain ⟨hf, hevent⟩ := mem_routedEvents.mp hmem
    have htarget : e.target = f.name := RouteTable.bind_error_target hb
    exact ⟨f, binding, earlier, later, table, htarget ▸ filter_name_eq valid hf, hevent, hevents, hv, hb⟩

/-- Two functions bind one route. The second is blamed, and a function without routes between them changes
    nothing. -/
theorem compile_attributed_of_duplicate :
    let users : FunctionConfig := ⟨"users", none, [⟨none⟩, ⟨some (.shorthand "GET /a")⟩]⟩
    let orders : FunctionConfig := ⟨"orders", some ⟨"live", none⟩, [⟨some (.structured (some "get") (some "/a"))⟩]⟩
    let config : ServiceConfig := ⟨"shop", ⟨none⟩, [users, orders]⟩
    let error : RouteError := .duplicateRoute "orders" (.route (.exact .get) "/a")
    config.problems = [] ∧ config.compile.value = .error error ∧
      (∃ f binding, config.functions.filter (·.name = error.target) = [f] ∧ ⟨some binding⟩ ∈ f.events) ∧
      (ServiceConfig.compile ⟨"shop", ⟨none⟩, [users, ⟨"idle", none, [⟨none⟩]⟩, orders]⟩).value = .error error := by
  intro users orders config error
  have valid : config.problems = [] := by decide
  have failed : config.compile.value = .error error := by
    refine compile_eq_error_iff.mpr (resolve_eq_error_iff.mpr ⟨1, rfl, fun i hi => ?_⟩)
    obtain rfl : i = 0 := by omega
    rfl
  obtain ⟨-, blamed, edited⟩ := compile_attributed valid
  refine ⟨valid, failed, ?_, ?_⟩
  · obtain ⟨f, binding, -, -, -, hf, hevent, -⟩ := blamed _ failed
    exact ⟨f, binding, hf, hevent⟩
  · have edit : Edit config ⟨"shop", ⟨none⟩, [users, ⟨"idle", none, [⟨none⟩]⟩, orders]⟩ :=
      .function config [users] [orders] ⟨"idle", none, [⟨none⟩]⟩ (by simp)
    rw [edited _ (.single edit), failed]

end ServiceConfig
end RouteCompiler
