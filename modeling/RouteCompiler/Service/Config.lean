import RouteCompiler.Compile.Api

/-!
# Service descriptions

A service has functions, and a function has events. An HTTP API event binds a route to its function;
other events are of no concern here. The CORS setting is shared by all routes.
-/

namespace RouteCompiler

/-- The settings shared by all routes. -/
structure HttpApiConfig where
  cors : Option CorsSetting
deriving DecidableEq, Repr

/-- An event of a function; only one with an HTTP API binding makes a route. -/
structure EventConfig where
  httpApi : Option RouteBinding
deriving DecidableEq, Repr

/-- A function, which is the target of the routes that its events bind. -/
structure FunctionConfig where
  name : String
  /-- The alias that routes call in place of the function itself. -/
  targetAlias : Option TargetAlias
  events : List EventConfig
deriving DecidableEq, Repr

/-- A whole service. -/
structure ServiceConfig where
  service : String
  httpApi : HttpApiConfig
  functions : List FunctionConfig
deriving DecidableEq, Repr

namespace FunctionConfig

/-- The target that the function stands for. -/
def target (f : FunctionConfig) : Target := ⟨f.name, f.targetAlias⟩

/-- The bindings of the function's events, in order. -/
def bindings (f : FunctionConfig) : List RouteBinding := f.events.filterMap (·.httpApi)

end FunctionConfig

namespace ServiceConfig

/-- Every function as a target with its bindings, in the order of declaration. -/
def declarations (config : ServiceConfig) : List TargetRoutes :=
  config.functions.map fun f => ⟨f.target, f.bindings⟩

def cors (config : ServiceConfig) : Option CorsSetting := config.httpApi.cors

/-- Compiles the routes of the service. -/
def compile (config : ServiceConfig) : Logged (Except RouteError CompiledApi) :=
  RouteCompiler.compile config.declarations config.cors

end ServiceConfig
end RouteCompiler
