import RouteCompiler.Compile.Event
import RouteCompiler.Cors.Setting
import RouteCompiler.Routing.MethodSet

/-!
# CORS policies

A policy has every field settled: what the user gave, else a default. Each field falls back on its own,
and a given field counts even when it is an empty list. The allowed methods fall back to the methods that
the routes serve, with `OPTIONS` for the preflight request.
-/

namespace RouteCompiler

/-- A settled CORS policy. -/
structure CorsPolicy where
  allowedOrigins : Text.TextSet
  allowedHeaders : Text.TextSet
  allowedMethods : Text.TextSet
  exposedResponseHeaders : Option Text.TextSet
  allowCredentials : Bool
  maxAge : Option UInt64
deriving DecidableEq

namespace CorsPolicy

/-- The origins that are allowed unless others are given. -/
def defaultOrigins : List String := ["*"]

/-- The request headers that are allowed unless others are given. -/
def defaultHeaders : List String :=
  ["Content-Type", "X-Amz-Date", "Authorization", "X-Api-Key", "X-Amz-Security-Token", "X-Amz-User-Agent"]

/-- The names of the bound methods and of `OPTIONS`. -/
def derivedMethods (bound : MethodSet) : List String :=
  Method.options.name :: bound.toList.map Method.name

/-- Whether the policy allows a method; names are compared as they are written. -/
def allowsMethod (policy : CorsPolicy) (method : String) : Bool := policy.allowedMethods.contains method

/-- The texts given for a field, or else its fallback. -/
def field (given : Option OneOrMany) (fallback : List String) : Text.TextSet :=
  .ofList (match given with
    | some values => values.toList
    | none => fallback)

/-- The policy of some overrides, for routes that serve the bound methods. -/
def ofOverrides (overrides : CorsOverrides) (bound : MethodSet) : CorsPolicy where
  allowedOrigins := field overrides.allowedOrigins defaultOrigins
  allowedHeaders := field overrides.allowedHeaders defaultHeaders
  allowedMethods := field overrides.allowedMethods (derivedMethods bound)
  exposedResponseHeaders := overrides.exposedResponseHeaders.map fun values => .ofList values.toList
  allowCredentials := overrides.allowCredentials == some true
  maxAge := overrides.maxAge

end CorsPolicy

/-- The overrides that a setting asks to apply, if it asks for CORS at all. -/
def CorsSetting.overrides? : Option CorsSetting → Option CorsOverrides
  | none => none
  | some (enabled false) => none
  | some (enabled true) => some .none
  | some (custom overrides) => some overrides

/-- The policy of a setting, for routes that serve the bound methods. That the allowed methods were
    derived from the routes is worth an event. -/
def CorsPolicy.merge (setting : Option CorsSetting) (bound : MethodSet) : Logged (Option CorsPolicy) :=
  match CorsSetting.overrides? setting with
  | none => .silent none
  | some overrides =>
    let policy := ofOverrides overrides bound
    ⟨if overrides.allowedMethods.isNone then [.methodsDerived policy.allowedMethods] else [], some policy⟩

end RouteCompiler
