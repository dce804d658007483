/-!
# CORS settings

What a service says about CORS: nothing, on or off, or overrides for some fields of the policy.
-/

namespace RouteCompiler

/-- A single text or a list of texts. -/
inductive OneOrMany where
  | one (value : String)
  | many (values : List String)
deriving DecidableEq, Repr

/-- The texts, in whichever form they were given. -/
def OneOrMany.toList : OneOrMany → List String
  | one value => [value]
  | many values => values

/-- Overrides of single fields; what is absent falls back to the defaults. -/
structure CorsOverrides where
  allowedOrigins : Option OneOrMany
  allowedHeaders : Option OneOrMany
  /-- Explicit methods, in place of those that the routes serve. -/
  allowedMethods : Option OneOrMany
  allowCredentials : Option Bool
  exposedResponseHeaders : Option OneOrMany
  /-- For how many seconds a preflight answer may be kept. -/
  maxAge : Option UInt64
deriving DecidableEq, Repr

/-- The overrides that override nothing. -/
def CorsOverrides.none : CorsOverrides := ⟨.none, .none, .none, .none, .none, .none⟩

/-- A CORS setting as written by the user. -/
inductive CorsSetting where
  /-- `true` asks for the built-in policy, `false` for none. -/
  | enabled (on : Bool)
  | custom (overrides : CorsOverrides)
deriving DecidableEq, Repr

end RouteCompiler
