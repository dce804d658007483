import RouteCompiler.Routing.Binding

/-!
# Targets

A target is the backend that a route resolves to: a name, possibly pinned to an alias such as a
published version.
-/

namespace RouteCompiler

/-- The alias that a target is pinned to. -/
structure TargetAlias where
  name : String
  /-- The resource that a renderer must depend on, if any. -/
  logicalId : Option String
deriving DecidableEq, Repr

/-- A named backend. -/
structure Target where
  name : String
  pin : Option TargetAlias
deriving DecidableEq, Repr

/-- A target together with the bindings declared for it. -/
structure TargetRoutes where
  target : Target
  bindings : List RouteBinding
deriving DecidableEq, Repr

/-- The declared bindings of all targets, each with its target, in the order of declaration. -/
def declaredPairs (declarations : List TargetRoutes) : List (Target × RouteBinding) :=
  declarations.flatMap fun declared => declared.bindings.map (declared.target, ·)

end RouteCompiler
