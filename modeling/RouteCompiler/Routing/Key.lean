import RouteCompiler.Routing.Binding
import RouteCompiler.Routing.Method

/-!
# Route keys

The canonical identity of a route: the catch-all, or a method and a path.
-/

namespace RouteCompiler

/-- The identity of a route. -/
inductive RouteKey where
  /-- Matches every request that no other route claims. -/
  | catchAll
  | route (method : RouteMethod) (path : String)
deriving DecidableEq, Repr, Hashable

namespace RouteKey

/-- The method of the key; the catch-all has `ANY`. -/
def method : RouteKey → RouteMethod
  | catchAll => .any
  | route m _ => m

def path : RouteKey → String
  | catchAll => catchAllText
  | route _ p => p

def isCatchAll : RouteKey → Bool
  | catchAll => true
  | route _ _ => false

/-- The key as one text: `"*"`, or method and path with a space between. -/
def text : RouteKey → String
  | catchAll => catchAllText
  | route m p => m.name ++ " " ++ p

end RouteKey
end RouteCompiler
