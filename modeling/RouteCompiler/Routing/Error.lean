import RouteCompiler.Routing.Key

/-!
# Why a binding is rejected

Every cause names the target whose binding was rejected. Two causes, a repeated key and `ANY` beside an
explicit method on one path, are reported under the one kind `DuplicateRoute`.
-/

namespace RouteCompiler

/-- The stable classification of rejected bindings. -/
inductive ErrorKind where
  | malformedRouteSyntax | missingPath | missingMethod | invalidCatchAllMethod | unsupportedMethod
  | duplicateRoute
deriving DecidableEq, Repr

def ErrorKind.name : ErrorKind → String
  | malformedRouteSyntax => "MalformedRouteSyntax"
  | missingPath => "MissingPath"
  | missingMethod => "MissingMethod"
  | invalidCatchAllMethod => "InvalidCatchAllMethod"
  | unsupportedMethod => "UnsupportedMethod"
  | duplicateRoute => "DuplicateRoute"

/-- Why a binding is rejected. -/
inductive RouteError where
  /-- A shorthand is neither `"*"` nor `"<METHOD> <path>"`; `route` quotes the binding. -/
  | malformedRoute (target route : String)
  /-- There is no path; `binding` quotes the binding. -/
  | missingPath (target binding : String)
  | missingMethod (target path : String)
  /-- The catch-all path takes no method other than `*`. -/
  | catchAllMethod (target method : String)
  | unsupportedMethod (target method path : String)
  /-- The key is bound already. -/
  | duplicateRoute (target : String) (key : RouteKey)
  /-- `ANY` and an explicit method would share the path. -/
  | shadowedRoute (target : String) (key : RouteKey) (path : String)
deriving DecidableEq, Repr

namespace RouteError

def kind : RouteError → ErrorKind
  | malformedRoute .. => .malformedRouteSyntax
  | missingPath .. => .missingPath
  | missingMethod .. => .missingMethod
  | catchAllMethod .. => .invalidCatchAllMethod
  | unsupportedMethod .. => .unsupportedMethod
  | duplicateRoute .. => .duplicateRoute
  | shadowedRoute .. => .duplicateRoute

/-- The name of the target whose binding was rejected. -/
def target : RouteError → String
  | malformedRoute t _ => t
  | missingPath t _ => t
  | missingMethod t _ => t
  | catchAllMethod t _ => t
  | unsupportedMethod t _ _ => t
  | duplicateRoute t _ => t
  | shadowedRoute t _ _ => t

def message : RouteError → String
  | malformedRoute target route =>
    "invalid \"<method> <path>\" route " ++ route ++ " in target " ++ target
  | missingPath target binding => "missing \"path\" in route " ++ binding ++ " of target " ++ target
  | missingMethod target path =>
    "missing \"method\" for path " ++ Text.quoted path ++ " in target " ++ target
  | catchAllMethod target method =>
    "method " ++ Text.quoted method ++ " cannot be combined with catch-all path \"*\" in target " ++ target
  | unsupportedMethod target method path =>
    "unsupported method " ++ Text.quoted method ++ " for path " ++ Text.quoted path ++ " in target " ++ target
  | duplicateRoute target key => "duplicate route '" ++ key.text ++ "' in target " ++ target
  | shadowedRoute target key path =>
    "duplicate method for " ++ Text.quoted path ++ " path: '" ++ key.text ++
      "' overlaps an existing route, in target " ++ target

end RouteError
end RouteCompiler
