import RouteCompiler.Compile.Event
import RouteCompiler.Routing.Error
import RouteCompiler.Routing.Table

/-!
# Resolving bindings

Each binding, on its own, denotes a route key or is ill-formed. A key can then stand beside the routes
bound so far unless it is bound already, or unless `ANY` and an explicit method would share its path. The
first binding that is ill-formed or in conflict ends the pass.
-/

namespace RouteCompiler

/-- Whether the method text stands for every method: `*`, or `ANY` in any case. -/
def meansAny (method : String) : Bool := Text.upper method == "*" || Text.upper method == "ANY"

/-- The key that a binding of the named target denotes, whatever else is bound. -/
def RouteBinding.key (binding : RouteBinding) (target : String) : Except RouteError RouteKey :=
  match binding.normalize with
  | none => .error (.malformedRoute target binding.display)
  | some ⟨_, none⟩ => .error (.missingPath target binding.display)
  | some ⟨method, some path⟩ =>
    if path = catchAllText then
      match method with
      | none => .ok .catchAll
      | some m => if m = catchAllText then .ok .catchAll else .error (.catchAllMethod target m)
    else
      match method with
      | none => .error (.missingMethod target path)
      | some m =>
        if meansAny m then .ok (.route .any path)
        else
          match Method.parse m with
          | .ok exact => .ok (.route (.exact exact) path)
          | .error unknown => .error (.unsupportedMethod target unknown.name path)

namespace RouteTable

/-- Whether the key and some route of the table would put `ANY` and an explicit method on one path. -/
def shadows (table : RouteTable) : RouteKey → Bool
  | .catchAll => false
  | .route .any path => Method.all.any fun m => table.contains (.route (.exact m) path)
  | .route (.exact _) path => table.contains (.route .any path)

/-- Adds the route of one binding, unless the binding is ill-formed or in conflict. -/
def bind (table : RouteTable) (target : Target) (binding : RouteBinding) :
    Except RouteError (RouteKey × RouteTable) :=
  match binding.key target.name with
  | .error e => .error e
  | .ok key =>
    if table.shadows key then .error (.shadowedRoute target.name key key.path)
    else if table.contains key then .error (.duplicateRoute target.name key)
    else .ok (key, table.insert key target)

/-- Binds in order, up to the first binding that is rejected. -/
def bindAll (table : RouteTable) : List (Target × RouteBinding) → Logged (Except RouteError RouteTable)
  | [] => .silent (.ok table)
  | (target, binding) :: rest =>
    match table.bind target binding with
    | .error e => .silent (.error e)
    | .ok (key, next) =>
      let later := next.bindAll rest
      ⟨.routeBound key target.name :: later.events, later.value⟩

end RouteTable

/-- Resolves every binding of every target, in the order of declaration. -/
def resolve (declarations : List TargetRoutes) : Logged (Except RouteError RouteTable) :=
  RouteTable.empty.bindAll (declaredPairs declarations)

end RouteCompiler
