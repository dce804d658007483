import RouteCompiler.Cors.Policy
import RouteCompiler.Routing.Resolver

/-!
# Compiling an API

The routes are resolved first; the CORS policy is then merged with the methods that they serve. Either
both succeed or nothing comes of the pass.
-/

namespace RouteCompiler

/-- A compiled API, ready for a renderer. -/
structure CompiledApi where
  routes : RouteTable
  cors : Option CorsPolicy

namespace CompiledApi

/-- Whether there is nothing to render. -/
def isEmpty (api : CompiledApi) : Bool := api.routes.isEmpty

/-- The target of the catch-all route. -/
def catchAll? (api : CompiledApi) : Option Target := api.routes.catchAll?

/-- Every route but the catch-all, in the order of declaration. -/
def endpoints (api : CompiledApi) : List RouteEntry :=
  api.routes.entries.toList.filter (!·.key.isCatchAll)

end CompiledApi

/-- Compiles declarations and a CORS setting. -/
def compile (declarations : List TargetRoutes) (cors : Option CorsSetting) :
    Logged (Except RouteError CompiledApi) :=
  let resolved := resolve declarations
  match resolved.value with
  | .error e => ⟨resolved.events, .error e⟩
  | .ok table =>
    let merged := CorsPolicy.merge cors table.boundMethods
    ⟨resolved.events ++ merged.events ++
        [.tableCompiled table.size table.hasCatchAll merged.value.isSome],
      .ok ⟨table, merged.value⟩⟩

/-- The log aside, compiling is resolving and then merging the policy with the methods of the table. -/
theorem compile_value (declarations : List TargetRoutes) (cors : Option CorsSetting) :
    (compile declarations cors).value =
      (resolve declarations).value.map fun table => ⟨table, (CorsPolicy.merge cors table.boundMethods).value⟩ := by
  rw [compile]
  cases (resolve declarations).value <;> rfl

theorem compile_eq_ok_iff {declarations : List TargetRoutes} {cors : Option CorsSetting} {api : CompiledApi} :
    (compile declarations cors).value = .ok api ↔ ∃ table, (resolve declarations).value = .ok table ∧
      api = ⟨table, (CorsPolicy.merge cors table.boundMethods).value⟩ := by
  rw [compile_value]
  cases (resolve declarations).value with
  | error e => simp [Except.map]
  | ok table => simp [Except.map, eq_comm]

theorem compile_eq_error_iff {declarations : List TargetRoutes} {cors : Option CorsSetting} {e : RouteError} :
    (compile declarations cors).value = .error e ↔ (resolve declarations).value = .error e := by
  rw [compile_value]
  cases (resolve declarations).value <;> simp [Except.map]

/-- A pass depends on the declared bindings with their targets, however they are grouped. -/
theorem compile_congr {declarations others : List TargetRoutes} (cors : Option CorsSetting)
    (h : declaredPairs others = declaredPairs declarations) : compile others cors = compile declarations cors := by
  rw [compile, compile, resolve, resolve, h]

end RouteCompiler
