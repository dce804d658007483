import RouteCompiler.Document.Value
import RouteCompiler.Service.Config

/-!
# What is written of services and routes

The values that stand for the parts of a service and for a compiled API, with their members in a fixed
order. A missing part is left out where that reads back as missing by the record's own rules; a binding's
fields and the CORS setting of a service are written as `null`.
-/

namespace RouteCompiler

open Document

def TargetAlias.toValue (a : TargetAlias) : Value :=
  .table (("name", .text a.name) :: Value.memberIfSome "logical_id" .text a.logicalId)

def Target.toValue (t : Target) : Value :=
  .table (("name", .text t.name) :: Value.memberIfSome "alias" TargetAlias.toValue t.pin)

def RouteBinding.toValue : RouteBinding → Value
  | shorthand route => .text route
  | structured method path =>
    .table [("method", Value.optionalText method), ("path", Value.optionalText path)]

def OneOrMany.toValue : OneOrMany → Value
  | one value => .text value
  | many values => Value.texts values

def CorsOverrides.toValue (o : CorsOverrides) : Value :=
  .table (
    Value.memberIfSome "allowed_origins" OneOrMany.toValue o.allowedOrigins ++
    Value.memberIfSome "allowed_headers" OneOrMany.toValue o.allowedHeaders ++
    Value.memberIfSome "allowed_methods" OneOrMany.toValue o.allowedMethods ++
    Value.memberIfSome "allow_credentials" .bool o.allowCredentials ++
    Value.memberIfSome "exposed_response_headers" OneOrMany.toValue o.exposedResponseHeaders ++
    Value.memberIfSome "max_age" (fun n => .integer n.toNat) o.maxAge)

def CorsSetting.toValue : CorsSetting → Value
  | enabled on => .bool on
  | custom overrides => overrides.toValue

def HttpApiConfig.toValue (c : HttpApiConfig) : Value :=
  .table [("cors", match c.cors with
    | some setting => setting.toValue
    | none => .null)]

def EventConfig.toValue (e : EventConfig) : Value :=
  .table (Value.memberIfSome "http_api" RouteBinding.toValue e.httpApi)

def FunctionConfig.toValue (f : FunctionConfig) : Value :=
  .table (("name", .text f.name) :: Value.memberIfSome "target_alias" TargetAlias.toValue f.targetAlias ++
    [("events", .list (f.events.map EventConfig.toValue))])

def ServiceConfig.toValue (c : ServiceConfig) : Value :=
  .table [("service", .text c.service), ("http_api", c.httpApi.toValue),
    ("functions", .list (c.functions.map FunctionConfig.toValue))]

/-- A table maps the text of each key to its target. -/
def RouteTable.toValue (table : RouteTable) : Value :=
  .table (table.entries.toList.map fun entry => (entry.key.text, entry.target.toValue))

/-- A policy is written for a renderer, with names in the renderer's spelling. -/
def CorsPolicy.toValue (p : CorsPolicy) : Value :=
  .table ([("allowedOrigins", Value.texts p.allowedOrigins.values),
      ("allowedHeaders", Value.texts p.allowedHeaders.values),
      ("allowedMethods", Value.texts p.allowedMethods.values)] ++
    Value.memberIfSome "exposedResponseHeaders" (fun set => Value.texts set.values) p.exposedResponseHeaders ++
    (if p.allowCredentials then [("allowCredentials", .bool true)] else []) ++
    Value.memberIfSome "maxAge" (fun n => .integer n.toNat) p.maxAge)

def CompiledApi.toValue (api : CompiledApi) : Value :=
  .table (("routes", api.routes.toValue) :: Value.memberIfSome "cors" CorsPolicy.toValue api.cors)

end RouteCompiler
