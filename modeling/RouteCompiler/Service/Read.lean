import RouteCompiler.Document.Record
import RouteCompiler.Service.Config

/-!
# Reading a service from a document

Each part of a service description is a record, except for the three values that may have several forms:
a binding, a CORS setting, and a text or list of texts. Field names have two spellings, `http_api` and
`httpApi`. In a record list, `surplus` says what becomes of values behind the last field.
-/

namespace RouteCompiler

open Document

variable {ε : Type}

/-! ### Values of several forms -/

namespace OneOrMany

def read : Node ε → Reading ε OneOrMany :=
  Node.readChoice "OneOrMany"
    [fun node => node.readText.map one, fun node => (node.readList Node.readText).map many]

end OneOrMany

namespace RouteBinding

inductive Field where
  | method | path
deriving DecidableEq

def format : RecordFormat ε Field fun _ => Option String where
  title := "struct RouteBinding"
  order := [.method, .path]
  name
    | .method => "method"
    | .path => "path"
  otherNames _ := []
  read _ := Node.readOption Node.readText

def ofDraft (draft : Draft fun _ : Field => Option String) : Except Field RouteBinding :=
  .ok (.structured (draft .method).join (draft .path).join)

/-- The structured form of a binding, which is a table only. -/
def readStructured : Node ε → Reading ε RouteBinding
  | .table members => format.readTable ofDraft members
  | node => .error (node.refuse "struct RouteBinding")

def read : Node ε → Reading ε RouteBinding :=
  Node.readChoice "RouteBinding" [fun node => node.readText.map shorthand, readStructured]

end RouteBinding

/-! ### CORS -/

namespace CorsOverrides

inductive Field where
  | allowedOrigins | allowedHeaders | allowedMethods | allowCredentials | exposedResponseHeaders | maxAge
deriving DecidableEq

abbrev Content : Field → Type
  | .allowedOrigins => Option OneOrMany
  | .allowedHeaders => Option OneOrMany
  | .allowedMethods => Option OneOrMany
  | .allowCredentials => Option Bool
  | .exposedResponseHeaders => Option OneOrMany
  | .maxAge => Option UInt64

def format : RecordFormat ε Field Content where
  title := "struct CorsOverrides"
  order := [.allowedOrigins, .allowedHeaders, .allowedMethods, .allowCredentials, .exposedResponseHeaders,
    .maxAge]
  name
    | .allowedOrigins => "allowed_origins"
    | .allowedHeaders => "allowed_headers"
    | .allowedMethods => "allowed_methods"
    | .allowCredentials => "allow_credentials"
    | .exposedResponseHeaders => "exposed_response_headers"
    | .maxAge => "max_age"
  otherNames
    | .allowedOrigins => ["allowedOrigins"]
    | .allowedHeaders => ["allowedHeaders"]
    | .allowedMethods => ["allowedMethods"]
    | .allowCredentials => ["allowCredentials"]
    | .exposedResponseHeaders => ["exposedResponseHeaders"]
    | .maxAge => ["maxAge"]
  read
    | .allowedOrigins => Node.readOption OneOrMany.read
    | .allowedHeaders => Node.readOption OneOrMany.read
    | .allowedMethods => Node.readOption OneOrMany.read
    | .allowCredentials => Node.readOption Node.readBool
    | .exposedResponseHeaders => Node.readOption OneOrMany.read
    | .maxAge => Node.readOption Node.readUInt64

def ofDraft (draft : Draft Content) : Except Field CorsOverrides :=
  .ok {
    allowedOrigins := (draft .allowedOrigins).join
    allowedHeaders := (draft .allowedHeaders).join
    allowedMethods := (draft .allowedMethods).join
    allowCredentials := (draft .allowCredentials).join
    exposedResponseHeaders := (draft .exposedResponseHeaders).join
    maxAge := (draft .maxAge).join }

def read (surplus : Option (Problem ε)) : Node ε → Reading ε CorsOverrides :=
  format.readRecord ofDraft surplus

end CorsOverrides

namespace CorsSetting

/-- Overrides as a setting: here a list must not go on after the last field. -/
def readCustom : Node ε → Reading ε CorsSetting := fun node =>
  (CorsOverrides.read (some (node.refuse "struct CorsOverrides")) node).map custom

def read : Node ε → Reading ε CorsSetting :=
  Node.readChoice "CorsSetting" [fun node => node.readBool.map enabled, readCustom]

end CorsSetting

namespace HttpApiConfig

inductive Field where
  | cors
deriving DecidableEq

def format : RecordFormat ε Field fun _ => Option CorsSetting where
  title := "struct HttpApiConfig"
  order := [.cors]
  name _ := "cors"
  otherNames _ := []
  read _ := Node.readOption CorsSetting.read

def ofDraft (draft : Draft fun _ : Field => Option CorsSetting) : Except Field HttpApiConfig :=
  .ok ⟨(draft .cors).join⟩

def read (surplus : Option (Problem ε)) : Node ε → Reading ε HttpApiConfig :=
  format.readRecord ofDraft surplus

end HttpApiConfig

/-! ### Functions and services -/

namespace TargetAlias

inductive Field where
  | name | logicalId
deriving DecidableEq

abbrev Content : Field → Type
  | .name => String
  | .logicalId => Option String

def format : RecordFormat ε Field Content where
  title := "struct TargetAlias"
  order := [.name, .logicalId]
  name
    | .name => "name"
    | .logicalId => "logical_id"
  otherNames
    | .name => []
    | .logicalId => ["logicalId"]
  read
    | .name => Node.readText
    | .logicalId => Node.readOption Node.readText

def ofDraft (draft : Draft Content) : Except Field TargetAlias :=
  match draft .name with
  | some name => .ok ⟨name, (draft .logicalId).join⟩
  | none => .error .name

def read (surplus : Option (Problem ε)) : Node ε → Reading ε TargetAlias :=
  format.readRecord ofDraft surplus

end TargetAlias

namespace Target

inductive Field where
  | name | pin
deriving DecidableEq

abbrev Content : Field → Type
  | .name => String
  | .pin => Option TargetAlias

def format (surplus : Option (Problem ε)) : RecordFormat ε Field Content where
  title := "struct Target"
  order := [.name, .pin]
  name
    | .name => "name"
    | .pin => "alias"
  otherNames _ := []
  read
    | .name => Node.readText
    | .pin => Node.readOption (TargetAlias.read surplus)

def ofDraft (draft : Draft Content) : Except Field Target :=
  match draft .name with
  | some name => .ok ⟨name, (draft .pin).join⟩
  | none => .error .name

def read (surplus : Option (Problem ε)) : Node ε → Reading ε Target :=
  (format surplus).readRecord ofDraft surplus

end Target

namespace EventConfig

inductive Field where
  | httpApi
deriving DecidableEq

def format : RecordFormat ε Field fun _ => Option RouteBinding where
  title := "struct EventConfig"
  order := [.httpApi]
  name _ := "http_api"
  otherNames _ := ["httpApi"]
  read _ := Node.readOption RouteBinding.read

def ofDraft (draft : Draft fun _ : Field => Option RouteBinding) : Except Field EventConfig :=
  .ok ⟨(draft .httpApi).join⟩

def read (surplus : Option (Problem ε)) : Node ε → Reading ε EventConfig :=
  format.readRecord ofDraft surplus

end EventConfig

namespace FunctionConfig

inductive Field where
  | name | targetAlias | events
deriving DecidableEq

abbrev Content : Field → Type
  | .name => String
  | .targetAlias => Option TargetAlias
  | .events => List EventConfig

def format (surplus : Option (Problem ε)) : RecordFormat ε Field Content where
  title := "struct FunctionConfig"
  order := [.name, .targetAlias, .events]
  name
    | .name => "name"
    | .targetAlias => "target_alias"
    | .events => "events"
  otherNames
    | .targetAlias => ["targetAlias"]
    | _ => []
  read
    | .name => Node.readText
    | .targetAlias => Node.readOption (TargetAlias.read surplus)
    | .events => Node.readList (EventConfig.read surplus)

def ofDraft (draft : Draft Content) : Except Field FunctionConfig :=
  match draft .name with
  | some name => .ok ⟨name, (draft .targetAlias).join, (draft .events).getD []⟩
  | none => .error .name

def read (surplus : Option (Problem ε)) : Node ε → Reading ε FunctionConfig :=
  (format surplus).readRecord ofDraft surplus

end FunctionConfig

namespace ServiceConfig

inductive Field where
  | service | httpApi | functions
deriving DecidableEq

abbrev Content : Field → Type
  | .service => String
  | .httpApi => HttpApiConfig
  | .functions => List FunctionConfig

def format (surplus : Option (Problem ε)) : RecordFormat ε Field Content where
  title := "struct ServiceConfig"
  order := [.service, .httpApi, .functions]
  name
    | .service => "service"
    | .httpApi => "http_api"
    | .functions => "functions"
  otherNames
    | .httpApi => ["httpApi"]
    | _ => []
  read
    | .service => Node.readText
    | .httpApi => HttpApiConfig.read surplus
    | .functions => Node.readList (FunctionConfig.read surplus)

def ofDraft (draft : Draft Content) : Except Field ServiceConfig :=
  .ok ⟨(draft .service).getD "", (draft .httpApi).getD ⟨none⟩, (draft .functions).getD []⟩

def read (surplus : Option (Problem ε)) : Node ε → Reading ε ServiceConfig :=
  (format surplus).readRecord ofDraft surplus

end ServiceConfig
end RouteCompiler
