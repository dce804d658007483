import RouteCompiler.Service.Config
import RouteCompiler.Text.Blank

/-!
# Validating a service

Validation reports every problem of a service description, not just the first: the problems of each
function in turn, then those of the CORS overrides. Names count as missing when they are blank; two names
are the same only when they are equal to the letter.
-/

namespace RouteCompiler

/-- A field of the CORS overrides that holds texts. -/
inductive CorsField where
  | allowedOrigins | allowedHeaders | allowedMethods | exposedResponseHeaders
deriving DecidableEq, Repr

namespace CorsField

/-- The fields in the order in which they are checked. -/
def all : List CorsField := [allowedOrigins, allowedHeaders, allowedMethods, exposedResponseHeaders]

def name : CorsField → String
  | allowedOrigins => "allowed_origins"
  | allowedHeaders => "allowed_headers"
  | allowedMethods => "allowed_methods"
  | exposedResponseHeaders => "exposed_response_headers"

/-- The value of the field. -/
def value (cors : CorsOverrides) : CorsField → Option OneOrMany
  | allowedOrigins => cors.allowedOrigins
  | allowedHeaders => cors.allowedHeaders
  | allowedMethods => cors.allowedMethods
  | exposedResponseHeaders => cors.exposedResponseHeaders

end CorsField

/-- A problem of a service description. -/
inductive ServiceProblem where
  | emptyFunctionName (index : Nat)
  | duplicateFunction (name : String)
  | emptyAliasName (function : String)
  | emptyCorsValue (field : CorsField)
deriving DecidableEq, Repr

def ServiceProblem.message : ServiceProblem → String
  | emptyFunctionName index => "function #" ++ toString index ++ " has an empty name"
  | duplicateFunction name => "function " ++ name ++ " is declared more than once"
  | emptyAliasName function => "function " ++ function ++ " has a target alias with an empty name"
  | emptyCorsValue field => "CORS field " ++ field.name ++ " contains an empty value"

namespace ServiceConfig

/-- The problem of a function's name, given the names seen before it. -/
def nameProblem (seen : List String) (index : Nat) (f : FunctionConfig) : List ServiceProblem :=
  if Text.isBlank f.name then [.emptyFunctionName index]
  else if seen.contains f.name then [.duplicateFunction f.name]
  else []

/-- The problem of a function's alias. -/
def aliasProblem (f : FunctionConfig) : List ServiceProblem :=
  match f.targetAlias with
  | some a => if Text.isBlank a.name then [.emptyAliasName f.name] else []
  | none => []

/-- The problems of the functions from `index` on, given the names seen before them. A blank name is not
    a name that another function could repeat. -/
def functionProblems (seen : List String) (index : Nat) : List FunctionConfig → List ServiceProblem
  | [] => []
  | f :: rest =>
    nameProblem seen index f ++ aliasProblem f ++
      functionProblems (if Text.isBlank f.name then seen else f.name :: seen) (index + 1) rest

/-- The fields of the overrides that hold a blank text. -/
def corsProblems : Option CorsSetting → List ServiceProblem
  | some (.custom cors) =>
    (CorsField.all.filter fun field =>
      (field.value cors).any fun values => values.toList.any Text.isBlank).map .emptyCorsValue
  | _ => []

/-- Every problem of the service, in order. -/
def problems (config : ServiceConfig) : List ServiceProblem :=
  functionProblems [] 0 config.functions ++ corsProblems config.cors

end ServiceConfig
end RouteCompiler
