import RouteCompiler.Json.Position
import RouteCompiler.Service.Read
import RouteCompiler.Service.Validation
import RouteCompiler.Toml.Read

/-!
# Loading a service

A service description is a file in JSON or TOML; the name of the file says which. It is read, and then
validated: a service that has a problem is not loaded.
-/

namespace RouteCompiler

/-- The notation of a service description. -/
inductive Format where
  | json | toml
deriving DecidableEq, Repr

namespace Format

/-- The name of the file that a path leads to: its last part that is neither empty nor `.`. There is none
    when that part is `..`. -/
def fileName? (path : String) : Option (List Char) :=
  match ((path.toList.splitOn '/').filter fun part => part ≠ [] ∧ part ≠ ['.']).getLast? with
  | some name => if name = ['.', '.'] then none else some name
  | none => none

/-- What stands behind the last point of a file name; a point at its start does not count. -/
def extension? (name : List Char) : Option (List Char) :=
  if (name.drop 1).contains '.' then some (name.reverse.takeWhile (· != '.')).reverse else none

/-- Files with the extension `json`, in any case, are JSON, and all others TOML. -/
def ofPath (path : String) : Format :=
  match (fileName? path).bind extension? with
  | some ext => if ext.map Char.toLower = "json".toList then json else toml
  | none => toml

end Format

/-- Why a file cannot be read. -/
inductive FileError where
  | notFound
  | notUtf8
  /-- Any other reason the system gives. -/
  | refused (reason : String)
deriving DecidableEq, Repr

def FileError.message : FileError → String
  | notFound => "No such file or directory (os error 2)"
  | notUtf8 => "stream did not contain valid UTF-8"
  | refused reason => reason

/-- Why a service is not loaded. -/
inductive LoadError where
  | file (error : FileError)
  | json (text : String) (problem : Document.Problem Json.Fault)
  | toml (error : Toml.ReadError)
  | invalid (problems : List ServiceProblem)

namespace LoadError

def message : LoadError → String
  | file error => "IO error: " ++ error.message
  | json text problem =>
    let position := Json.position? (ServiceConfig.read Json.surplus) text problem
    "Parse error: " ++ Json.message problem ++ (position.map Json.Position.message).getD ""
  | toml error => "Parse error: " ++ error.message
  | invalid problems => "Validation failed: " ++ ", ".intercalate (problems.map (·.message))

/-- Whether there is an error of another part of the program behind this one. -/
def hasSource : LoadError → Bool
  | invalid _ => false
  | _ => true

end LoadError

namespace ServiceConfig

/-- Reads a service description, without validation. -/
def decode (text : String) : Format → Except LoadError ServiceConfig
  | .json =>
    match Json.read (ServiceConfig.read Json.surplus) text with
    | .ok config => .ok config
    | .error e => .error (.json text e)
  | .toml =>
    match Toml.read (ServiceConfig.read Toml.surplus) text with
    | .ok config => .ok config
    | .error e => .error (.toml e)

/-- The service, if it has no problem. -/
def validated (config : ServiceConfig) : Except LoadError ServiceConfig :=
  match config.problems with
  | [] => .ok config
  | p :: ps => .error (.invalid (p :: ps))

/-- Reads and validates a service description. -/
def parse (text : String) (format : Format) : Except LoadError ServiceConfig :=
  match decode text format with
  | .ok config => config.validated
  | .error e => .error e

/-- Loads the service description in a file of which the bytes have been asked for. -/
def load (path : String) (content : Except FileError ByteArray) : Except LoadError ServiceConfig :=
  match content with
  | .error e => .error (.file e)
  | .ok bytes =>
    match String.fromUTF8? bytes with
    | some text => parse text (Format.ofPath path)
    | none => .error (.file .notUtf8)

end ServiceConfig
end RouteCompiler
