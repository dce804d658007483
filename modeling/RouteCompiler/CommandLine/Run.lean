import RouteCompiler.CommandLine.Arguments
import RouteCompiler.CommandLine.Filter
import RouteCompiler.Json.Write
import RouteCompiler.Service.Load
import RouteCompiler.Service.Write

/-!
# Running a command

A command takes the content of its file and comes out with what it prints and with an exit code. Success
is written to the standard output and failure, as one message, to the standard error. The log takes the
events through the filter that the log level makes; what is wrong with that filter is noticed first.
-/

namespace RouteCompiler.CommandLine

/-- What a command comes out with. -/
structure Outcome where
  /-- The exit code, or nothing when the program goes on watching the file. -/
  code : Option Nat
  stdout : String
  stderr : String
  events : List Event

/-- Why a command fails. -/
inductive Failure where
  | load (error : LoadError)
  | route (error : RouteError)

namespace Failure

def message : Failure → String
  | load error => error.message
  | route error => "[" ++ error.kind.name ++ "] " ++ error.message

/-- The outcome of a command that fails. -/
def outcome (failure : Failure) (events : List Event) : Outcome :=
  ⟨some 1, "", "Error: " ++ failure.message ++ "\n", events⟩

end Failure

/-- The number of routes, and whether there are a catch-all and a CORS policy. -/
def summary (api : CompiledApi) : String :=
  toString api.routes.size ++ " route(s)" ++
    (if api.catchAll?.isSome then ", catch-all" else "") ++ (if api.cors.isSome then ", CORS enabled" else "")

/-- Loads a service and compiles its routes. -/
def loadAndCompile (file : String) (content : Except FileError ByteArray) :
    Logged (Except Failure CompiledApi) :=
  match ServiceConfig.load file content with
  | .error e => .silent (.error (.load e))
  | .ok config =>
    let compiled := config.compile
    match compiled.value with
    | .error e => ⟨compiled.events, .error (.route e)⟩
    | .ok api => ⟨compiled.events, .ok api⟩

/-- Prints what `render` makes of the compiled API, on a line. -/
def printCompiled (render : CompiledApi → String) (file : String) (content : Except FileError ByteArray) :
    Outcome :=
  let compiled := loadAndCompile file content
  match compiled.value with
  | .error failure => failure.outcome compiled.events
  | .ok api => ⟨some 0, render api ++ "\n", "", compiled.events⟩

/-- Compiles a service to JSON. -/
def compile (pretty : Bool) : String → Except FileError ByteArray → Outcome :=
  printCompiled fun api => if pretty then Json.writePretty api.toValue else Json.write api.toValue

/-- Compiles a service and prints a summary. -/
def check (file : String) : Except FileError ByteArray → Outcome :=
  printCompiled (fun api => file ++ ": " ++ summary api) file

/-- Reports on a watched file: the summary, or what is wrong with it. -/
def report (file : String) (content : Except FileError ByteArray) : Outcome :=
  let compiled := loadAndCompile file content
  match compiled.value with
  | .error failure =>
    ⟨none, "", file ++ ": " ++ failure.message ++ "\n",
      compiled.events ++ [.configurationRejected file failure.message]⟩
  | .ok api =>
    ⟨none, file ++ ": " ++ summary api ++ "\n", "",
      compiled.events ++ [.configurationAccepted file (summary api)]⟩

/-- Reports on a file and starts to watch it, which fails if there is no such file. -/
def watch (file : String) (content : Except FileError ByteArray) : Outcome :=
  let first := report file content
  match content with
  | .error .notFound =>
    { first with
      code := some 1
      stderr := first.stderr ++ "Error: " ++ FileError.notFound.message ++ " about [" ++ Text.quoted file ++ "]\n" }
  | _ => first

/-- Runs a command; `read` gives the content of a file. -/
def Command.run (read : String → Except FileError ByteArray) : Command → Outcome
  | .compile file pretty => CommandLine.compile pretty file (read file)
  | .check file => CommandLine.check file (read file)
  | .watch file => CommandLine.watch file (read file)

/-- The outcome with the events that a filter shows. -/
def Outcome.filtered (filter : LogFilter) (outcome : Outcome) : Outcome :=
  { outcome with events := outcome.events.filter filter.shows }

/-- What is printed with the log on: the notices on the filter, the log, and what the command prints. -/
structure Transcript where
  notices : String
  outcome : Outcome

/-- The standard error without the lines of the log. -/
def Transcript.errorText (transcript : Transcript) : String := transcript.notices ++ transcript.outcome.stderr

namespace Invocation

/-- The text of the filter for the log. -/
def filterText (invocation : Invocation) : String := CommandLine.filterText invocation.logLevel

/-- The filter for the log. -/
def filter (invocation : Invocation) : LogFilter := .ofText invocation.filterText

/-- Runs the command with the log on. -/
def run (read : String → Except FileError ByteArray) (invocation : Invocation) : Transcript :=
  ⟨LogFilter.notices invocation.filterText, (invocation.command.run read).filtered invocation.filter⟩

end Invocation

end RouteCompiler.CommandLine
