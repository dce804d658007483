import RouteCompiler.Compile.Event
import RouteCompiler.Document.Value
import RouteCompiler.Text.Quoted

/-!
# The log

Each event has a level, the part of the program that it comes from, a message and some fields.
-/

namespace RouteCompiler.CommandLine

/-- The levels, from the gravest on. -/
inductive Level where
  | error | warn | info | debug | trace
deriving DecidableEq, Repr

namespace Level

def rank : Level → Nat
  | error => 1
  | warn => 2
  | info => 3
  | debug => 4
  | trace => 5

def name : Level → String
  | error => "ERROR"
  | warn => "WARN"
  | info => "INFO"
  | debug => "DEBUG"
  | trace => "TRACE"

/-- All levels, in the order of their ranks. -/
def all : List Level := [error, warn, info, debug, trace]

end Level

/-- The name under which the program's own events are filtered. -/
def programName : String := "http_api_routes"

end RouteCompiler.CommandLine

namespace RouteCompiler.Event

open Document CommandLine

def level : Event → Level
  | routeBound .. => .debug
  | methodsDerived .. => .debug
  | tableCompiled .. => .info
  | configurationAccepted .. => .info
  | configurationRejected .. => .warn

/-- The part of the program that an event comes from. -/
def origin : Event → String
  | routeBound .. => programName ++ "::routing::resolver"
  | methodsDerived .. => programName ++ "::cors::policy"
  | tableCompiled .. => programName ++ "::compiler"
  | configurationAccepted .. => programName
  | configurationRejected .. => programName

/-- The message and the fields of an event. -/
def fields : Event → List (String × Value)
  | routeBound key target =>
    [("message", .text "Route bound"), ("route_key", .text key.text), ("target", .text target)]
  | methodsDerived methods =>
    [("message", .text "CORS methods derived from routes"), ("methods", .text (Text.quotedSet methods.values))]
  | tableCompiled routes catchAll cors =>
    [("message", .text "Route table compiled"), ("routes", .integer routes), ("catch_all", .bool catchAll),
      ("cors", .bool cors)]
  | configurationAccepted path summary =>
    [("message", .text "Compiled"), ("path", .text path), ("summary", .text summary)]
  | configurationRejected path error =>
    [("message", .text "Configuration rejected"), ("path", .text path), ("error", .text error)]

end RouteCompiler.Event
