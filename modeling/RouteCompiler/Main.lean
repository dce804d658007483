import RouteCompiler.CommandLine.Run

/-!
# The program

Reads the arguments, lets the library do the work, and prints what comes of it. A watched file is looked at
every two seconds.
-/

namespace RouteCompiler.CommandLine

open Document

/-- The text of a field in a log line. -/
def fieldText : Value → String
  | .text s => s
  | v => Json.write v

/-- An event as a log line. -/
def logLine (format : LogFormat) (event : Event) : String :=
  match format with
  | .json =>
    Json.write (.table [("level", .text event.level.name), ("fields", .table event.fields),
      ("target", .text event.origin)])
  | _ =>
    let fields := event.fields.map fun (k, v) => if k = "message" then fieldText v else k ++ "=" ++ fieldText v
    event.level.name ++ " " ++ event.origin ++ ": " ++ " ".intercalate fields

/-- Why the system does not give the content of a file. -/
def fileError : IO.Error → FileError
  | .noFileOrDirectory .. => .notFound
  | e => .refused (toString e)

def readContent (file : String) : IO (Except FileError ByteArray) := do
  match ← (IO.FS.readBinFile file).toBaseIO with
  | .ok bytes => return .ok bytes
  | .error e => return .error (fileError e)

/-- Prints the outcome of a command, with its log. -/
def printOutcome (format : LogFormat) (outcome : Outcome) : IO Unit := do
  for event in outcome.events do IO.eprintln (logLine format event)
  IO.print outcome.stdout
  IO.eprint outcome.stderr

/-- The bytes of a file, if it can be read. -/
def bytesOf : Except FileError ByteArray → Option (List UInt8)
  | .ok bytes => some bytes.toList
  | .error _ => none

/-- Reports on a file whenever its content changes. -/
partial def keepWatching (invocation : Invocation) (file : String) (last : Option (List UInt8)) : IO Unit := do
  IO.sleep 2000
  let content ← readContent file
  let bytes := bytesOf content
  if bytes != last then
    printOutcome invocation.logFormat ((report file content).filtered invocation.filter)
  keepWatching invocation file bytes

def Command.file : Command → String
  | .compile file _ => file
  | .check file => file
  | .watch file => file

def usage : String :=
  "Usage: [--log-level LEVEL] [--log-format pretty|compact|json] " ++
    "(compile [--pretty] | check | watch) FILE"

end RouteCompiler.CommandLine

open RouteCompiler RouteCompiler.CommandLine in
def main (arguments : List String) : IO UInt32 := do
  match Invocation.ofArguments arguments with
  | none =>
    IO.eprintln usage
    return 2
  | some invocation =>
    let file := invocation.command.file
    let content ← readContent file
    let transcript := invocation.run fun _ => content
    IO.eprint transcript.notices
    printOutcome invocation.logFormat transcript.outcome
    match transcript.outcome.code with
    | some code => return UInt32.ofNat code
    | none =>
      keepWatching invocation file (bytesOf content)
      return 0
