/-!
# Command-line arguments

A command and its file, with the options for the log before or after the command. An option is given at
most once on each side of the command; if it is given on both, the one behind the command counts.
Arguments behind `--` are no options.
-/

namespace RouteCompiler.CommandLine

/-- How log lines are laid out. -/
inductive LogFormat where
  | pretty | compact | json
deriving DecidableEq, Repr

/-- What to do with which file. -/
inductive Command where
  | compile (file : String) (pretty : Bool)
  | check (file : String)
  | watch (file : String)
deriving DecidableEq, Repr

/-- A whole command line. -/
structure Invocation where
  logLevel : String
  logFormat : LogFormat
  command : Command
deriving DecidableEq, Repr

namespace LogFormat

def ofName? (name : String) : Option LogFormat :=
  if name = "pretty" then some pretty
  else if name = "compact" then some compact
  else if name = "json" then some json
  else none

end LogFormat

/-- The options given on one side of the command. -/
structure LogOptions where
  level : Option String
  format : Option LogFormat
deriving DecidableEq, Repr

namespace LogOptions

def none : LogOptions := ⟨.none, .none⟩

/-- Sets an option that is not set. -/
def set (options : LogOptions) (name value : String) : Option LogOptions :=
  if name = "--log-level" then
    if options.level.isSome then .none else some { options with level := some value }
  else if name = "--log-format" then
    if options.format.isSome then .none
    else (LogFormat.ofName? value).map fun format => { options with format := some format }
  else .none

/-- Both sides of the command; what stands behind it counts. -/
def merge (before behind : LogOptions) : LogOptions :=
  ⟨behind.level.or before.level, behind.format.or before.format⟩

end LogOptions

/-- The name and the value of an argument of the form `--name=value`. -/
def assignment? (argument : String) : Option (String × String) :=
  match argument.toList.dropWhile (· != '=') with
  | [] => none
  | _ :: value => some (String.ofList (argument.toList.takeWhile (· != '=')), String.ofList value)

/-- Whether the argument looks like an option. -/
def isOption (argument : String) : Bool :=
  match argument.toList with
  | '-' :: _ :: _ => true
  | _ => false

/-- Takes one option off the arguments, of which the first looks like one. -/
def takeOption (options : LogOptions) (argument : String) (rest : List String) :
    Option (LogOptions × List String) :=
  match assignment? argument with
  | some (name, value) => (options.set name value).map (·, rest)
  | none =>
    match rest with
    | value :: rest => if isOption value then none else (options.set argument value).map (·, rest)
    | [] => none

/-- What stands behind the command. -/
structure Tail where
  options : LogOptions
  pretty : Bool
  file : Option String

/-- Reads what stands behind a command, of at most `length` arguments; only some commands can print
    prettily. -/
def readTail (canBePretty : Bool) : (length : Nat) → Tail → List String → Option Tail
  | 0, tail, _ => some tail
  | _, tail, [] => some tail
  | length + 1, tail, argument :: rest =>
    if argument = "--" then
      match rest, tail.file with
      | [], _ => some tail
      | [file], none => some { tail with file := some file }
      | _, _ => none
    else if argument = "--pretty" then
      if canBePretty && !tail.pretty then readTail canBePretty length { tail with pretty := true } rest
      else none
    else if isOption argument then
      match takeOption tail.options argument rest with
      | some (options, rest) => readTail canBePretty length { tail with options } rest
      | none => none
    else if tail.file.isSome then none
    else readTail canBePretty length { tail with file := some argument } rest

/-- The command of a name, for a file that must be named. -/
def command? (name : String) (tail : Tail) : Option Command :=
  match tail.file with
  | none => none
  | some file =>
    if file = "" then none
    else if name = "compile" then some (.compile file tail.pretty)
    else if name = "check" then some (.check file)
    else if name = "watch" then some (.watch file)
    else none

/-- Reads at most `length` arguments: options, then a command and what stands behind it. -/
def readArguments : (length : Nat) → LogOptions → List String → Option Invocation
  | 0, _, _ => none
  | _, _, [] => none
  | length + 1, before, argument :: rest =>
    if isOption argument then
      match takeOption before argument rest with
      | some (before, rest) => readArguments length before rest
      | none => none
    else do
      let tail ← readTail (argument == "compile") rest.length ⟨.none, false, none⟩ rest
      let command ← command? argument tail
      let options := before.merge tail.options
      return ⟨options.level.getD "info", options.format.getD .pretty, command⟩

/-- The invocation that the arguments ask for, or nothing when they are not in order. -/
def Invocation.ofArguments (arguments : List String) : Option Invocation :=
  readArguments arguments.length .none arguments

end RouteCompiler.CommandLine
