import RouteCompiler.CommandLine.Log
import RouteCompiler.Text.Alphanumeric
import RouteCompiler.Text.Blank
import RouteCompiler.Text.Case

/-!
# Directives of the log

A directive says down to which level events are shown, for a part of the program, for a span or for events
with a field: `origin[span{field=value}]=level`. Every part of it may be left out, and a level without an
origin holds for the whole program.
-/

namespace RouteCompiler.CommandLine

/-- Down to which level events are shown; without a level none are. -/
abbrev Limit := Option Level

/-- A number in decimal digits, which may have a plus sign. -/
def number? (s : String) : Option Nat :=
  let ds := match s.toList with
    | '+' :: rest => rest
    | cs => cs
  if ds ≠ [] ∧ ds.all Char.isDigit then some (ds.foldl (fun n c => n * 10 + (c.toNat - '0'.toNat)) 0)
  else none

namespace Limit

def allows : Limit → Level → Bool
  | none, _ => false
  | some least, level => level.rank ≤ least.rank

/-- The limit of a rank; zero shows nothing. -/
def ofRank? : Nat → Option Limit
  | 0 => some none
  | n + 1 => (Level.all[n]?).map some

/-- The limit of a name in any case; `off` shows nothing. -/
def ofName? (name : String) : Option Limit :=
  if Text.sameUpToCase name "off" then some none
  else (Level.all.find? fun level => Text.sameUpToCase name level.name).map some

/-- The limit that a text gives by its rank or its name. -/
def ofText? (text : String) : Option Limit :=
  match number? text with
  | some rank => ofRank? rank
  | none => ofName? text

end Limit

/-- What an event must have: a field, and in it a value. -/
structure FieldCondition where
  name : String
  value : Option String
deriving DecidableEq, Repr

/-- A condition is a name, or a name and a value behind an equals sign. -/
def FieldCondition.ofText (text : String) : FieldCondition :=
  match text.toList.splitOn '=' with
  | name :: value :: _ => ⟨String.ofList name, some (String.ofList value)⟩
  | _ => ⟨text, none⟩

/-- What one directive asks for. -/
structure Directive where
  /-- What the origin of an event must start with. -/
  origin : Option String
  /-- The span in which an event must lie. -/
  span : Option String
  field : Option FieldCondition
  limit : Limit
deriving DecidableEq, Repr

/-- Why a directive is not in order. -/
inductive DirectiveFault where
  | malformed | unknownLevel
deriving DecidableEq, Repr

def DirectiveFault.message : DirectiveFault → String
  | malformed => "invalid filter directive"
  | unknownLevel =>
    "error parsing level filter: expected one of \"off\", \"error\", \"warn\", \"info\", \"debug\", " ++
      "\"trace\", or a number 0-5"

/-! ### Reading directives -/

/-- The rest of a directive: without the white space around the directive, which decides where its parts
    end, and as it is written, from which they are taken. Behind white space the two are out of step. -/
structure DirectiveRest where
  trimmed : List Char
  written : List Char

namespace DirectiveRest

def skip (count : Nat) (rest : DirectiveRest) : DirectiveRest :=
  ⟨rest.trimmed.drop count, rest.written.drop count⟩

/-- The part in front of the first of the stops, and the rest from that stop on. -/
def cut (stops : List Char) (rest : DirectiveRest) : String × DirectiveRest :=
  let count := (rest.trimmed.takeWhile fun c => !stops.contains c).length
  (String.ofList (rest.written.take count), rest.skip count)

/-- The limit behind an equals sign; without a level everything is shown. -/
def limit (rest : DirectiveRest) : Except DirectiveFault Limit :=
  if rest.written = [] then .ok (some .trace)
  else
    match Limit.ofText? (String.ofList rest.written) with
    | some limit => .ok limit
    | none => .error .unknownLevel

/-- The limit behind square brackets, if there is one. -/
def limitBehindBrackets (rest : DirectiveRest) : Except DirectiveFault Limit :=
  match rest.trimmed with
  | [] => .ok (some .trace)
  | '=' :: _ => (rest.skip 1).limit
  | _ => .error .malformed

/-- The directive of an origin and of what follows the opening bracket behind it. A span that is only
    there for a field needs no name. -/
def bracketed (origin : Option String) (rest : DirectiveRest) : Except DirectiveFault Directive :=
  let (span, rest) := rest.cut [']', '\x7b']
  match rest.trimmed with
  | ']' :: _ => (rest.skip 1).limitBehindBrackets.map fun limit => ⟨origin, some span, none, limit⟩
  | '\x7b' :: _ =>
    let (condition, rest) := (rest.skip 1).cut ['\x7d']
    match rest.trimmed with
    | '\x7d' :: ']' :: _ =>
      if condition = "" then .error .malformed
      else
        (rest.skip 2).limitBehindBrackets.map fun limit =>
          ⟨origin, if span = "" then none else some span, some (.ofText condition), limit⟩
    | _ => .error .malformed
  | _ => .error .malformed

end DirectiveRest

namespace Directive

/-- Whether a directive that is no bracket may start with the character. -/
def isOpener (c : Char) : Bool := ['-', ':', '_'].contains c || Text.alphanumeric.contains c

/-- The directive that a text writes. A text without level and brackets is a level, if it reads as one,
    and else an origin. -/
def ofText (text : String) : Except DirectiveFault Directive :=
  let whole : DirectiveRest := ⟨Text.trim text.toList, text.toList⟩
  match whole.trimmed with
  | [] => .error .malformed
  | '[' :: _ => (whole.skip 1).bracketed none
  | c :: _ =>
    if isOpener c then
      let (origin, rest) := whole.cut ['=', '[']
      match rest.trimmed with
      | [] =>
        match Limit.ofText? text with
        | some limit => .ok ⟨none, none, none, limit⟩
        | none => .ok ⟨some text, none, none, some .trace⟩
      | '[' :: _ => (rest.skip 1).bracketed (some origin)
      | _ => (rest.skip 1).limit.map fun limit => ⟨some origin, none, none, limit⟩
    else .error .malformed

end Directive
end RouteCompiler.CommandLine
