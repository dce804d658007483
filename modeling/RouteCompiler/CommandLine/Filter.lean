import RouteCompiler.CommandLine.Directive

/-!
# Which events the log shows

A filter is a text of directives with commas between them. Of the directives that apply to an event the
most specific decides: the one with the longest origin, then one with a field; of equal ones the last. A
directive that is not in order is left out, with a notice.
-/

namespace RouteCompiler.CommandLine

/-! ### One directive and one event -/

namespace Directive

/-- Whether the directive applies to the event. The program has no spans, and the values of fields are only
    looked at in spans. -/
def appliesTo (directive : Directive) (event : Event) : Bool :=
  directive.span.isNone &&
    directive.origin.all (fun origin => origin.toList.isPrefixOf event.origin.toList) &&
    directive.field.all fun field => field.value.isNone && (event.fields.map (·.1)).contains field.name

/-- How long the origin is; any origin counts for more than none. -/
def originRank (directive : Directive) : Nat :=
  match directive.origin with
  | none => 0
  | some origin => origin.length + 1

/-- Whether the second condition is as good as the first: any is better than none, and of two the one with
    the greater name. -/
def noBetterField : Option FieldCondition → Option FieldCondition → Bool
  | none, _ => true
  | some _, none => false
  | some a, some b => a.name ≤ b.name

/-- Whether the first directive is no more specific than the second. -/
def noMoreSpecific (a b : Directive) : Bool :=
  a.originRank < b.originRank || (a.originRank == b.originRank && noBetterField a.field b.field)

end Directive

/-! ### Filters -/

/-- The directives by which events are shown. -/
structure LogFilter where
  directives : List Directive
deriving DecidableEq, Repr

/-- The filter that shows events of the program itself, from a level on. -/
def filterText (level : String) : String := programName ++ "=" ++ level

/-- The texts between the commas; empty ones do not count. -/
def directiveTexts (text : String) : List String :=
  ((text.toList.splitOn ',').filter (· ≠ [])).map String.ofList

namespace LogFilter

/-- What a filter without any directive does: it shows errors. -/
def errorsOnly : Directive := ⟨none, none, none, some .error⟩

/-- The filter that a text writes: its directives that are in order. -/
def ofText (text : String) : LogFilter :=
  match (directiveTexts text).filterMap fun t => (Directive.ofText t).toOption with
  | [] => ⟨[errorsOnly]⟩
  | directives => ⟨directives⟩

/-- The notice, on a line, that a directive is left out. -/
def notice (text : String) : Option String :=
  match Directive.ofText text with
  | .ok _ => none
  | .error e => some ("ignoring `" ++ text ++ "`: " ++ e.message ++ "\n")

/-- The notices on the directives of a text. -/
def notices (text : String) : String := String.join ((directiveTexts text).filterMap notice)

/-- The directive that decides on an event, if one applies. -/
def deciding? (filter : LogFilter) (event : Event) : Option Directive :=
  (filter.directives.filter (·.appliesTo event)).foldl
    (fun best next =>
      match best with
      | none => some next
      | some best => if best.noMoreSpecific next then some next else some best)
    none

/-- Whether the log shows the event. -/
def shows (filter : LogFilter) (event : Event) : Bool :=
  match filter.deciding? event with
  | some directive => directive.limit.allows event.level
  | none => false

end LogFilter
end RouteCompiler.CommandLine
