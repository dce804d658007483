import RouteCompiler.Text.Lines
import RouteCompiler.Toml.Span

/-!
# Reports

A report shows the line in which something is wrong, with its number, and marks the place below it. A fault
marks one character, a mismatch the value that does not fit.
-/

namespace RouteCompiler.Toml

open Text

/-- A place in a text: its line and its column, counted from zero, and how many bytes it takes up. -/
structure Position where
  line : Nat
  column : Nat
  width : Nat
deriving DecidableEq, Repr

namespace Position

/-- The place of a span in a text. Columns are counted in characters, but in bytes in front of a character
    of several bytes. The end of a text belongs to the line of its last character. -/
def of (text : List Char) (span : Span) : Position :=
  let before := text.take (text.length - span.start.length)
  let width := byteCount span.start - byteCount span.finish
  match span.start with
  | c :: _ =>
    let line := lastLine before
    ⟨before.count '\n', if c.utf8Size = 1 then line.length else byteCount line, width⟩
  | [] =>
    match before with
    | [] => ⟨0, 0, 0⟩
    | before => ⟨before.dropLast.count '\n', (lastLine before.dropLast).length + 1, 0⟩

/-- The text of a line of which the number, counted from zero, is given. -/
def lineText (text : List Char) (line : Nat) : List Char := (text.splitOn '\n').getD line []

/-- The line of the place, and below it a mark that is at least one character wide and ends with the
    line. -/
def excerpt (place : Position) (text : List Char) : String :=
  let number := toString (place.line + 1)
  let content := lineText text place.line
  let margin := String.ofList (List.replicate (number.length + 1) ' ') ++ "|"
  let width := max 1 (min place.width (byteCount content - place.column))
  margin ++ "\n" ++ number ++ " | " ++ String.ofList content ++ "\n" ++
    margin ++ String.ofList (List.replicate (place.column + 1) ' ' ++ List.replicate width '^') ++ "\n"

end Position

/-- A message about a part of a text, with the line in which it starts. -/
def report (text : String) (span : Span) (message : String) : String :=
  let cs := text.toList
  let place := Position.of cs span
  "TOML parse error at line " ++ toString (place.line + 1) ++ ", column " ++ toString (place.column + 1) ++
    "\n" ++ place.excerpt cs ++ message ++ "\n"

/-- The report on a fault of a text. -/
def Fault.report (text : String) (fault : Fault) : String :=
  Toml.report text ⟨fault.rest, fault.rest.drop 1⟩ fault.message

end RouteCompiler.Toml
