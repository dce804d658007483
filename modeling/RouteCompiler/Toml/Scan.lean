import RouteCompiler.Toml.Fault

/-!
# Blanks, comments and line ends of TOML

Every reader of TOML takes what it reads off the head of the text and returns the rest, or the fault when
the text is not in order there.
-/

namespace RouteCompiler.Toml

/-- What a reader makes of the head of a text, and the rest. -/
abbrev Scan (α : Type) := List Char → Except Fault (α × List Char)

/-- Settles what is being read, so that a fault in it is final. -/
def settle {α : Type} (result : Except Fault α) : Except Fault α := result.mapError Fault.settled

/-- Says in which part of the grammar a fault lies. -/
def inside {α : Type} (part : Part) (result : Except Fault α) : Except Fault α :=
  result.mapError (Fault.within part)

@[simp] theorem settle_ok {α : Type} (a : α) : settle (.ok a) = .ok a := rfl

@[simp] theorem inside_ok {α : Type} (part : Part) (a : α) : inside part (.ok a) = .ok a := rfl

/-- Takes a word off the text. -/
def dropWord : List Char → List Char → Option (List Char)
  | [], cs => some cs
  | w :: word, c :: cs => if w = c then dropWord word cs else none
  | _ :: _, [] => none

def isBlank (c : Char) : Bool := c == ' ' || c == '\t'

def dropBlanks (cs : List Char) : List Char := cs.dropWhile isBlank

/-- Takes a line end, `\n` or `\r\n`, off the text. -/
def lineEnd? : List Char → Option (List Char)
  | '\n' :: rest => some rest
  | '\r' :: '\n' :: rest => some rest
  | _ => none

/-- Whether the character may stand in a comment: no control character but the tab. -/
def isCommentChar (c : Char) : Bool := c == '\t' || (0x20 ≤ c.toNat && c.toNat != 0x7F)

/-- Takes a comment off the text, if one starts here. -/
def dropComment : List Char → List Char
  | '#' :: rest => rest.dropWhile isCommentChar
  | rest => rest

/-- What follows the blanks, the comment and the end of this line; the last line need not be ended. -/
def endLine (cs : List Char) : Except Fault (List Char) :=
  match dropComment (dropBlanks cs) with
  | [] => .ok []
  | rest =>
    match lineEnd? rest with
    | some rest => .ok rest
    | none => .error (.here rest)

/-- What follows the line end at the head of the text. A fault stands behind a `\r` that ends no line. -/
def nextLine (cs : List Char) : Except Fault (List Char) :=
  match cs with
  | '\n' :: rest => .ok rest
  | '\r' :: '\n' :: rest => .ok rest
  | '\r' :: rest => .error (.here rest)
  | rest => .error (.here rest)

/-- Takes blanks, line ends and comments, each of which ends its line, off the text. -/
def dropLinesWithin : (length : Nat) → List Char → Except Fault (List Char)
  | 0, cs => .ok cs
  | length + 1, cs =>
    match dropBlanks cs with
    | [] => .ok []
    | c :: rest =>
      if c = '#' then
        match nextLine (rest.dropWhile isCommentChar) with
        | .ok rest => dropLinesWithin length rest
        | .error f => .error f
      else if c = '\n' ∨ c = '\r' then
        match nextLine (c :: rest) with
        | .ok rest => dropLinesWithin length rest
        | .error f => .error f
      else .ok (c :: rest)

/-- What follows the blanks, line ends and comments at the head of the text. -/
def dropLines (cs : List Char) : Except Fault (List Char) := dropLinesWithin cs.length cs

end RouteCompiler.Toml
