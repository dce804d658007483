import RouteCompiler.Toml.Number
import RouteCompiler.Toml.Table
import RouteCompiler.Toml.Time

/-!
# Values of TOML

A value is a string, a number, a truth value, a date or time, an array or a table in braces. An array may
be spread over lines and may end with a comma; a table in braces may not. Arrays and tables in braces lie
inside each other less than 80 deep.
-/

namespace RouteCompiler.Toml

open Document

/-- The least depth of arrays and tables in braces that is too deep. -/
def depthLimit : Nat := 80

/-- A date or time, or else a number. -/
def timeOrNumber : Scan (Node Empty) := fun cs =>
  match dateTime cs with
  | .ok r => .ok r
  | .error f => if f.firm then .error f else number cs

/-- The word that stands for a value. -/
def word (name : String) (node : Node Empty) : Scan (Node Empty) := fun cs =>
  match dropWord name.toList cs with
  | some rest => .ok (node, rest)
  | none => .error ((Fault.here cs).expecting [.word name])

/-- A number without the digit that it must start with. -/
def headless (part : Part) (cs : List Char) : Fault := (Fault.here cs).within part |>.expecting [.leadingDigit]

/-- The value at the head of the text that is neither an array nor a table. -/
def scalar : Scan (Node Empty)
  | [] => .error (.here [])
  | c :: rest =>
    let cs := c :: rest
    if c = '"' ∨ c = '\'' then (string cs).map fun (s, rest) => (.text s, rest)
    else if c = '+' ∨ c = '-' ∨ c.isDigit then timeOrNumber cs
    else if c = '_' then .error (headless .integer cs)
    else if c = '.' then .error (headless .float cs)
    else if c = 't' then settle (word "true" (.bool true) cs)
    else if c = 'f' then settle (word "false" (.bool false) cs)
    else if c = 'i' then word "inf" (.float (1 / 0)) cs
    else if c = 'n' then word "nan" (.float (0 / 0)) cs
    else .error ((Fault.here cs).within .string |>.expecting [.word "\"", .word "'"])

/-- The fault of an array that does not end here. -/
def arrayFault (rest : List Char) : Fault := (Fault.here rest).within .array |>.expecting [.word "]"] |>.settled

/-- The fault of a table in braces that does not end here. -/
def inlineTableFault (rest : List Char) : Fault :=
  (Fault.here rest).within .inlineTable |>.expecting [.word "\x7d"] |>.settled

/-- The fault of a key that no equals sign follows. -/
def pairFault (rest : List Char) : Fault := (Fault.here rest).expecting [.word ".", .word "="] |>.settled

/-- Sets the pairs of a table in braces, in order. -/
def setAll : List (KeyPath × Node Empty) → Entries → Except Clash Entries
  | [], entries => .ok entries
  | (path, node) :: rest, entries =>
    match entries.setValue none path node with
    | .ok entries => setAll rest entries
    | .error clash => .error clash.inBraces

mutual

/-- The value at the head of the text, inside `depth` arrays and tables in braces. Every
    other step takes a character, so twice the length of the text bounds the steps. -/
def value (steps depth : Nat) (cs : List Char) : Except Fault (Node Empty × List Char) :=
  match steps with
  | 0 => .error (.here cs)
  | steps + 1 =>
    match cs with
    | [] => scalar []
    | c :: rest =>
      if c = '[' ∨ c = '\x7b' then
        if depth + 1 < depthLimit then
          if c = '[' then (items steps (depth + 1) rest).map fun (is, rest) => (.list is, rest)
          else
            match pairs steps (depth + 1) rest with
            | .error f => .error f
            | .ok (ps, behind) =>
              match setAll ps [] with
              | .error clash => .error ((Fault.here rest).because (.clash clash) |>.settled)
              | .ok entries =>
                match dropBlanks behind with
                | '\x7d' :: rest => .ok (.table (entryMembers entries), rest)
                | rest => .error (inlineTableFault rest)
        else .error ((Fault.here (c :: rest)).because .nestedTooDeep |>.settled)
      else scalar (c :: rest)
termination_by structural steps

/-- The items of an array behind the opening bracket or a comma, and its closing bracket. Where no value
    can be read, or what follows it is not in order, the array should end in front of that. -/
def items (steps depth : Nat) (cs : List Char) : Except Fault (Items Empty × List Char) :=
  match steps with
  | 0 => .error (.here cs)
  | steps + 1 =>
    match dropLines cs with
    | .error f => .error f.settled
    | .ok (']' :: rest) => .ok (.done, rest)
    | .ok start =>
      match value steps depth start with
      | .error f => .error (if f.firm then f else arrayFault start)
      | .ok (head, rest) =>
        match dropLines rest with
        | .error _ => .error (arrayFault start)
        | .ok (']' :: rest) => .ok (.item head .done, rest)
        | .ok (',' :: rest) => (items steps depth rest).map fun (is, rest) => (.item head is, rest)
        | .ok rest => .error (arrayFault rest)
termination_by structural steps

/-- The pairs of a table behind the opening brace or a comma, and the rest from where the table should
    end: a comma that no key follows does not belong to the pairs. -/
def pairs (steps depth : Nat) (cs : List Char) : Except Fault (List (KeyPath × Node Empty) × List Char) :=
  match steps with
  | 0 => .error (.here cs)
  | steps + 1 =>
    match keyPath cs with
    | .error f => if f.firm then .error f else .ok ([], cs)
    | .ok (path, '=' :: rest) =>
      match value steps depth (dropBlanks rest) with
      | .error f => .error f.settled
      | .ok (node, rest) =>
        match dropBlanks rest with
        | ',' :: rest =>
          match pairs steps depth rest with
          | .error f => .error f
          | .ok ([], _) => .ok ([(path, node)], ',' :: rest)
          | .ok (ps, rest) => .ok ((path, node) :: ps, rest)
        | rest => .ok ([(path, node)], rest)
    | .ok (_, rest) => .error (pairFault rest)
termination_by structural steps

end

end RouteCompiler.Toml
