import RouteCompiler.Document.Value

/-!
# Writing JSON

A value is written either without any white space, or indented: each item and member on a line of its own,
two spaces further in than what it belongs to. Empty lists and tables take no line of their own.
-/

namespace RouteCompiler.Json

open Document

/-- How a string literal writes one character. -/
def escapedChar (c : Char) : List Char :=
  if c = '"' then ['\\', '"']
  else if c = '\\' then ['\\', '\\']
  else if c = '\x08' then ['\\', 'b']
  else if c = '\x0c' then ['\\', 'f']
  else if c = '\n' then ['\\', 'n']
  else if c = '\r' then ['\\', 'r']
  else if c = '\t' then ['\\', 't']
  else if c.toNat < 0x20 then
    ['\\', 'u', '0', '0', Nat.digitChar (c.toNat / 16), Nat.digitChar (c.toNat % 16)]
  else [c]

/-- A text as a string literal. -/
def quotedChars (s : String) : List Char := '"' :: s.toList.flatMap escapedChar ++ ['"']

def integerChars (n : Int) : List Char := (if n < 0 then ['-'] else []) ++ Nat.toDigits 10 n.natAbs

mutual

/-- The text of a value without white space. -/
def compactChars : Value → List Char
  | .null => "null".toList
  | .bool true => "true".toList
  | .bool false => "false".toList
  | .integer n => integerChars n
  | .text s => quotedChars s
  | .list [] => ['[', ']']
  | .list (head :: rest) => '[' :: compactChars head ++ compactItems rest
  | .table [] => ['\x7b', '\x7d']
  | .table ((key, v) :: rest) => '\x7b' :: quotedChars key ++ ':' :: compactChars v ++ compactMembers rest

/-- The items behind an item, and the end of the list. -/
def compactItems : List Value → List Char
  | [] => [']']
  | head :: rest => ',' :: compactChars head ++ compactItems rest

/-- The members behind a member, and the end of the table. -/
def compactMembers : List (String × Value) → List Char
  | [] => ['\x7d']
  | (key, v) :: rest => ',' :: quotedChars key ++ ':' :: compactChars v ++ compactMembers rest

end

/-- A new line that is indented `depth` times. -/
def newLine (depth : Nat) : List Char := '\n' :: List.replicate (2 * depth) ' '

mutual

/-- The indented text of a value that lies inside `depth` lists and tables. -/
def prettyChars (depth : Nat) : Value → List Char
  | .null => "null".toList
  | .bool true => "true".toList
  | .bool false => "false".toList
  | .integer n => integerChars n
  | .text s => quotedChars s
  | .list [] => ['[', ']']
  | .list (head :: rest) =>
    '[' :: newLine (depth + 1) ++ prettyChars (depth + 1) head ++ prettyItems depth rest
  | .table [] => ['\x7b', '\x7d']
  | .table ((key, v) :: rest) =>
    '\x7b' :: newLine (depth + 1) ++ quotedChars key ++ ':' :: ' ' :: prettyChars (depth + 1) v ++
      prettyMembers depth rest

/-- The items behind an item, and the end of a list inside `depth` others. -/
def prettyItems (depth : Nat) : List Value → List Char
  | [] => newLine depth ++ [']']
  | head :: rest => ',' :: newLine (depth + 1) ++ prettyChars (depth + 1) head ++ prettyItems depth rest

/-- The members behind a member, and the end of a table inside `depth` others. -/
def prettyMembers (depth : Nat) : List (String × Value) → List Char
  | [] => newLine depth ++ ['\x7d']
  | (key, v) :: rest =>
    ',' :: newLine (depth + 1) ++ quotedChars key ++ ':' :: ' ' :: prettyChars (depth + 1) v ++
      prettyMembers depth rest

end

/-- The value as a text without white space. -/
def write (v : Value) : String := String.ofList (compactChars v)

/-- The value as an indented text. -/
def writePretty (v : Value) : String := String.ofList (prettyChars 0 v)

end RouteCompiler.Json
