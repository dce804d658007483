import RouteCompiler.Json.Literal
import RouteCompiler.Json.Number

/-!
# Tokens of JSON

A text is cut into tokens up to its end or to the first place where it goes wrong. The last token of a
text that goes wrong is a broken one, and its fault counts only if a value was due there.
-/

namespace RouteCompiler.Json

open Document

/-- A token. A value that is neither a list, a table nor a string is a token of its own. -/
inductive Token where
  | openList | closeList | openTable | closeTable | comma | colon
  | text (literal : Literal)
  | scalar (node : Node Fault)

def isSpace (c : Char) : Bool := c == ' ' || c == '\n' || c == '\t' || c == '\r'

/-- Takes the letters of a word off a text, or says why it is not there. -/
def dropWord : List Char → List Char → Except Fault (List Char)
  | [], cs => .ok cs
  | _ :: _, [] => .error .endInValue
  | w :: word, c :: cs => if w = c then dropWord word cs else .error .expectedWord

/-- The word at the head of a text, of which the first letter has been seen. -/
def word (node : Node Fault) (letters : String) (cs : List Char) : Token × List Char :=
  match dropWord letters.toList cs with
  | .ok rest => (.scalar node, rest)
  | .error fault => (.scalar (.broken fault fault), [])

/-- The first token of a text whose first character is no white space, and what follows it. -/
def token (c : Char) (rest : List Char) : Token × List Char :=
  if c = '[' then (.openList, rest)
  else if c = ']' then (.closeList, rest)
  else if c = '\x7b' then (.openTable, rest)
  else if c = '\x7d' then (.closeTable, rest)
  else if c = ',' then (.comma, rest)
  else if c = ':' then (.colon, rest)
  else if c = '"' then
    let (l, rest) := literal rest
    (.text l, rest)
  else if c = 'n' then word .null "ull" rest
  else if c = 't' then word (.bool true) "rue" rest
  else if c = 'f' then word (.bool false) "alse" rest
  else if c = '-' ∨ c.isDigit then
    match numeral (c :: rest) with
    | .ok (n, rest) => (.scalar n.node, rest)
    | .error fault => (.scalar fault.node, [])
  else (.scalar (.broken .expectedValue .expectedValue), [])

/-- The tokens of a text of at most `length` characters. -/
def tokensWithin : (length : Nat) → List Char → List Token
  | 0, _ => []
  | _, [] => []
  | length + 1, c :: rest =>
    if isSpace c then tokensWithin length rest
    else
      let (t, rest) := token c rest
      t :: tokensWithin length rest

/-- The tokens of a text. -/
def tokens (text : String) : List Token := tokensWithin text.toList.length text.toList

end RouteCompiler.Json
