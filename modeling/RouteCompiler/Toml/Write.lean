import RouteCompiler.Document.Value
import RouteCompiler.Toml.Key

/-!
# Writing TOML

The members of a table become one pair a line; tables inside it are written in braces, lists as arrays and
texts as basic strings. TOML has no word for a missing value, so members and items that are `null` are left
out.
-/

namespace RouteCompiler.Toml

open Document

def integerChars (n : Int) : List Char := (if n < 0 then ['-'] else []) ++ Nat.toDigits 10 n.natAbs

/-- Texts with a comma and a space between them. -/
def commaSeparated : List (List Char) → List Char
  | [] => []
  | [cs] => cs
  | cs :: rest => cs ++ ',' :: ' ' :: commaSeparated rest

mutual

/-- A value, unless it is `null`. -/
def valueChars? : Value → Option (List Char)
  | .null => none
  | .bool true => some "true".toList
  | .bool false => some "false".toList
  | .integer n => some (integerChars n)
  | .text s => some (quotedChars s)
  | .list vs => some ('[' :: commaSeparated (itemChars vs) ++ [']'])
  | .table ms => some ('\x7b' :: commaSeparated (pairChars ms) ++ ['\x7d'])

/-- The items of a list. -/
def itemChars : List Value → List (List Char)
  | [] => []
  | v :: rest => (valueChars? v).toList ++ itemChars rest

/-- The pairs of a table. -/
def pairChars : List (String × Value) → List (List Char)
  | [] => []
  | (k, v) :: rest =>
    ((valueChars? v).map fun cs => keyChars k ++ ' ' :: '=' :: ' ' :: cs).toList ++ pairChars rest

end

/-- A table as a document. -/
def write (members : List (String × Value)) : String :=
  String.ofList ((pairChars members).flatMap (· ++ ['\n']))

end RouteCompiler.Toml
