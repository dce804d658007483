import RouteCompiler.Text.Quoted

/-!
# Route bindings

A binding is declared either as one text, `"<METHOD> <path>"` or `"*"`, or by its fields. Both forms come
down to an optional method and an optional path; whether these make a route is judged later. Paths are
opaque: only the path `*`, the catch-all, has a meaning of its own.
-/

namespace RouteCompiler

/-- The text that stands for the catch-all route. -/
def catchAllText : String := "*"

/-- A route binding as declared. -/
inductive RouteBinding where
  /-- `"<METHOD> <path>"` or `"*"`. -/
  | shorthand (route : String)
  /-- Explicit fields, each of which may be missing. -/
  | structured (method path : Option String)
deriving DecidableEq, Repr

/-- What a binding says, whichever form it has. -/
structure RawRoute where
  method : Option String
  path : Option String
deriving DecidableEq, Repr

/-- Whether the character ends a line, which no shorthand path may contain. -/
def isLineBreak (c : Char) : Bool := c == '\n' || c == '\r' || c == '\u2028' || c == '\u2029'

/-- Splits `"<token> <rest>"` at the first space: the token is a run of ASCII letters, the rest is one
    line and not empty. -/
def splitRoute (route : String) : Option (String × String) :=
  let token := route.toList.takeWhile (· != ' ')
  match route.toList.dropWhile (· != ' ') with
  | [] => none
  | _ :: rest =>
    if token ≠ [] ∧ token.all Char.isAlpha ∧ rest ≠ [] ∧ rest.all (!isLineBreak ·) then
      some (String.ofList token, String.ofList rest)
    else none

/-- An empty field counts as missing. -/
def nonEmpty (field : Option String) : Option String := field.filter (· != "")

namespace RouteBinding

/-- The method and the path of a binding, or nothing when a shorthand is neither `"*"` nor of the form
    `"<METHOD> <path>"`. -/
def normalize : RouteBinding → Option RawRoute
  | structured method path => some ⟨nonEmpty method, nonEmpty path⟩
  | shorthand route =>
    if route = catchAllText then some ⟨none, some catchAllText⟩
    else (splitRoute route).map fun (method, path) => ⟨some method, some path⟩

/-- The binding as messages quote it; a missing field is shown as an empty one. -/
def display : RouteBinding → String
  | shorthand route => Text.quoted route
  | structured method path =>
    "\x7b method: " ++ Text.quoted (method.getD "") ++ ", path: " ++ Text.quoted (path.getD "") ++ " \x7d"

end RouteBinding
end RouteCompiler
