import RouteCompiler.Toml.Text

/-!
# Keys of TOML

A key is bare, or quoted on one line. Keys with points between them lead from table to table; such a path
has fewer than 80 keys.
-/

namespace RouteCompiler.Toml

/-- Whether the character may stand in a bare key. -/
def isBareKeyChar (c : Char) : Bool := c.isAlphanum || c == '-' || c == '_'

/-- The key at the head of the text. -/
def key : Scan String := fun cs =>
  match cs with
  | '"' :: rest => (basicText rest).map fun (text, rest) => (String.ofList text, rest)
  | '\'' :: rest => (literalText rest).map fun (text, rest) => (String.ofList text, rest)
  | cs =>
    let name := cs.takeWhile isBareKeyChar
    if name = [] then .error ((Fault.here cs).within .key)
    else .ok (String.ofList name, cs.dropWhile isBareKeyChar)

/-- A key, which is quoted only if it cannot be bare. -/
def keyChars (k : String) : List Char :=
  if k.toList ≠ [] ∧ k.toList.all isBareKeyChar then k.toList else quotedChars k

/-- A key as messages show it: bare, or in double quotes, or in single quotes if that avoids escapes. -/
def shownKey (k : String) : String :=
  let cs := k.toList
  if cs ≠ [] ∧ cs.all isBareKeyChar then k
  else if cs.any (fun c => escapedChar c ≠ [c]) ∧ cs.all (fun c => isStringChar c && c != '\'') then
    "'" ++ k ++ "'"
  else String.ofList (quotedChars k)

/-- A key with the keys of the tables that lead to it. -/
structure KeyPath where
  tables : List String
  last : String
deriving DecidableEq, Repr

/-- The clash of a header whose last key is taken. -/
def KeyPath.clash (path : KeyPath) : Clash := .duplicate (shownKey path.last) (some path.tables)

/-- The keys behind a key, each behind a point; blanks may stand around the points. A point that no key
    follows does not belong to the path. -/
def moreKeys : (length : Nat) → Scan (List String)
  | 0, cs => .ok ([], cs)
  | length + 1, cs =>
    match dropBlanks cs with
    | '.' :: rest =>
      match key (dropBlanks rest) with
      | .ok (k, rest) => (moreKeys length rest).map fun (ks, rest) => (k :: ks, rest)
      | .error f => if f.firm then .error f else .ok ([], '.' :: rest)
    | rest => .ok ([], rest)

/-- The least number of keys that is too many for a path. -/
def pathLimit : Nat := 80

/-- The path at the head of the text, with the blanks around it. -/
def keyPath : Scan KeyPath := fun cs =>
  match key (dropBlanks cs) with
  | .error f => .error f
  | .ok (k, rest) =>
    match moreKeys rest.length rest with
    | .error f => .error f
    | .ok (ks, rest) =>
      if ks.length + 1 < pathLimit then
        let path := k :: ks
        .ok (⟨path.dropLast, path.getLast (List.cons_ne_nil k ks)⟩, rest)
      else .error ((Fault.here cs).because .nestedTooDeep)

end RouteCompiler.Toml
