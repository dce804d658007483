import RouteCompiler.Toml.Document

/-!
# Where the values of a TOML text stand

In a text that is in order, a path of keys and indices leads to a value, and the value has a span:

* a value of a pair or of an array takes up its own text;
* the document goes from the start of the text to the end of its last pair, and a table with a header from
  the header to the end of its last pair;
* an array of tables goes from its first table to the end of its last one;
* a table that is only implied has no text of its own: its key stands for it.
-/

namespace RouteCompiler.Toml

open Document

/-- A part of a text: the text from its start on, and the text behind it. -/
structure Span where
  start : List Char
  finish : List Char

/-- The keys of a path. -/
def KeyPath.keys (path : KeyPath) : List String := path.tables ++ [path.last]

/-! ### Spans within values -/

/-- What follows the value at the head of the text. -/
def dropValue? (cs : List Char) : Option (List Char) :=
  ((value (2 * cs.length + 2) 0 cs).toOption).map (·.2)

/-- Where an item of an array starts, behind the opening bracket or a comma. -/
def itemStart? : (index : Nat) → List Char → Option (List Char)
  | 0, cs => (dropLines cs).toOption
  | index + 1, cs => do
    let behind ← dropValue? (← (dropLines cs).toOption)
    match ← (dropLines behind).toOption with
    | ',' :: rest => itemStart? index rest
    | _ => none

/-- A pair with its place: the text from its keys on, and the span of its value. -/
structure PlacedPair where
  keys : List String
  start : List Char
  value : Span

/-- The pair at the head of the text. -/
def placedPair? (cs : List Char) : Option PlacedPair :=
  match keyPath cs with
  | .ok (path, '=' :: rest) =>
    (dropValue? (dropBlanks rest)).map fun finish => ⟨path.keys, cs, ⟨dropBlanks rest, finish⟩⟩
  | _ => none

/-- The pairs of a table in braces of at most `length` characters. -/
def placedPairs : (length : Nat) → List Char → List PlacedPair
  | 0, _ => []
  | length + 1, cs =>
    match placedPair? cs with
    | none => []
    | some pair =>
      match dropBlanks pair.value.finish with
      | ',' :: rest => pair :: placedPairs length rest
      | _ => [pair]

/-- The span of one of the keys at the head of a text. -/
def keySpan? : (index : Nat) → List Char → Option Span
  | 0, cs =>
    let start := dropBlanks cs
    ((key start).toOption).map fun (_, finish) => ⟨start, finish⟩
  | index + 1, cs => do
    let (_, rest) ← (key (dropBlanks cs)).toOption
    match dropBlanks rest with
    | '.' :: rest => keySpan? index rest
    | _ => none

/-- The span to which a path leads by one of some pairs: in the value of a pair, or one of its keys. -/
def spanInPairs? (spanInValue? : List Step → List Char → Option Span) (path : List Step)
    (pairs : List PlacedPair) : Option Span :=
  pairs.findSome? fun pair =>
    let steps := pair.keys.map Step.member
    if steps.isPrefixOf path then spanInValue? (path.drop steps.length) pair.value.start
    else if path.isPrefixOf steps then keySpan? (path.length - 1) pair.start
    else none

/-- The span to which a path of at most `length` steps leads in the value at the head of the text. -/
def spanInValue? : (length : Nat) → List Step → List Char → Option Span
  | _, [], cs => (dropValue? cs).map fun finish => ⟨cs, finish⟩
  | length + 1, .item index :: path, '[' :: rest => (itemStart? index rest).bind (spanInValue? length path)
  | length + 1, .member key :: path, '\x7b' :: rest =>
    spanInPairs? (spanInValue? length) (.member key :: path) (placedPairs rest.length rest)
  | _, _, _ => none

/-! ### Tables with their places -/

/-- A table that is written out, with its place: the path that leads to it, the keys and the span of its
    header, and its pairs. -/
structure PlacedTable where
  path : List Step
  keys : List Char
  header : Span
  pairs : List PlacedPair

namespace PlacedTable

/-- The table with its pairs. -/
def span (table : PlacedTable) : Span :=
  ⟨table.header.start, (table.pairs.getLast?.map (·.value.finish)).getD table.header.finish⟩

/-- Whether the table is an item of the array of tables at a path. -/
def isItemOf (path : List Step) (table : PlacedTable) : Bool :=
  match table.path.getLast? with
  | some (.item _) => table.path.dropLast == path
  | _ => false

end PlacedTable

/-- The path of keys in a header, behind some tables: of an array of tables the last one is meant. -/
def headerSteps (tables : List PlacedTable) (keys : List String) : List Step :=
  keys.foldl
    (fun path k =>
      let path := path ++ [.member k]
      match tables.countP (·.isItemOf path) with
      | 0 => path
      | n + 1 => path ++ [.item n])
    []

/-- The span of the header at the head of a text, which has so many brackets on either side. -/
def headerSpan (brackets : Nat) (start : List Char) : Span :=
  match keyPath (start.drop brackets) with
  | .ok (_, rest) => ⟨start, rest.drop brackets⟩
  | .error _ => ⟨start, start⟩

/-- The tables of a text, behind one more statement that starts at `start`. -/
def placeStatement (tables : List PlacedTable) (start : List Char) : Statement → List PlacedTable
  | .pair .. =>
    match placedPair? start, tables.getLast? with
    | some pair, some table => tables.dropLast ++ [{ table with pairs := table.pairs ++ [pair] }]
    | _, _ => tables
  | .header path =>
    let steps := headerSteps tables path.tables ++ [.member path.last]
    tables ++ [⟨steps, start.drop 1, headerSpan 1 start, []⟩]
  | .arrayHeader path =>
    let array := headerSteps tables path.tables ++ [.member path.last]
    let steps := array ++ [.item (tables.countP (·.isItemOf array))]
    tables ++ [⟨steps, start.drop 2, headerSpan 2 start, []⟩]

/-- The tables of a text of at most `length` characters, behind some tables. -/
def placedTablesWithin : (length : Nat) → List PlacedTable → List Char → List PlacedTable
  | 0, tables, _ => tables
  | length + 1, tables, cs =>
    match dropBlanks cs with
    | [] => tables
    | start =>
      match statement? start with
      | .error _ => tables
      | .ok (none, rest) => placedTablesWithin length tables rest
      | .ok (some s, rest) => placedTablesWithin length (placeStatement tables start s) rest

/-- The tables of a text. The first is the document. -/
def placedTables (text : List Char) : List PlacedTable :=
  placedTablesWithin text.length [⟨[], [], ⟨text, text⟩, []⟩] (dropMark text)

/-! ### The span of a path -/

/-- The span of an array of tables. -/
def arraySpan? (path : List Step) (tables : List PlacedTable) : Option Span :=
  match tables.filter (·.isItemOf path) with
  | [] => none
  | first :: rest => some ⟨first.span.start, ((first :: rest).getLast (by simp)).span.finish⟩

/-- The span of the key of a table that is implied by the header of another. -/
def impliedSpan? (path : List Step) (table : PlacedTable) : Option Span :=
  if path.isPrefixOf table.path then
    keySpan? (path.countP (fun | .member _ => true | .item _ => false) - 1) table.keys
  else none

/-- The span to which a path leads in a text that is in order. -/
def span (text : List Char) (path : List Step) : Span :=
  let tables := placedTables text
  let found := ((tables.find? (·.path == path)).map (·.span))
    |>.or (arraySpan? path tables)
    |>.or (tables.findSome? fun table =>
      if table.path.isPrefixOf path then
        spanInPairs? (spanInValue? path.length) (path.drop table.path.length) table.pairs
      else none)
    |>.or (tables.findSome? (impliedSpan? path))
  found.getD ⟨text, text⟩

end RouteCompiler.Toml
