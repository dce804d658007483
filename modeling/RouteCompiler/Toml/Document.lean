import RouteCompiler.Toml.Value

/-!
# Documents of TOML

A document is a sequence of statements, each on its own line: a header `[a.b]` opens a table, a header
`[[a.b]]` opens the next table of an array, and a pair sets a key of the table that is open. A table
takes its place among its neighbours when it is complete, that is, at the next header or at the end.
-/

namespace RouteCompiler.Toml

open Document

/-- A statement of a document. -/
inductive Statement where
  | header (path : KeyPath)
  | arrayHeader (path : KeyPath)
  | pair (path : KeyPath) (node : Node Empty)

/-! ### Reading statements -/

/-- What follows the end of the line of a statement. -/
def endStatement (cs : List Char) : Except Fault (List Char) :=
  (endLine cs).mapError (Fault.expecting [.newline, .word "#"])

/-- The path of a header up to its closing brackets, and the end of its line. -/
def headerPath (closing : String) (cs : List Char) : Except Fault (KeyPath × List Char) :=
  match keyPath cs with
  | .error f => .error f
  | .ok (path, rest) =>
    match dropWord closing.toList rest with
    | some rest => (endStatement rest).map (path, ·)
    | none => .error ((Fault.here rest).expecting [.word ".", .word closing])

/-- The header at the head of the text, behind its first bracket. -/
def header : Scan Statement
  | [] => .error (.here ['['])
  | '[' :: rest => (headerPath "]]" rest).map fun (path, rest) => (.arrayHeader path, rest)
  | rest => (headerPath "]" rest).map fun (path, rest) => (.header path, rest)

/-- The pair at the head of the text. -/
def pair : Scan Statement := fun cs =>
  match keyPath cs with
  | .error f => .error f
  | .ok (path, '=' :: rest) =>
    match value (2 * rest.length + 2) 0 (dropBlanks rest) with
    | .error f => .error f
    | .ok (node, rest) => (endStatement rest).map (.pair path node, ·)
  | .ok (_, rest) => .error (pairFault rest)

/-- The statement of a line, unless the line holds none. -/
def statement? : Scan (Option Statement)
  | [] => .ok (none, [])
  | c :: rest =>
    if c = '#' ∨ c = '\n' ∨ c = '\r' then (endLine (c :: rest)).map (none, ·)
    else if c = '[' then (inside .tableHeader (header rest)).map fun (s, rest) => (some s, rest)
    else (pair (c :: rest)).map fun (s, rest) => (some s, rest)

/-! ### Putting tables together -/

/-- Where the open table belongs. -/
inductive Place where
  | document
  | header (path : KeyPath)
  | arrayHeader (path : KeyPath)

/-- The keys that lead to the open table. -/
def Place.path : Place → List String
  | document => []
  | header path => path.tables ++ [path.last]
  | arrayHeader path => path.tables ++ [path.last]

/-- A document up to some statement: the complete tables, the open one, and where that belongs. -/
structure Assembly where
  complete : Entries
  current : Entries
  place : Place

namespace Assembly

def start : Assembly := ⟨[], [], .document⟩

/-- Puts the open table to its place. -/
def close (a : Assembly) : Except Clash Entries :=
  match a.place with
  | .document => .ok a.current
  | .header path =>
    (Entries.alter .byHeader
      (fun _ parent => parent.setNew (some path.tables) path.last (.table .written a.current))
      path.tables .written a.complete).map (·.2)
  | .arrayHeader path =>
    (Entries.alter .byHeader
      (fun _ parent =>
        match parent.find? path.last with
        | some (.tables elements) =>
          .ok ((), parent.replace path.last (.tables (elements ++ [a.current])))
        | _ => .error path.clash)
      path.tables .written a.complete).map (·.2)

/-- Opens the table of a header: a new one, or one that only other headers implied, which leaves its
    place. -/
def openHeader (path : KeyPath) (complete : Entries) : Except Clash Assembly :=
  (Entries.alter .byHeader
    (fun _ parent =>
      match parent.find? path.last with
      | none => .ok ([], parent)
      | some (.table .byHeader inner) => .ok (inner, parent.erase path.last)
      | some _ => .error path.clash)
    path.tables .written complete).map fun (inner, complete) => ⟨complete, inner, .header path⟩

/-- Opens the next table of an array of tables, which becomes one if its key is not set. -/
def openArrayHeader (path : KeyPath) (complete : Entries) : Except Clash Assembly :=
  (Entries.alter .byHeader
    (fun _ parent =>
      match parent.find? path.last with
      | none => .ok ((), parent ++ [(path.last, .tables [])])
      | some (.tables _) => .ok ((), parent)
      | some _ => .error path.clash)
    path.tables .written complete).map fun (_, complete) => ⟨complete, [], .arrayHeader path⟩

/-- The document after one more statement. -/
def step (a : Assembly) : Statement → Except Clash Assembly
  | .pair path node =>
    (a.current.setValue (some a.place.path) path node).map fun current => { a with current }
  | .header path =>
    match a.close with
    | .ok complete => openHeader path complete
    | .error clash => .error clash
  | .arrayHeader path =>
    match a.close with
    | .ok complete => openArrayHeader path complete
    | .error clash => .error clash

end Assembly

/-- The fault of a statement that clashes with earlier ones; it stands at the head of the statement. -/
def Statement.fault (clash : Clash) (start : List Char) : Statement → Fault
  | .pair .. => (Fault.here start).because (.clash clash)
  | _ => (Fault.here start).because (.clash clash) |>.within .tableHeader

/-! ### Reading documents -/

/-- The document after the statements of a text of at most `length` characters. -/
def statementsWithin : (length : Nat) → Assembly → List Char → Except Fault Assembly
  | 0, a, _ => .ok a
  | length + 1, a, cs =>
    match dropBlanks cs with
    | [] => .ok a
    | start =>
      match statement? start with
      | .error f => .error f
      | .ok (none, rest) => statementsWithin length a rest
      | .ok (some s, rest) =>
        match a.step s with
        | .error clash => .error (s.fault clash start)
        | .ok a => statementsWithin length a rest

/-- Takes the byte order mark off a text, if it starts with one. -/
def dropMark : List Char → List Char
  | '\uFEFF' :: rest => rest
  | cs => cs

/-- The tables of a text. -/
def entries (text : String) : Except Fault Entries :=
  let cs := dropMark text.toList
  match statementsWithin cs.length .start cs with
  | .error f => .error f
  | .ok a => a.close.mapError fun clash => (Fault.here []).because (.clash clash)

/-- The tree of a text, which is a table, unless the text is not in order. -/
def tree (text : String) : Except Fault (Node Empty) :=
  match entries text with
  | .error f => .error f
  | .ok entries => .ok (.table (entryMembers entries))

end RouteCompiler.Toml
