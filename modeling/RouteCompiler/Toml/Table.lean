import RouteCompiler.Document.Node
import RouteCompiler.Toml.Key

/-!
# Tables of TOML

A table comes about in one of three ways: it is written out (the document itself, a table in braces, or
under a header of its own), it is implied by the header of a table inside it, or it is implied by a dotted
key. How it came about decides what may be added to it later:

* a header may name a table that only other headers implied, and makes it a written one;
* a dotted key may lead through implied tables, but not through written ones;
* a key may be set once.
-/

namespace RouteCompiler.Toml

open Document

/-- How a table came about. -/
inductive Origin where
  | written | byHeader | byKey
deriving DecidableEq, Repr

/-- What a key of a table stands for. The tables of an array of tables are in order. -/
inductive Entry where
  | value (node : Node Empty)
  | table (origin : Origin) (entries : List (String × Entry))
  | tables (elements : List (List (String × Entry)))

/-- The entries of a table, in the order in which their keys were first set. -/
abbrev Entries := List (String × Entry)

/-- The member under which a date or time is kept. -/
def dateTimeKey : String := "$__toml_private_datetime"

/-- The kind of a value; TOML has no value that is `null`. -/
def kind : Node Empty → Kind
  | .text _ => .string
  | .integer _ => .integer
  | .float _ => .float
  | .bool _ => .boolean
  | .list _ => .array
  | .table (.member (.ok key) (.text _) .done) => if key = dateTimeKey then .datetime else .inlineTable
  | _ => .inlineTable

/-- A clash in a table in braces: there a key that leads to such a table is taken. -/
def Clash.inBraces : Clash → Clash
  | .notTable path .inlineTable => .duplicate (path.getLast?.getD "") none
  | clash => clash

namespace Entries

def find? (entries : Entries) (k : String) : Option Entry := entries.lookup k

/-- Sets the entry of a key that is there. -/
def replace (entries : Entries) (k : String) (entry : Entry) : Entries :=
  entries.map fun (k', e) => if k' = k then (k', entry) else (k', e)

/-- Removes the entry of a key. -/
def erase (entries : Entries) (k : String) : Entries := entries.filter (·.1 ≠ k)

/-- Changes the table that a path of keys leads to, with a result. Keys on the way that are not set become
    tables that are implied by a dotted key or by a header (`via`); of an array of tables, the path leads
    to the last one. Dotted keys do not lead through written tables. -/
def alter {α : Type} (via : Origin) (change : Origin → Entries → Except Clash (α × Entries)) :
    List String → Origin → Entries → Except Clash (α × Entries)
  | [], origin, entries => change origin entries
  | k :: path, _, entries =>
    match entries.find? k with
    | none =>
      (alter via change path via []).mapError (Clash.behind k) |>.map fun (a, inner) =>
        (a, entries ++ [(k, .table via inner)])
    | some (.table origin inner) =>
      if via = .byKey ∧ origin = .written then .error (.duplicate k none)
      else
        (alter via change path origin inner).mapError (Clash.behind k) |>.map fun (a, inner) =>
          (a, entries.replace k (.table origin inner))
    | some (.tables elements) =>
      match elements.getLast? with
      | none => .error (.duplicate k none)
      | some last =>
        (alter via change path .written last).mapError (Clash.behind k) |>.map fun (a, last) =>
          (a, entries.replace k (.tables (elements.dropLast ++ [last])))
    | some (.value node) => .error (.notTable [k] (kind node))

/-- Sets a key that is not set; `table` says which table this is, if that is to be told. -/
def setNew (table : Option (List String)) (k : String) (entry : Entry) (entries : Entries) :
    Except Clash (Unit × Entries) :=
  if (entries.find? k).isSome then .error (.duplicate k table) else .ok ((), entries ++ [(k, entry)])

/-- Sets the value of a key. A dotted key adds to a table that a dotted key implied, and to no other. -/
def setValue (table : Option (List String)) (path : KeyPath) (node : Node Empty) (entries : Entries) :
    Except Clash Entries :=
  (alter .byKey
    (fun origin inner =>
      if (origin == .byKey) == !path.tables.isEmpty then setNew table path.last (.value node) inner
      else .error (.duplicate path.last none))
    path.tables .written entries).map (·.2)

end Entries

mutual

/-- The node of an entry. -/
def Entry.node : Entry → Node Empty
  | .value node => node
  | .table _ entries => .table (entryMembers entries)
  | .tables elements => .list (elementItems elements)

/-- The members of a table. -/
def entryMembers : List (String × Entry) → Members Empty
  | [] => .done
  | (k, e) :: rest => .member (.ok k) e.node (entryMembers rest)

/-- The tables of an array of tables. -/
def elementItems : List (List (String × Entry)) → Items Empty
  | [] => .done
  | element :: rest => .item (.table (entryMembers element)) (elementItems rest)

end

end RouteCompiler.Toml
