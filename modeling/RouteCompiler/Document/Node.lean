import RouteCompiler.Decimal.Layout
import RouteCompiler.Document.Value
import RouteCompiler.Text.Quoted

/-!
# Documents as they are read

A text is first made into a tree that goes as far as the text is in order: where it goes wrong, the tree
has a break that carries the fault. A reader walks the tree in the order of the text and ends at the first
thing it cannot use, a break or a value of the wrong kind, so that of two errors the earlier one is
reported.

What is wrong can depend on what the reader wants. Reading a value is stricter than passing over one that
nobody asked for: a break therefore has one fault for each, and a value can be unfit for reading although
it may be passed over.
-/

namespace RouteCompiler.Document

mutual

/-- A value, as far as the text is in order. `ε` is the type of faults of the notation. -/
inductive Node (ε : Type) where
  | null
  | bool (value : Bool)
  | integer (value : Int)
  | float (value : Float)
  | text (value : String)
  | list (items : Items ε)
  | table (members : Members ε)
  /-- A value that can be passed over like `inner` but not read. -/
  | unfit (fault : ε) (inner : Node ε)
  /-- The text goes wrong here. -/
  | broken (reading passing : ε)

/-- The items of a list. -/
inductive Items (ε : Type) where
  | done
  | item (head : Node ε) (rest : Items ε)
  /-- The list does not go on as it should; `closing` is the fault for a reader who wanted no more items. -/
  | broken (reading passing closing : ε)

/-- The members of a table. A key can be unfit for reading. -/
inductive Members (ε : Type) where
  | done
  | member (key : Except ε String) (value : Node ε) (rest : Members ε)
  | broken (reading passing : ε)

end

mutual

/-- The tree of a value. -/
def Value.node {ε : Type} : Value → Node ε
  | .null => .null
  | .bool b => .bool b
  | .integer n => .integer n
  | .text s => .text s
  | .list vs => .list (valueItems vs)
  | .table ms => .table (valueMembers ms)

/-- The items of a list of values. -/
def valueItems {ε : Type} : List Value → Items ε
  | [] => .done
  | v :: rest => .item v.node (valueItems rest)

/-- The members of a table of values. -/
def valueMembers {ε : Type} : List (String × Value) → Members ε
  | [] => .done
  | (k, v) :: rest => .member (.ok k) v.node (valueMembers rest)

end

/-- `2 ^ 63`: whole numbers of 64 bits with a sign go from its opposite to below it. -/
def signedBound : Nat := 9223372036854775808

/-- What a reader finds in place of what it expects. -/
inductive Found where
  | null
  | bool (value : Bool)
  | integer (value : Int)
  | float (value : Float)
  | text (value : String)
  | list
  | table

/-- The notation's numbers in messages are laid out as `layout` says. -/
def Found.describe (layout : Decimal.Layout) : Found → String
  | null => "null"
  | bool value => "boolean `" ++ toString value ++ "`"
  | integer value => "integer `" ++ toString value ++ "`"
  | float value => "floating point `" ++ layout.text value ++ "`"
  | text value => "string " ++ Text.quoted value
  | list => "sequence"
  | table => "map"

/-- Why a well-formed value cannot be read as what is expected. -/
inductive Mismatch where
  | wrongType (found : Found) (expected : String)
  /-- The kind is right, but the value is out of range. -/
  | wrongValue (found : Found) (expected : String)
  | wrongLength (length : Nat) (expected : String)
  | missingField (name : String)
  | repeatedField (name : String)
  /-- The value has none of the forms of the named choice. -/
  | noVariant (choice : String)

def Mismatch.message (layout : Decimal.Layout) : Mismatch → String
  | wrongType found expected => "invalid type: " ++ found.describe layout ++ ", expected " ++ expected
  | wrongValue found expected => "invalid value: " ++ found.describe layout ++ ", expected " ++ expected
  | wrongLength length expected => "invalid length " ++ toString length ++ ", expected " ++ expected
  | missingField name => "missing field `" ++ name ++ "`"
  | repeatedField name => "duplicate field `" ++ name ++ "`"
  | noVariant choice => "data did not match any variant of untagged enum " ++ choice

/-- A step from a value to one of its parts. -/
inductive Step where
  | member (key : String)
  | item (index : Nat)
deriving DecidableEq, Repr

/-- Why a document cannot be read: its text is not in order, or it holds something else than expected in the
    value to which a path leads. -/
inductive Problem (ε : Type) where
  | fault (fault : ε)
  | mismatch (path : List Step) (mismatch : Mismatch)

namespace Problem

variable {ε : Type}

/-- A problem of a part, seen from the whole. -/
def within (step : Step) : Problem ε → Problem ε
  | fault e => fault e
  | mismatch path m => mismatch (step :: path) m

/-- A problem of a list without its head, seen from the list. -/
def behindHead : Problem ε → Problem ε
  | mismatch (.item index :: path) m => mismatch (.item (index + 1) :: path) m
  | problem => problem

end Problem

/-- The outcome of reading. -/
abbrev Reading (ε α : Type) := Except (Problem ε) α

variable {ε : Type}

/-! ### Passing over and checking -/

mutual

/-- Passes over a value that nobody asked for. -/
def Node.pass : Node ε → Except ε Unit
  | .list items => items.pass
  | .table members => members.pass
  | .unfit _ inner => inner.pass
  | .broken _ passing => .error passing
  | _ => .ok ()

def Items.pass : Items ε → Except ε Unit
  | .done => .ok ()
  | .item head rest =>
    match head.pass with
    | .error e => .error e
    | .ok () => rest.pass
  | .broken _ passing _ => .error passing

def Members.pass : Members ε → Except ε Unit
  | .done => .ok ()
  | .member _ value rest =>
    match value.pass with
    | .error e => .error e
    | .ok () => rest.pass
  | .broken _ passing => .error passing

end

mutual

/-- Reads a whole value of any kind, to see whether it is in order. -/
def Node.check : Node ε → Except ε Unit
  | .list items => items.check
  | .table members => members.check
  | .unfit fault _ => .error fault
  | .broken reading _ => .error reading
  | _ => .ok ()

def Items.check : Items ε → Except ε Unit
  | .done => .ok ()
  | .item head rest =>
    match head.check with
    | .error e => .error e
    | .ok () => rest.check
  | .broken reading _ _ => .error reading

def Members.check : Members ε → Except ε Unit
  | .done => .ok ()
  | .member key value rest =>
    match key with
    | .error e => .error e
    | .ok _ =>
      match value.check with
      | .error e => .error e
      | .ok () => rest.check
  | .broken reading _ => .error reading

end

/-! ### Reading single values -/

namespace Node

/-- Why the value cannot be read as what is expected. -/
def refuse (expected : String) : Node ε → Problem ε
  | null => .mismatch [] (.wrongType .null expected)
  | bool value => .mismatch [] (.wrongType (.bool value) expected)
  | integer value => .mismatch [] (.wrongType (.integer value) expected)
  | float value => .mismatch [] (.wrongType (.float value) expected)
  | text value => .mismatch [] (.wrongType (.text value) expected)
  | list _ => .mismatch [] (.wrongType .list expected)
  | table _ => .mismatch [] (.wrongType .table expected)
  | unfit fault _ => .fault fault
  | broken reading _ => .fault reading

def readText : Node ε → Reading ε String
  | text value => .ok value
  | node => .error (node.refuse "a string")

def readBool : Node ε → Reading ε Bool
  | bool value => .ok value
  | node => .error (node.refuse "a boolean")

/-- Reads a whole number below `2 ^ 64`. -/
def readUInt64 : Node ε → Reading ε UInt64
  | integer value =>
    if 0 ≤ value ∧ value < UInt64.size then .ok (UInt64.ofNat value.toNat)
    else .error (.mismatch [] (.wrongValue (.integer value) "u64"))
  | node => .error (node.refuse "u64")

/-- Reads a value that may be `null`. -/
def readOption {α : Type} (read : Node ε → Reading ε α) : Node ε → Reading ε (Option α)
  | null => .ok none
  | node => (read node).map some

end Node

/-- Reads every item of a list. -/
def Items.readAll {α : Type} (read : Node ε → Reading ε α) : Items ε → Reading ε (List α)
  | .done => .ok []
  | .item head rest =>
    match read head with
    | .error e => .error (e.within (.item 0))
    | .ok a =>
      match rest.readAll read with
      | .error e => .error e.behindHead
      | .ok as => .ok (a :: as)
  | .broken reading _ _ => .error (.fault reading)

def Node.readList {α : Type} (read : Node ε → Reading ε α) : Node ε → Reading ε (List α)
  | .list items => items.readAll read
  | node => .error (node.refuse "a sequence")

/-- Reads a value that may have one of several forms: the value is read as a whole first, and then the
    first form that fits it is taken. -/
def Node.readChoice {α : Type} (choice : String) (forms : List (Node ε → Reading ε α)) (node : Node ε) :
    Reading ε α :=
  match node.check with
  | .error e => .error (.fault e)
  | .ok () =>
    match forms.findSome? fun read => (read node).toOption with
    | some a => .ok a
    | none => .error (.mismatch [] (.noVariant choice))

end RouteCompiler.Document
