import RouteCompiler.Document.Node

/-!
# Reading records

A record is written as a table of its fields, or as the list of their values in the order of the fields.
A field may have several names; giving it twice, under whichever names, is an error. Members that are no
field are passed over.
-/

namespace RouteCompiler.Document

variable {ε : Type}

/-- How the fields of a record are named and read. `Content f` is the type of the field `f`. -/
structure RecordFormat (ε Field : Type) (Content : Field → Type) where
  /-- The record in messages. -/
  title : String
  /-- The fields in their order. -/
  order : List Field
  /-- The name of a field in messages, which is also one of its names in documents. -/
  name : Field → String
  /-- The other names of a field in documents. -/
  otherNames : Field → List String
  read : (f : Field) → Node ε → Reading ε (Content f)

/-- What has been read of a record so far. -/
def Draft {Field : Type} (Content : Field → Type) := (f : Field) → Option (Content f)

namespace Draft

variable {Field : Type} {Content : Field → Type}

def empty : Draft Content := fun _ => none

def set [DecidableEq Field] (draft : Draft Content) (f : Field) (value : Content f) : Draft Content :=
  fun g => if h : f = g then some (h ▸ value) else draft g

@[simp] theorem set_self [DecidableEq Field] (draft : Draft Content) (f : Field) (value : Content f) :
    draft.set f value f = some value := by
  simp [set]

@[simp] theorem set_of_ne [DecidableEq Field] (draft : Draft Content) {f g : Field} (value : Content f)
    (h : f ≠ g) : draft.set f value g = draft g := by
  simp [set, h]

end Draft

namespace RecordFormat

variable {Field : Type} {Content : Field → Type} [DecidableEq Field]

/-- The field of a name. -/
def field? (format : RecordFormat ε Field Content) (key : String) : Option Field :=
  format.order.find? fun f => key == format.name f || (format.otherNames f).contains key

/-- Reads the members of a table into a draft. -/
def readMembers (format : RecordFormat ε Field Content) (draft : Draft Content) :
    Members ε → Reading ε (Draft Content)
  | .done => .ok draft
  | .broken reading _ => .error (.fault reading)
  | .member key value rest =>
    match key with
    | .error e => .error (.fault e)
    | .ok key =>
      match format.field? key with
      | none =>
        match value.pass with
        | .error e => .error (.fault e)
        | .ok () => format.readMembers draft rest
      | some f =>
        if (draft f).isSome then .error (.mismatch [] (.repeatedField (format.name f)))
        else
          match format.read f value with
          | .error e => .error (e.within (.member key))
          | .ok content => format.readMembers (draft.set f content) rest

/-- Reads the items of a list into a draft, one field after the other, and returns what is left. -/
def readItems (format : RecordFormat ε Field Content) (draft : Draft Content) :
    List Field → Items ε → Reading ε (Draft Content × Items ε)
  | [], items => .ok (draft, items)
  | _ :: _, .done => .ok (draft, .done)
  | _ :: _, .broken reading _ _ => .error (.fault reading)
  | f :: fields, .item head rest =>
    match format.read f head with
    | .error e => .error (e.within (.item 0))
    | .ok content => (format.readItems (draft.set f content) fields rest).mapError Problem.behindHead

/-- A list of the fields' values may go on after the last field only if `surplus` is no error. -/
def readEnd (surplus : Option (Problem ε)) : Items ε → Reading ε Unit
  | .done => .ok ()
  | .broken _ _ closing => .error (.fault closing)
  | .item _ _ =>
    match surplus with
    | none => .ok ()
    | some e => .error e

/-- Makes the record of a draft; `make` fails with a field that must be given and is not. -/
def finish {α : Type} (make : Draft Content → Except Field α) (missing : Field → Mismatch)
    (draft : Draft Content) : Reading ε α :=
  match make draft with
  | .ok a => .ok a
  | .error f => .error (.mismatch [] (missing f))

/-- Reads a record from a table of its fields. -/
def readTable {α : Type} (format : RecordFormat ε Field Content) (make : Draft Content → Except Field α)
    (members : Members ε) : Reading ε α :=
  match format.readMembers .empty members with
  | .error e => .error e
  | .ok draft => finish make (fun f => .missingField (format.name f)) draft

/-- The record in messages about its list form. -/
def listTitle (format : RecordFormat ε Field Content) : String :=
  format.title ++ " with " ++ toString format.order.length ++ " elements"

/-- Reads a record from the list of its fields' values. -/
def readList {α : Type} (format : RecordFormat ε Field Content) (make : Draft Content → Except Field α)
    (surplus : Option (Problem ε)) (items : Items ε) : Reading ε α :=
  match format.readItems .empty format.order items with
  | .error e => .error e
  | .ok (draft, rest) =>
    match finish make (fun f => .wrongLength (format.order.idxOf f) format.listTitle) draft with
    | .error e => .error e
    | .ok a => (readEnd surplus rest).map fun () => a

/-- Reads a record in either form. -/
def readRecord {α : Type} (format : RecordFormat ε Field Content) (make : Draft Content → Except Field α)
    (surplus : Option (Problem ε)) : Node ε → Reading ε α
  | .table members => format.readTable make members
  | .list items => format.readList make surplus items
  | node => .error (node.refuse format.title)

end RecordFormat
end RouteCompiler.Document
