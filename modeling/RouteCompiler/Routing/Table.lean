import Std.Data.HashMap
import RouteCompiler.Routing.Key
import RouteCompiler.Routing.MethodSet
import RouteCompiler.Routing.Target

/-!
# The route table

The entries of a table are in the order of declaration; a hash index finds the entry of a key. The table
also keeps which methods its routes serve, with `ANY` and the catch-all counted as all of them.
-/

namespace RouteCompiler

/-- One resolved route. -/
structure RouteEntry where
  key : RouteKey
  target : Target
deriving DecidableEq, Repr

/-- An ordered mapping from route keys to targets. -/
structure RouteTable where
  entries : Array RouteEntry
  index : Std.HashMap RouteKey Nat
  /-- Every method that some route serves. -/
  boundMethods : MethodSet

namespace RouteTable

def empty : RouteTable := ⟨#[], ∅, .empty⟩

def size (table : RouteTable) : Nat := table.entries.size

def isEmpty (table : RouteTable) : Bool := table.entries.isEmpty

def contains (table : RouteTable) (key : RouteKey) : Bool := table.index.contains key

/-- The target bound to a key. -/
def get? (table : RouteTable) (key : RouteKey) : Option Target :=
  table.index[key]?.bind fun i => table.entries[i]?.map (·.target)

/-- The keys in the order of declaration. -/
def keys (table : RouteTable) : List RouteKey := table.entries.toList.map (·.key)

/-- The target of the catch-all route, if there is one. -/
def catchAll? (table : RouteTable) : Option Target := table.get? .catchAll

def hasCatchAll (table : RouteTable) : Bool := table.contains .catchAll

/-- Adds a route at the end. The key must not be in the table; whether it may stand beside the others is
    for `bind` to judge. -/
def insert (table : RouteTable) (key : RouteKey) (target : Target) : RouteTable where
  entries := table.entries.push ⟨key, target⟩
  index := table.index.insert key table.entries.size
  boundMethods := table.boundMethods.insertAll key.method.methods

@[simp] theorem entries_insert (table : RouteTable) (key : RouteKey) (target : Target) :
    (table.insert key target).entries.toList = table.entries.toList ++ [⟨key, target⟩] := by
  simp [insert]

@[simp] theorem contains_insert (table : RouteTable) (key k : RouteKey) (target : Target) :
    (table.insert key target).contains k = (key == k || table.contains k) := by
  simp [insert, contains]

end RouteTable
end RouteCompiler
