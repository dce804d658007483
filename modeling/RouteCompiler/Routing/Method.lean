import RouteCompiler.Text.Case

/-!
# HTTP methods

Seven methods can be bound to a path. `ANY` is no method but stands for all seven of them.
-/

namespace RouteCompiler

/-- An HTTP method that may be bound to a path. -/
inductive Method where
  | get | post | put | patch | options | head | delete
deriving DecidableEq, Repr, Hashable, Inhabited

/-- A method name outside the supported set, in upper case. -/
structure UnknownMethod where
  name : String
deriving DecidableEq, Repr

namespace Method

/-- Every method, in the order in which methods are listed. -/
def all : List Method := [get, post, put, patch, options, head, delete]

/-- The canonical name, in upper case. -/
def name : Method → String
  | get => "GET"
  | post => "POST"
  | put => "PUT"
  | patch => "PATCH"
  | options => "OPTIONS"
  | head => "HEAD"
  | delete => "DELETE"

/-- The place of the method in `all`. -/
def rank : Method → Nat
  | get => 0
  | post => 1
  | put => 2
  | patch => 3
  | options => 4
  | head => 5
  | delete => 6

theorem mem_all (m : Method) : m ∈ all := by
  cases m <;> decide

theorem rank_lt (m : Method) : m.rank < 7 := by
  cases m <;> decide

theorem rank_inj {m n : Method} : m.rank = n.rank ↔ m = n := by
  cases m <;> cases n <;> decide

/-- The method of a name in any case of ASCII letters. -/
def parse (s : String) : Except UnknownMethod Method :=
  match all.find? (·.name == Text.upper s) with
  | some m => .ok m
  | none => .error ⟨Text.upper s⟩

theorem name_inj {m n : Method} : m.name = n.name ↔ m = n := by
  cases m <;> cases n <;> decide

/-- A text is read as the method of which it is the name, up to the case of ASCII letters. -/
theorem parse_eq_ok_iff {s : String} {m : Method} : parse s = .ok m ↔ Text.upper s = m.name := by
  rw [parse]
  constructor
  · intro h
    split at h
    · rename_i n hn
      obtain rfl : n = m := Except.ok.inj h
      have same := List.find?_some hn
      exact (beq_iff_eq.mp same).symm
    · exact nomatch h
  · intro h
    have found : all.find? (·.name == Text.upper s) = some m := by
      rw [h]
      cases m <;> rfl
    rw [found]

end Method

/-- The method half of a route key: one method, or all of them. -/
inductive RouteMethod where
  | any
  | exact (method : Method)
deriving DecidableEq, Repr, Hashable

namespace RouteMethod

/-- The methods that a route method stands for. -/
def methods : RouteMethod → List Method
  | any => Method.all
  | exact m => [m]

def name : RouteMethod → String
  | any => "ANY"
  | exact m => m.name

/-- `ANY` comes first, then the methods in their order. -/
def rank : RouteMethod → Nat
  | any => 0
  | exact m => m.rank + 1

instance : Ord RouteMethod where
  compare a b := compare a.rank b.rank

end RouteMethod
end RouteCompiler
