import RouteCompiler.Routing.Key
import RouteCompiler.Text.Sorted

/-!
# Log events

A pass does not write its log: it returns the events together with its outcome, in the order in which
they arose. What becomes of them is up to the caller.
-/

namespace RouteCompiler

/-- Something worth a line in the log. -/
inductive Event where
  /-- A binding was accepted. -/
  | routeBound (key : RouteKey) (target : String)
  /-- The allowed methods were taken from the bound routes. -/
  | methodsDerived (methods : Text.TextSet)
  /-- A pass succeeded, with this many routes. -/
  | tableCompiled (routes : Nat) (catchAll cors : Bool)
  /-- A watched file was compiled. -/
  | configurationAccepted (path summary : String)
  /-- A watched file cannot be used. -/
  | configurationRejected (path error : String)
deriving DecidableEq

/-- A value with the events that arose on the way to it. -/
structure Logged (α : Type) where
  events : List Event
  value : α

/-- A value that came about silently. -/
def Logged.silent {α : Type} (value : α) : Logged α := ⟨[], value⟩

end RouteCompiler
