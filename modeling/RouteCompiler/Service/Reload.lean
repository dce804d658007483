/-!
# Handling reloads

A watcher sends the outcome of each reload into a queue. One loop takes the outcomes out, in order, hands
each of them on and counts it. It ends when it is told to stop, or when the queue is closed and empty, and
returns its count. Sending, closing and stopping can happen at any time, also when the loop has ended, and a
loop that could both stop and go on may do either.
-/

namespace RouteCompiler

/-- The loop and its queue. -/
structure ReloadLoop (α : Type) where
  /-- Sent and not taken yet, the oldest first. -/
  queue : List α
  /-- No more will be sent. -/
  closed : Bool
  /-- The loop has been told to stop. -/
  stopped : Bool
  /-- What has been handed on, in order. -/
  handled : List α
  /-- How many outcomes the loop has counted; this is what it returns. -/
  count : Nat
  /-- The loop has ended. -/
  ended : Bool
deriving DecidableEq, Repr

/-- Something that happens to the loop, or that it does. -/
inductive ReloadEvent (α : Type) where
  | send (a : α)
  | close
  | stop
  /-- The loop takes the oldest outcome and hands it on. -/
  | handle
  /-- The loop ends because it has been told to. -/
  | leaveStopped
  /-- The loop ends because nothing is left, and nothing more will be sent. -/
  | leaveDrained
deriving DecidableEq, Repr

namespace ReloadLoop

variable {α : Type}

/-- The loop before anything has been sent. -/
def start : ReloadLoop α := ⟨[], false, false, [], 0, false⟩

/-- What can happen next. -/
inductive Step : ReloadLoop α → ReloadEvent α → ReloadLoop α → Prop
  | send (s : ReloadLoop α) (a : α) (open_ : s.closed = false) :
      Step s (.send a) { s with queue := s.queue ++ [a] }
  | close (s : ReloadLoop α) : Step s .close { s with closed := true }
  | stop (s : ReloadLoop α) : Step s .stop { s with stopped := true }
  | handle (s : ReloadLoop α) (a : α) (rest : List α) (running : s.ended = false) (next : s.queue = a :: rest) :
      Step s .handle { s with queue := rest, handled := s.handled ++ [a], count := s.count + 1 }
  | leaveStopped (s : ReloadLoop α) (running : s.ended = false) (told : s.stopped = true) :
      Step s .leaveStopped { s with ended := true }
  | leaveDrained (s : ReloadLoop α) (running : s.ended = false) (closed : s.closed = true)
      (empty : s.queue = []) : Step s .leaveDrained { s with ended := true }

/-- The loop when everything in the queue has been handed on. -/
def drain (s : ReloadLoop α) : ReloadLoop α :=
  { s with queue := [], handled := s.handled ++ s.queue, count := s.count + s.queue.length }

end ReloadLoop
end RouteCompiler
