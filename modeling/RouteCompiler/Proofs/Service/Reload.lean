import RouteCompiler.Service.Load
import RouteCompiler.Service.Reload

/-! # The order of handled reloads

Whatever happens, and in whichever order, what the loop has handed on and what is still in the queue make up
what was sent (`Sound`). A step keeps this, and so does a run. The course of a run does not look at the
outcomes: with others in their place the same can happen (`Alike`), so that a failed reload is handled like
any other. -/

namespace RouteCompiler
namespace ReloadLoop

variable {α : Type} {s t u : ReloadLoop α} {e : ReloadEvent α} {events later : List (ReloadEvent α)}

/-- A run of steps, with what happens in them. -/
inductive Run : ReloadLoop α → List (ReloadEvent α) → ReloadLoop α → Prop
  | done (s : ReloadLoop α) : Run s [] s
  | step {s t u : ReloadLoop α} {e : ReloadEvent α} {events : List (ReloadEvent α)} (first : Step s e t)
      (rest : Run t events u) : Run s (e :: events) u

theorem Run.append (h : Run s events t) (h' : Run t later u) : Run s (events ++ later) u := by
  induction h with
  | done => exact h'
  | step first _ ih => exact .step first (ih h')

theorem Run.split (h : Run s (events ++ later) u) : ∃ t, Run s events t ∧ Run t later u := by
  induction events generalizing s with
  | nil => exact ⟨s, .done s, h⟩
  | cons e events ih =>
    cases h with
    | step first rest =>
      obtain ⟨t, before, after⟩ := ih rest
      exact ⟨t, .step first before, after⟩

/-! ### What was sent -/

def sentBy : ReloadEvent α → Option α
  | .send a => some a
  | _ => none

/-- The outcomes that are sent in a run, in order. -/
def sent (events : List (ReloadEvent α)) : List α := events.filterMap sentBy

theorem sent_cons (e : ReloadEvent α) (events : List (ReloadEvent α)) :
    sent (e :: events) = (sentBy e).toList ++ sent events := by
  cases h : sentBy e <;> simp [sent, h]

/-- Nothing that was sent is lost, doubled or out of order, the count is right, and the loop has not ended
    without a reason. -/
structure Sound (sent : List α) (s : ReloadLoop α) : Prop where
  kept : s.handled ++ s.queue = sent
  counted : s.count = s.handled.length
  justified : s.ended = true → s.stopped = true ∨ (s.closed = true ∧ s.queue = [])

theorem sound_start : Sound [] (start : ReloadLoop α) := ⟨rfl, rfl, nofun⟩

theorem Sound.step {sofar : List α} (h : Sound sofar s) (hs : Step s e t) : Sound (sofar ++ (sentBy e).toList) t := by
  obtain ⟨kept, counted, justified⟩ := h
  cases hs with
  | send a open_ =>
    refine ⟨by simp [sentBy, ← kept], counted, fun ended => ?_⟩
    rcases justified ended with told | ⟨closed, -⟩
    · exact Or.inl told
    · -- A closed queue takes nothing more.
      rw [open_] at closed
      cases closed
  | close => exact ⟨by simpa [sentBy] using kept, counted, fun ended => (justified ended).imp_right fun h => ⟨rfl, h.2⟩⟩
  | stop => exact ⟨by simpa [sentBy] using kept, counted, fun _ => Or.inl rfl⟩
  | handle a rest running next =>
    refine ⟨by simp [sentBy, ← kept, next], by simp [counted], fun ended => ?_⟩
    rw [running] at ended
    cases ended
  | leaveStopped running told => exact ⟨by simpa [sentBy] using kept, counted, fun _ => Or.inl told⟩
  | leaveDrained running closed empty =>
    exact ⟨by simpa [sentBy] using kept, counted, fun _ => Or.inr ⟨closed, empty⟩⟩

theorem Sound.run {sofar : List α} (h : Sound sofar s) (hr : Run s events t) : Sound (sofar ++ sent events) t := by
  induction hr generalizing sofar with
  | done => simpa [sent] using h
  | step first _ ih =>
    have := ih (h.step first)
    rwa [List.append_assoc, ← sent_cons] at this

theorem Sound.handled_eq_take {sofar : List α} (h : Sound sofar s) : s.handled = sofar.take s.count := by
  rw [← h.kept, h.counted, List.take_left]

theorem Sound.queue_eq_drop {sofar : List α} (h : Sound sofar s) : s.queue = sofar.drop s.count := by
  rw [← h.kept, h.counted, List.drop_left]

/-! ### After the end -/

/-- A loop that has ended does nothing more, though outcomes may still be sent. -/
theorem Step.of_ended (h : Step s e t) (ended : s.ended = true) :
    e ≠ .handle ∧ t.ended = true ∧ t.handled = s.handled ∧ t.count = s.count := by
  cases h with
  | send | close | stop => exact ⟨nofun, ended, rfl, rfl⟩
  | handle _ _ running | leaveStopped running | leaveDrained running =>
    rw [running] at ended
    cases ended

theorem Run.of_ended (h : Run s events t) (ended : s.ended = true) :
    .handle ∉ events ∧ t.handled = s.handled ∧ t.count = s.count := by
  induction h with
  | done => exact ⟨List.not_mem_nil, rfl, rfl⟩
  | step first _ ih =>
    obtain ⟨other, ended', handled, count⟩ := first.of_ended ended
    obtain ⟨none, handled', count'⟩ := ih ended'
    refine ⟨fun hm => ?_, handled'.trans handled, count'.trans count⟩
    rcases List.mem_cons.mp hm with rfl | hm
    · exact other rfl
    · exact none hm

/-- What happens when the loop leaves, with or without having been told to. -/
theorem Step.of_leave (h : Step s e t) (leaves : e = .leaveStopped ∨ e = .leaveDrained) :
    t = { s with ended := true } := by
  rcases leaves with rfl | rfl <;> cases h <;> rfl

/-! ### Other outcomes in the same course -/

/-- What happens, without the outcome that is sent. -/
def shape : ReloadEvent α → ReloadEvent Unit
  | .send _ => .send ()
  | .close => .close
  | .stop => .stop
  | .handle => .handle
  | .leaveStopped => .leaveStopped
  | .leaveDrained => .leaveDrained

/-- The loops are at the same point, with other outcomes. -/
structure Alike (s t : ReloadLoop α) : Prop where
  queue : t.queue.length = s.queue.length
  closed : t.closed = s.closed
  stopped : t.stopped = s.stopped
  count : t.count = s.count
  ended : t.ended = s.ended

theorem Alike.refl (s : ReloadLoop α) : s.Alike s := ⟨rfl, rfl, rfl, rfl, rfl⟩

theorem Alike.step {s' : ReloadLoop α} {e' : ReloadEvent α} (h : s.Alike s') (hs : Step s e t)
    (he : shape e' = shape e) : ∃ t', Step s' e' t' ∧ t.Alike t' := by
  obtain ⟨queue, closed, stopped, count, ended⟩ := h
  cases hs with
  | send a open_ =>
    cases e' with
    | send b => exact ⟨_, .send s' b (closed.trans open_), by simpa using queue, closed, stopped, count, ended⟩
    | _ => cases he
  | close =>
    cases e' with
    | close => exact ⟨_, .close s', queue, rfl, stopped, count, ended⟩
    | _ => cases he
  | stop =>
    cases e' with
    | stop => exact ⟨_, .stop s', queue, closed, rfl, count, ended⟩
    | _ => cases he
  | handle a rest running next =>
    cases e' with
    | handle =>
      rw [next, List.length_cons] at queue
      obtain ⟨b, rest', next'⟩ := List.exists_cons_of_length_eq_add_one queue
      rw [next', List.length_cons, Nat.add_right_cancel_iff] at queue
      exact ⟨_, .handle s' b rest' (ended.trans running) next', queue, closed, stopped, by simp [count], ended⟩
    | _ => cases he
  | leaveStopped running told =>
    cases e' with
    | leaveStopped =>
      exact ⟨_, .leaveStopped s' (ended.trans running) (stopped.trans told), queue, closed, stopped, count, rfl⟩
    | _ => cases he
  | leaveDrained running closed_ empty =>
    cases e' with
    | leaveDrained =>
      have empty' : s'.queue = [] := List.eq_nil_of_length_eq_zero (by rw [queue, empty, List.length_nil])
      exact ⟨_, .leaveDrained s' (ended.trans running) (closed.trans closed_) empty', queue, closed, stopped, count,
        rfl⟩
    | _ => cases he

theorem Alike.run {s' : ReloadLoop α} {others : List (ReloadEvent α)} (h : s.Alike s') (hr : Run s events t)
    (he : others.map shape = events.map shape) : ∃ t', Run s' others t' ∧ t.Alike t' := by
  induction hr generalizing s' others with
  | done =>
    obtain rfl := List.map_eq_nil_iff.mp he
    exact ⟨s', .done s', h⟩
  | step first _ ih =>
    obtain ⟨e', others', rfl, hfirst, hrest⟩ := List.map_eq_cons_iff.mp he
    obtain ⟨u', step', alike⟩ := h.step first hfirst
    obtain ⟨t', run', alike'⟩ := ih alike hrest
    exact ⟨t', .step step' run', alike'⟩

/-! ### Draining -/

/-- Handing on everything in the queue is a run of the loop. -/
theorem run_drain (s : ReloadLoop α) (running : s.ended = false) :
    Run s (List.replicate s.queue.length .handle) s.drain := by
  obtain ⟨queue, closed, stopped, handled, count, ended⟩ := s
  obtain rfl : ended = false := running
  induction queue generalizing handled count with
  | nil =>
    simpa [drain] using Run.done (⟨[], closed, stopped, handled, count, false⟩ : ReloadLoop α)
  | cons a rest ih =>
    have := ih (handled ++ [a]) (count + 1)
    simp only [drain, List.append_assoc, List.singleton_append, Nat.add_assoc, Nat.add_comm 1] at this
    exact .step (.handle _ a rest rfl rfl) this

end ReloadLoop

/-- The outcome of a reload. -/
abbrev Reload := Except LoadError ServiceConfig

open ReloadLoop in
/-- In every run, whatever happens in whichever order, the loop has handed on the first outcomes that were
    sent, as many as it has counted, and the others are in the queue, all in the order in which they were
    sent. It ends only when it has been told to stop, or when the queue is closed and empty; so if it has not
    been told, it ends with everything handled. Once it has left it hands on and counts nothing more. A failed
    reload is handled and the loop goes on; the same can happen with any other outcomes in the place of those
    that were sent, and as many of them are then handled. -/
theorem reloads_in_order {events : List (ReloadEvent Reload)} {s : ReloadLoop Reload} (h : Run start events s) :
    s.handled = (sent events).take s.count ∧ s.handled.length = s.count ∧ s.queue = (sent events).drop s.count ∧
    (s.ended = true → s.stopped = true ∨ (s.closed = true ∧ s.queue = [])) ∧
    (s.ended = true → s.stopped = false → s.handled = sent events) ∧
    (∀ before leave after, events = before ++ leave :: after → leave = .leaveStopped ∨ leave = .leaveDrained →
      .handle ∉ after ∧ ∃ r, Run start before r ∧ r.handled = s.handled ∧ r.count = s.count ∧
        (r.stopped = true ∨ (r.closed = true ∧ r.queue = []))) ∧
    (∀ (error : LoadError) (rest : List Reload), s.ended = false → s.queue = .error error :: rest →
      Step s .handle { s with queue := rest, handled := s.handled ++ [.error error], count := s.count + 1 }) ∧
    ∀ others : List (ReloadEvent Reload), others.map shape = events.map shape →
      ∃ t, Run start others t ∧ t.count = s.count ∧ t.ended = s.ended ∧ t.handled = (sent others).take s.count ∧
        t.queue = (sent others).drop s.count := by
  have sound : Sound (sent events) s := by simpa using sound_start.run h
  refine ⟨sound.handled_eq_take, sound.counted.symm, sound.queue_eq_drop, sound.justified, ?_, ?_, ?_, ?_⟩
  · intro ended untold
    rcases sound.justified ended with told | ⟨-, empty⟩
    · rw [untold] at told
      cases told
    · rw [← sound.kept, empty, List.append_nil]
  · rintro before leave after rfl leaves
    obtain ⟨r, hbefore, hafter⟩ := h.split
    cases hafter with
    | step first rest =>
      have left := first.of_leave leaves
      obtain ⟨silent, handled, count⟩ := rest.of_ended (by rw [left])
      rw [left] at handled count
      refine ⟨silent, r, hbefore, handled.symm, count.symm, ?_⟩
      rcases leaves with rfl | rfl
      · cases first with
        | leaveStopped _ told => exact Or.inl told
      · cases first with
        | leaveDrained _ closed empty => exact Or.inr ⟨closed, empty⟩
  · intro error rest running next
    exact .handle s _ rest running next
  · intro others same
    obtain ⟨t, hrun, alike⟩ := (Alike.refl start).run h same
    have sound' : Sound (sent others) t := by simpa using sound_start.run hrun
    refine ⟨t, hrun, alike.count, alike.ended, ?_, ?_⟩
    · rw [sound'.handled_eq_take, alike.count]
    · rw [sound'.queue_eq_drop, alike.count]

open ReloadLoop in
/-- A failed reload and a good one are sent, the queue is closed, both are handled and the loop ends; a third
    outcome of a run that is told to stop stays in the queue. -/
theorem reloads_in_order_of_failure :
    let failed : Reload := .error (.invalid [.emptyFunctionName 0])
    let good : Reload := .ok ⟨"shop", ⟨none⟩, []⟩
    (∃ s, Run start [.send failed, .send good, .close, .handle, .handle, .leaveDrained] s ∧ s.ended = true ∧
      s.handled = [failed, good]) ∧
    ∃ s, Run start [.send failed, .stop, .handle, .send good, .leaveStopped, .send failed] s ∧ s.count = 1 ∧
      s.handled = [failed] ∧ s.queue = [good, failed] := by
  intro failed good
  constructor
  · have drained := run_drain (⟨[failed, good], true, false, [], 0, false⟩ : ReloadLoop Reload) rfl
    have h : Run start [.send failed, .send good, .close, .handle, .handle, .leaveDrained] _ :=
      .step (.send _ failed rfl) (.step (.send _ good rfl) (.step (.close _)
        (drained.append (.step (.leaveDrained _ rfl rfl rfl) (.done _)))))
    exact ⟨_, h, rfl, (reloads_in_order h).2.2.2.2.1 rfl rfl⟩
  · have h : Run start [.send failed, .stop, .handle, .send good, .leaveStopped, .send failed] _ :=
      .step (.send _ failed rfl) (.step (.stop _) (.step (.handle _ failed [] rfl rfl) (.step (.send _ good rfl)
        (.step (.leaveStopped _ rfl rfl) (.step (.send _ failed rfl) (.done _))))))
    obtain ⟨handled, -, queue, -⟩ := reloads_in_order h
    exact ⟨_, h, rfl, handled, queue⟩

end RouteCompiler
