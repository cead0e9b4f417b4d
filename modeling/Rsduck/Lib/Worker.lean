import Mathlib.Data.List.Basic
import Mathlib.Tactic.Common

/-!
A worker with a bounded queue: it takes what was accepted, one after the other, until it takes the
word to stop; what is left in the queue then is dropped.
-/

namespace Rsduck.Lib

/-- What a queue holds: something to do, or the word to stop. -/
inductive Message (α : Type)
  | command (c : α)
  | shutdown

def Message.command? {α : Type} : Message α → Option α
  | .command c => some c
  | .shutdown => none

/-- What there is to do in a queue. -/
def commands {α : Type} (q : List (Message α)) : List α := q.filterMap Message.command?

/-- A worker, with what it has accepted, done and dropped so far. -/
structure Worker (α : Type) where
  capacity : ℕ
  queue : List (Message α) := []
  running : Option α := none
  stopped : Bool := false
  accepted : List α := []
  executed : List α := []
  dropped : List α := []

namespace Worker

variable {α : Type}

def isFull (w : Worker α) : Bool := w.capacity ≤ w.queue.length

def post (m : Message α) (w : Worker α) : Worker α :=
  { w with queue := w.queue ++ [m], accepted := w.accepted ++ m.command?.toList }

/-- The worker takes what is first in its queue. -/
def take (w : Worker α) : Option (Worker α) :=
  match w.running, w.queue with
  | none, .command c :: rest => some { w with queue := rest, running := some c }
  | none, .shutdown :: rest =>
    some { w with queue := [], stopped := true, dropped := commands rest }
  | _, _ => none

/-- The worker is through with what it was doing. -/
def finish (w : Worker α) : Option (α × Worker α) :=
  w.running.map fun c => (c, { w with running := none, executed := w.executed ++ [c] })

/-- What was accepted and is still to be done, or under way. -/
def pending (w : Worker α) : List α := w.running.toList ++ commands w.queue

/-- Nothing accepted is lost, done twice or done out of turn. -/
structure InTurn (w : Worker α) : Prop where
  accepted : w.executed ++ w.pending ++ w.dropped = w.accepted
  stopped : w.stopped = true → w.queue = [] ∧ w.running = none
  dropped : w.stopped = false → w.dropped = []

/-- What a step of the worker itself can be. -/
lemma take_eq_some {w w' : Worker α} : w.take = some w' ↔ w.running = none ∧
    ((∃ c rest, w.queue = .command c :: rest ∧ w' = { w with queue := rest, running := some c }) ∨
      ∃ rest, w.queue = .shutdown :: rest ∧
        w' = { w with queue := [], stopped := true, dropped := commands rest }) := by
  unfold take
  rcases w.running with _ | c
  · rcases w.queue with _ | ⟨_ | _, rest⟩
    · simp
    · simp [eq_comm]
    · simp [eq_comm]
  · simp

lemma finish_eq_some {w w' : Worker α} {c : α} : w.finish = some (c, w') ↔
    w.running = some c ∧ w' = { w with running := none, executed := w.executed ++ [c] } := by
  unfold finish
  rcases w.running with _ | d
  · simp
  · simp only [Option.map_some, Option.some.injEq, Prod.mk.injEq]
    constructor
    · rintro ⟨rfl, rfl⟩
      exact ⟨rfl, rfl⟩
    · rintro ⟨rfl, rfl⟩
      exact ⟨rfl, rfl⟩

@[simp] lemma commands_nil : commands ([] : List (Message α)) = [] := rfl

@[simp] lemma commands_cons_command (c : α) (q : List (Message α)) :
    commands (.command c :: q) = c :: commands q := rfl

@[simp] lemma commands_cons_shutdown (q : List (Message α)) :
    commands (.shutdown :: q) = commands q := rfl

lemma pending_post (w : Worker α) (m : Message α) :
    (w.post m).pending = w.pending ++ m.command?.toList := by
  unfold pending post
  cases m with
  | command c => simp [commands, Message.command?]
  | shutdown => simp [commands, Message.command?]

lemma inTurn_new (capacity : ℕ) : InTurn { capacity := capacity : Worker α } :=
  ⟨rfl, fun h => absurd h (by simp), fun _ => rfl⟩

lemma inTurn_post {w : Worker α} (h : w.InTurn) (hrunning : w.stopped = false) (m : Message α) :
    (w.post m).InTurn := by
  have hdropped := h.dropped hrunning
  have haccepted := h.accepted
  rw [hdropped, List.append_nil] at haccepted
  refine ⟨?_, fun hstopped => ?_, fun _ => hdropped⟩
  · rw [pending_post]
    change w.executed ++ (w.pending ++ m.command?.toList) ++ w.dropped =
      w.accepted ++ m.command?.toList
    rw [hdropped, List.append_nil, ← List.append_assoc, haccepted]
  · rw [show (w.post m).stopped = w.stopped from rfl, hrunning] at hstopped
    cases hstopped

lemma running_of_take {w w' : Worker α} (h : w.InTurn) (ht : w.take = some w') :
    w.stopped = false := by
  rcases hstopped : w.stopped with _ | _
  · rfl
  · obtain ⟨-, ⟨c, rest, hqueue, -⟩ | ⟨rest, hqueue, -⟩⟩ := take_eq_some.1 ht
    · rw [(h.stopped hstopped).1] at hqueue
      cases hqueue
    · rw [(h.stopped hstopped).1] at hqueue
      cases hqueue

lemma inTurn_take {w w' : Worker α} (h : w.InTurn) (ht : w.take = some w') : w'.InTurn := by
  have hrunning := running_of_take h ht
  have hdropped := h.dropped hrunning
  have haccepted := h.accepted
  unfold pending at haccepted
  obtain ⟨hidle, ⟨c, rest, hqueue, rfl⟩ | ⟨rest, hqueue, rfl⟩⟩ := take_eq_some.1 ht
  · rw [hidle, hqueue] at haccepted
    refine ⟨haccepted, fun hstopped => ?_, fun _ => hdropped⟩
    rw [hrunning] at hstopped
    cases hstopped
  · rw [hidle, hqueue, hdropped] at haccepted
    refine ⟨?_, fun _ => ⟨rfl, hidle⟩, fun hstopped => by cases hstopped⟩
    unfold pending
    rw [commands_cons_shutdown, List.append_nil] at haccepted
    simpa [hidle] using haccepted

lemma inTurn_finish {w w' : Worker α} {c : α} (h : w.InTurn) (hf : w.finish = some (c, w')) :
    w'.InTurn := by
  obtain ⟨hbusy, rfl⟩ := finish_eq_some.1 hf
  have haccepted := h.accepted
  unfold pending at haccepted
  rw [hbusy] at haccepted
  refine ⟨?_, fun hstopped => ⟨(h.stopped hstopped).1, rfl⟩, h.dropped⟩
  unfold pending
  simpa using haccepted

/-- The worker has stopped, or is going to. -/
def ToStop (w : Worker α) : Prop := w.stopped = true ∨ Message.shutdown ∈ w.queue

lemma toStop_post_shutdown (w : Worker α) : (w.post .shutdown).ToStop :=
  Or.inr (List.mem_append_right _ (List.mem_singleton_self _))

lemma toStop_post_command {w : Worker α} {c : α} : (w.post (.command c)).ToStop ↔ w.ToStop := by
  unfold ToStop post
  simp

lemma toStop_take {w w' : Worker α} (h : w.take = some w') : w'.ToStop ↔ w.ToStop := by
  obtain ⟨-, ⟨c, rest, hqueue, rfl⟩ | ⟨rest, hqueue, rfl⟩⟩ := take_eq_some.1 h
  · unfold ToStop
    simp [hqueue]
  · unfold ToStop
    simp [hqueue]

lemma toStop_finish {w w' : Worker α} {c : α} (h : w.finish = some (c, w')) :
    w'.ToStop ↔ w.ToStop := by
  obtain ⟨-, rfl⟩ := finish_eq_some.1 h
  exact Iff.rfl

end Worker

end Rsduck.Lib
