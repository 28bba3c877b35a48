import ChatGateway.Proofs.Scheduling.Seen
import ChatGateway.Gateway.Launch

/-! # Calls that end within one poll

Publishing an event, and starting or cancelling the heartbeat's timer loop, never wait: one poll
of them ends with their value. Their poll equations say what they leave behind, so that a frame
can admit each of them as one step.

* `Delivery.poll_publish`: on an open bus a publish takes the next dispatch number and starts one
  dispatcher task with the handlers subscribed to the event's topic at that moment; the handler
  count is their number. A closed bus starts nothing and counts no handler.
* `Heartbeats.poll_start`, `Heartbeats.poll_stop`: the timer loop is started only when it does not
  run and the bus is open, and its task is remembered; stopping forgets the task and cancels it.
-/

namespace ChatGateway

open Scheduling Scheduling.Executor

/-- The executor of a deployment. -/
abbrev Exec := Executor Job Deployment

namespace Delivery

/-- **The executor after an event is published on an open bus:** the next dispatch number is
taken and the dispatcher of the topic's current handlers is started. -/
def published (ex : Exec) (e : BusEvent) : Exec :=
  let ex₁ : Exec := { ex with shared := { ex.shared with nextDispatch := ex.shared.nextDispatch + 1 } }
  (ex₁.spawnTask (.dispatch ex.shared.nextDispatch (ex.shared.bus.handlersOf e.topic) e)).1

/-- **A publish ends within one poll.** On a closed bus it changes nothing and reports no
handler; on an open bus it starts the dispatcher of the handlers subscribed to the topic now. -/
theorem poll_publish (me : Nat) (ex : Exec) (e : BusEvent) :
    poll me ex (publish e) =
      if ex.shared.bus.closed then (ex, .pure {})
      else (published ex e, .pure ⟨(ex.shared.bus.handlersOf e.topic).length,
        some (ex.tasks.size, ex.shared.nextDispatch)⟩) := by
  unfold publish
  by_cases hclosed : ex.shared.bus.closed = true
  · simp only [Program.bind_def, Program.pure_def, Scheduling.Program.update, Program.bind, poll,
      hclosed, if_true]
  · simp only [Program.bind_def, Program.pure_def, Scheduling.Program.update,
      Scheduling.Program.fork, Program.bind, poll, hclosed, Bool.false_eq_true, if_false]
    rfl

end Delivery

namespace Heartbeats

/-- Whether the executor runs the heartbeat's timer loop: its remembered task has not ended. -/
def runningIn (ex : Exec) : Bool :=
  match ex.shared.heartbeat.bind (·.task) with
  | none => false
  | some t => !(ex.outcome? t).isSome

/-- **The executor after the timer loop is started:** a heartbeat task is spawned and
remembered. -/
def started (ex : Exec) : Exec :=
  let r := ex.spawnTask .heartbeat
  { r.1 with shared := { r.1.shared with
      heartbeat := r.1.shared.heartbeat.map fun h => { h with task := some r.2 } } }

/-- **A start of the heartbeat service ends within one poll:** a running loop or a closed bus
leaves the executor as it is; otherwise the loop is started. -/
theorem poll_start (me : Nat) (ex : Exec) :
    poll me ex start =
      if runningIn ex then (ex, .pure (.ok ()))
      else if ex.shared.bus.closed then (ex, .pure (.error "event bus is closed"))
      else (started ex, .pure (.ok ())) := by
  unfold start isRunning runningIn
  cases htask : ex.shared.heartbeat.bind (·.task) with
  | none =>
    by_cases hclosed : ex.shared.bus.closed = true
    · simp only [Program.bind_def, Program.pure_def, Scheduling.Program.read, Program.bind, poll,
        htask, hclosed, if_true, Bool.false_eq_true, if_false]
    · simp only [Program.bind_def, Program.pure_def, Scheduling.Program.read,
        Scheduling.Program.fork, Scheduling.Program.modify, Program.bind, poll, htask, hclosed,
        Bool.false_eq_true, if_false]
      rfl
  | some t =>
    by_cases hdone : (ex.outcome? t).isSome = true
    · by_cases hclosed : ex.shared.bus.closed = true
      · simp only [Program.bind_def, Program.pure_def, Scheduling.Program.read, Program.bind,
          poll, htask, hdone, hclosed, Bool.not_true, Bool.false_eq_true, if_false, if_true]
      · simp only [Program.bind_def, Program.pure_def, Scheduling.Program.read,
          Scheduling.Program.fork, Scheduling.Program.modify, Program.bind, poll, htask, hdone,
          hclosed, Bool.not_true, Bool.false_eq_true, if_false]
        rfl
    · simp only [Program.bind_def, Program.pure_def, Scheduling.Program.read, Program.bind, poll,
        htask, hdone, Bool.not_false, if_true]

/-- The executor once the deployment forgets the heartbeat's timer loop. -/
def forgotten (ex : Exec) : Exec :=
  { ex with shared := { ex.shared with
    heartbeat := ex.shared.heartbeat.map fun h => { h with task := none } } }

/-- **The executor after the heartbeat service is stopped:** the remembered task is forgotten
and cancelled. -/
def stopped (ex : Exec) : Exec :=
  match ex.shared.heartbeat.bind (·.task) with
  | some t => (forgotten ex).abortTask t
  | none => forgotten ex

/-- **A stop of the heartbeat service ends within one poll** and always succeeds. -/
theorem poll_stop (me : Nat) (ex : Exec) : poll me ex stop = (stopped ex, .pure (.ok ())) := by
  unfold stop stopped forgotten
  cases htask : ex.shared.heartbeat.bind (·.task) with
  | none =>
    simp only [Program.bind_def, Program.pure_def, Scheduling.Program.update, Program.bind, poll,
      htask]
  | some t =>
    simp only [Program.bind_def, Program.pure_def, Scheduling.Program.update, Program.bind, poll,
      htask]

end Heartbeats

end ChatGateway
