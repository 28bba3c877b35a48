import ChatGateway.Gateway.Reasoning
import ChatGateway.Gateway.Delivery

/-! # The heartbeat service

A heartbeat asks the reasoning engine, on a timer, whether anything needs the user's attention,
and delivers the answer unless it only acknowledges.

* `Heartbeats.tick` runs one heartbeat: outside the active window, read on the deployment's wall
  clock in the plan's zone, it does nothing; otherwise it
  sends the prompt to the engine as a message from `heartbeat` marked `heartbeat: true`, and
  publishes the reply to the delivery target, without the acknowledgment token, marked
  `heartbeat: true` and carrying the reply's other metadata, unless the reply is a bare
  acknowledgment.
* `Heartbeats.loop` ticks on the grid of `HeartbeatPlan.nextTick`, the first tick one interval
  after the start, one `Heartbeats.timerRound` after another with no bound on their number; it
  ends when it finds the bus closed at a tick, and a failed tick is an incident of the service.
* `Heartbeats.start` starts the loop unless it runs, and refuses a closed bus; `stop` cancels it.
-/

namespace ChatGateway

open Scheduling.Program (update modify read now fork)

/-- **What one heartbeat did.** -/
inductive HeartbeatOutcome where
  | outsideActiveHours
  | suppressed
  | delivered (m : OutboundMessage)
  deriving Repr

namespace Heartbeats

/-- The sender of heartbeat messages, and the name of the service. -/
def sender : String := "heartbeat"

/-- The outbound message of a reply: stripped text, the reply's media, and its metadata
under the heartbeat mark. -/
def deliveryOf (plan : HeartbeatPlan) (r : EngineReply) (text : String) : OutboundMessage :=
  let o : OutboundMessage :=
    { channel := plan.target.channel, chatId := plan.target.chatId, content := text,
      media := r.media }
  let o := o.withMetadata "heartbeat" (.bool true)
  let metadata := r.metadata.foldl (fun acc (k, v) =>
    if (Json.lookupField k acc).isSome then acc else Json.insertField k v acc) o.metadata
  { o with metadata }

/-- **Runs one heartbeat** with a plan: the window is read on the wall clock, in the plan's zone. -/
def tick (plan : HeartbeatPlan) : Act (Except String HeartbeatOutcome) := do
  let t ← now
  let minute ← read fun (d : Deployment) => d.wallClock.minuteOf plan.zone t
  if !plan.window.contains minute.val then pure (.ok .outsideActiveHours)
  else
    let m : InboundMessage :=
      { channel := plan.target.channel, chatId := plan.target.chatId, senderId := sender,
        content := plan.prompt }
    let reply ← Reasoning.process (m.withMetadata "heartbeat" (.bool true))
    match reply with
    | .error e => pure (.error e)
    | .ok r =>
      let check := Heartbeat.stripAck r.text plan.ackMaxChars
      if check.shouldSkip then pure (.ok .suppressed)
      else
        let o := deliveryOf plan r check.text
        let _ ← Delivery.publish (.outbound o)
        pure (.ok (.delivered o))

/-- **One round of the timer loop,** for the tick due at `due`: it waits for the deadline, ends the
loop when it finds the bus closed, and otherwise ticks, reports a failed tick as an incident of
the service, and gives the deadline of the next round. -/
def timerRound (plan : HeartbeatPlan) (due : Nat) : Act (Nat ⊕ Unit) := do
  .sleepUntil due none pure
  let t ← now
  let closed ← read (·.bus.closed)
  if closed then pure (.inr ())
  else
    let r ← tick plan
    match r with
    | .error e => modify (·.observe (.serviceFailed sender "tick" e))
    | .ok _ => pure ()
    pure (.inl (HeartbeatPlan.nextTick plan.everyMs due t))

/-- **The timer loop,** from the tick due at `due`, round after round until the bus is closed. -/
def loop (plan : HeartbeatPlan) (due : Nat) : Act Unit :=
  Scheduling.Program.iterate (timerRound plan) due

/-- **The heartbeat task:** the loop of the deployment's plan, starting now. -/
def run : Act Unit := do
  let hb ← read (·.heartbeat)
  match hb with
  | none => pure ()
  | some h => do
    let t ← now
    loop h.plan (t + h.plan.everyMs)

/-- **Whether the timer loop runs.** -/
def isRunning : Act Bool := do
  let task ← read fun (d : Deployment) => d.heartbeat.bind (·.task)
  match task with
  | none => pure false
  | some t => do
    let done ← .finished t pure
    pure !done

/-- **Starts the timer loop** unless it runs; a closed bus refuses. -/
def start : Act (Except String Unit) := do
  let running ← isRunning
  if running then pure (.ok ())
  else
    let closed ← read (·.bus.closed)
    if closed then pure (.error "event bus is closed")
    else
      let task ← fork .heartbeat
      modify fun (d : Deployment) =>
        { d with heartbeat := d.heartbeat.map fun h => { h with task := some task } }
      pure (.ok ())

/-- **Cancels the timer loop.** -/
def stop : Act (Except String Unit) := do
  let task ← update fun (d : Deployment) =>
    ({ d with heartbeat := d.heartbeat.map fun h => { h with task := none } },
      d.heartbeat.bind (·.task))
  match task with
  | some t => .abort t pure
  | none => pure ()
  pure (.ok ())

end Heartbeats

end ChatGateway
