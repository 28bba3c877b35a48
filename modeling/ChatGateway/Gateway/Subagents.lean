import ChatGateway.Gateway.AgentRun
import ChatGateway.Gateway.Delivery

/-! # Running sub-agents

A sub-agent task runs the agent loop on its task text with the sub-agent tools (which never
include the sub-agent tool itself), raced against the manager's time limit, inside a panic
boundary. It then settles exactly once:

* completed with the final text, or with `noFinalResponse` when the text is
  missing or empty;
* failed with the model's error, `Sub-agent timed out`, or `Sub-agent panicked`.

The table then drops the oldest settled tasks beyond the retention limit, and the completion
callback sees the settled record. A callback that fails or panics is reported as an incident;
the announcing callback publishes the record's announcement and waits until it is handled, and
fails when the bus is closed.
-/

namespace ChatGateway

open Scheduling.Program (update modify read catching within)

namespace Subagents

/-- The system prompt of every sub-agent. -/
def systemPrompt : String :=
  "You are a sub-agent spawned to handle a specific task in the background. " ++
    "Complete the task thoroughly and return a clear, self-contained result. " ++
    "Nobody will see intermediate output."

/-- The result of a run that ended without text. -/
def noFinalResponse : String :=
  "Sub-agent reached its iteration limit without a final response."

/-- The error of a run that ran out of time. -/
def timedOut : String := "Sub-agent timed out"

/-- The error of a run that panicked. -/
def panicked : String := "Sub-agent panicked"

/-- **How a run settles its task.** -/
def outcomeOf (r : Except String (Option (Except String RunResult))) : Except String String :=
  match r with
  | .ok (some (.ok res)) =>
    .ok ((res.text.filter fun t => !t.isEmpty).getD noFinalResponse)
  | .ok (some (.error e)) => .error e
  | .ok none => .error timedOut
  | .error _ => .error panicked

/-- **The announcing callback:** reports a settled task to its chat. -/
def announce (t : SubagentTask) : Act (Except String Unit) := do
  let closed ← read (·.bus.closed)
  if closed then pure (.error ("bus closed, cannot announce task " ++ t.id))
  else
    let delivery ← Delivery.publish (.outbound t.announcement)
    delivery.settled
    pure (.ok ())

/-- Runs a completion callback on a settled task. -/
def callback (c : CompletionCallback) (t : SubagentTask) : Act (Except String Unit) :=
  match c with
  | .announce => announce t
  | .panic => .panic "completion callback panicked"
  | .fail m => pure (.error m)

/-- **Settles a task** with the outcome of its run and evicts the oldest settled tasks beyond
the retention limit; the settled record, if the task was there. -/
def settle (id : String) (r : Except String (Option (Except String RunResult))) (d : Deployment) :
    Deployment × Option SubagentTask :=
  match d.subagents with
  | none => (d, none)
  | some m =>
    let (table, settled) := m.table.settle id (outcomeOf r)
    ({ d with subagents := some { m with table := table.evict m.budget.maxRetained } }, settled)

/-- **Tells the completion callback about a settled task,** when there is a callback and the
task was there to settle; a callback that fails or panics is an incident. -/
def notify (id : String) : Option SubagentTask → Option CompletionCallback → Act Unit
  | some record, some c => do
    let r ← catching (callback c record)
    match r with
    | .ok (.ok ()) => pure ()
    | .ok (.error e) => modify (·.observe (.completionCallbackFailed id e))
    | .error _ => modify (·.observe (.completionCallbackFailed id "completion callback panicked"))
  | _, _ => pure ()

/-- **Settles a task with the outcome of its run,** then tells the callback. -/
def finish (id : String) (c : Option CompletionCallback)
    (r : Except String (Option (Except String RunResult))) : Act Unit := do
  let settled ← update (settle id r)
  notify id settled c

/-- **A sub-agent task,** from start to its callback. -/
def run (id : String) : Act Unit := do
  let manager ← read (·.subagents)
  match manager with
  | none => pure ()
  | some m =>
    match m.table.get? id with
    | none => pure ()
    | some t => do
      let r ← catching (within m.budget.timeoutMs
        (AgentRun.run m.tools systemPrompt t.task m.budget.maxIterations none))
      finish id m.callback r

end Subagents

end ChatGateway
