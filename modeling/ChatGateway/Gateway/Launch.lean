import ChatGateway.Gateway.Handlers
import ChatGateway.Gateway.Lifecycle
import ChatGateway.Gateway.Subagents
import ChatGateway.Scheduling.Executor

/-! # Running a deployment

`Job.program` gives the program of each kind of task, and `Deployment.run` runs a main program
over a deployment on the single-threaded executor with its virtual clock.
-/

namespace ChatGateway

/-- Keeps the outcome of a background start. -/
def Deployment.keepStart (r : Except GatewayError Unit) (d : Deployment) : Deployment :=
  { d with backgroundStart := some r }

/-- **The program of a task.** -/
def Job.program : Job → Act Unit
  | .dispatch n handlers e => Delivery.dispatch n handlers e
  | .handle h e => Handlers.run h e
  | .subagent id => Subagents.run id
  | .heartbeat => Heartbeats.run
  | .gatewayStart => do
    let r ← Lifecycle.start
    Scheduling.Program.modify (Deployment.keepStart r)
  | .gatewayStop => Lifecycle.stop

/-- **Runs a main program over a deployment,** with every task it starts. -/
def Deployment.run {α : Type} (d : Deployment) (main : Act α) :
    Deployment × Scheduling.Executor.Ending α :=
  Scheduling.Executor.run Job.program d main

end ChatGateway
