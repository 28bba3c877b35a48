import ChatGateway.Agent.Script
import ChatGateway.Agent.Tool
import ChatGateway.Bus.Registry
import ChatGateway.Channel.Manager
import ChatGateway.Engine.Script
import ChatGateway.Gateway.Error
import ChatGateway.Heartbeat.Schedule
import ChatGateway.Scheduling.Program
import ChatGateway.Subagent.Table

/-! # A deployment of the gateway

A `Deployment` is the state of one running gateway and everything wired to it: the event bus,
the observer's incidents, the channels, the bus adapter and its per-chat locks, the reasoning
engine and the scripted model behind it, the tools, the sub-agent manager, the heartbeat
service, a scripted cron service, and the gateway's lifecycle.

The work of a deployment is written as programs of `Act`, cooperative programs over the
deployment whose tasks are named by a `Job`: delivering one event to its handlers, running one
handler, running one sub-agent, the heartbeat timer loop, and a gateway start or stop in the
background.
-/

namespace ChatGateway

/-- **The lifecycle state of the gateway.** -/
inductive GatewayState where
  | stopped
  | starting
  | running
  | stopping
  deriving Repr, DecidableEq, BEq

/-- The snake_case name of a gateway state. -/
def GatewayState.name : GatewayState → String
  | .stopped => "stopped"
  | .starting => "starting"
  | .running => "running"
  | .stopping => "stopping"

/-- **The gateway's lifecycle:** its state, and whether a stop came in while it was starting. -/
structure Lifecycle where
  state : GatewayState := .stopped
  stopRequested : Bool := false
  deriving Repr

/-- **A scripted background service** with a lifecycle and scripted delays and failures. -/
structure ScriptedService where
  name : String := "cron"
  failStart : Option String := none
  failStop : Option String := none
  startDelayMs : Nat := 0
  stopDelayMs : Nat := 0
  starts : Nat := 0
  stops : Nat := 0
  deriving Repr

/-- **The bus adapter:** its chat ordering and its inbound subscription while started. -/
structure Adapter where
  ordering : ChatOrdering := .concurrent
  subscription : Option Nat := none
  deriving Repr

/-- **A per-chat lock:** the lock set it belongs to, the chat, its mutex, and how many
handlers hold it or wait for it. -/
structure ChatLock where
  locks : Nat
  key : String
  mutex : Nat
  users : Nat
  deriving Repr

/-- **The reasoning engine.** -/
inductive Engine where
  /-- A scripted engine. -/
  | scripted (s : EngineScript)
  /-- The engine that runs the agent loop over the model, with a system prompt and a budget. -/
  | provider (systemPrompt : String) (maxIterations : Nat)
  deriving Repr

/-- **The sub-agent manager:** its budget, the tools of sub-agents, what happens when a task
settles, and the task table. -/
structure SubagentManager where
  budget : SubagentBudget := {}
  tools : ToolRegistry := {}
  callback : Option CompletionCallback := some .announce
  table : TaskTable := {}
  deriving Repr

/-- **A manager over a parent's tools:** its sub-agents get the parent's registry without the
sub-agent tool, so they cannot start sub-agents of their own, and at least one model call. -/
def SubagentManager.new (tools : ToolRegistry) (budget : SubagentBudget)
    (callback : Option CompletionCallback) : SubagentManager :=
  { budget := { budget with maxIterations := max budget.maxIterations 1 },
    tools := tools.cloneWithout [Tool.spawnName], callback }

/-- **The heartbeat service:** its plan and its timer task while it runs. -/
structure HeartbeatService where
  plan : HeartbeatPlan
  task : Option Nat := none
  deriving Repr

/-- **A gateway deployment.** -/
structure Deployment where
  bus : Bus := {}
  /-- Whether the observer keeps incidents. -/
  recording : Bool := true
  incidents : List Incident := []
  /-- The log of scripted bus handlers. -/
  events : List Json := []
  /-- The handler tasks started by each publish. -/
  dispatches : List (Nat × List Nat) := []
  nextDispatch : Nat := 0
  channels : ChannelManager := {}
  adapter : Adapter := {}
  chatLocks : List ChatLock := []
  nextLocks : Nat := 0
  nextMutex : Nat := 0
  engine : Engine := .scripted {}
  /-- The messages a scripted engine was asked about. -/
  seen : List InboundMessage := []
  model : ProviderScript := {}
  /-- The transcripts of the model's calls. -/
  calls : List (List ChatMessage) := []
  /-- The tool schemas offered in the first call. -/
  offered : Option (List Json) := none
  tools : ToolRegistry := {}
  subagents : Option SubagentManager := none
  heartbeat : Option HeartbeatService := none
  /-- The wall clock the heartbeat's active window is read on. -/
  wallClock : WallClock := .midnight
  cron : Option ScriptedService := none
  lifecycle : Lifecycle := {}
  /-- The outcome of a background start, once it finished. -/
  backgroundStart : Option (Except GatewayError Unit) := none
  nextTaskId : Nat := 0
  deriving Repr

/-- **A task of a deployment.** -/
inductive Job where
  /-- Starts the handlers of one published event, one after another. -/
  | dispatch (dispatch : Nat) (handlers : List Subscription) (event : BusEvent)
  /-- Runs one handler on one event. -/
  | handle (handler : Subscription) (event : BusEvent)
  /-- Runs one sub-agent task. -/
  | subagent (id : String)
  /-- The heartbeat timer loop. -/
  | heartbeat
  /-- Starts the gateway in the background. -/
  | gatewayStart
  /-- Stops the gateway in the background. -/
  | gatewayStop
  deriving Repr

/-- **Cooperative programs over a deployment.** -/
abbrev Act := Scheduling.Program Job Deployment

namespace Deployment

/-- Reports an incident to the observer. -/
def observe (d : Deployment) (i : Incident) : Deployment :=
  if d.recording then { d with incidents := d.incidents ++ [i] } else d

/-- Lowercase hexadecimal digits of `n`, padded to `width`. -/
def hexPadded (width n : Nat) : String :=
  let digits := (Nat.toDigits 16 n)
  String.ofList (List.replicate (width - digits.length) '0' ++ digits)

/-- **The id of the `n`-th task started,** in the form of a random UUID. -/
def taskId (n : Nat) : String :=
  "5a6e7d00-" ++ hexPadded 4 (n / Nat.pow 2 48 % Nat.pow 2 16) ++ "-4" ++
    hexPadded 3 (n / Nat.pow 2 36 % Nat.pow 2 12) ++ "-8" ++ hexPadded 3 (n / Nat.pow 2 24 % Nat.pow 2 12) ++ "-" ++
    hexPadded 12 (n % Nat.pow 2 48)

/-- **A fresh task id:** the id of the next task. -/
def freshTaskId (d : Deployment) : Deployment × String :=
  let n := d.nextTaskId + 1
  ({ d with nextTaskId := n }, taskId n)

/-- The sub-agent manager, changed. -/
def modifySubagents (d : Deployment) (f : SubagentManager → SubagentManager) : Deployment :=
  { d with subagents := d.subagents.map f }

end Deployment

end ChatGateway
