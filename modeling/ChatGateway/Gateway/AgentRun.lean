import ChatGateway.Agent.Truncate
import ChatGateway.Gateway.Deployment
import ChatGateway.Text.Blank

/-! # The agent loop

An agent run is a bounded conversation with the model: call the model with the transcript and
the tool schemas, run the tools it asks for side by side, append their results, and call again,
until the model answers without tool calls or the iteration budget is spent.

* `AgentRun.complete` asks the scripted model for one turn and records the call.
* `AgentRun.callTool` runs one tool call. The run's context fields are merged into object
  arguments; an unknown tool or a failing tool becomes `{"error": …}`, a result `{"result": …}`.
  The tool message holds that value's compact JSON, cut to 16 KiB.
* `AgentRun.loop` is the loop, written for any monad: it is given one turn of the model and a way
  to run a turn's tool calls, as the source's loop is given a provider and a tool registry. A
  model error ends the run with that error, and the text of the result is the final answer, or
  the last text seen when the budget ran out.
* `AgentRun.run` is the loop of the gateway: the deployment's scripted model, and the registry's
  tools run side by side.
* `AgentRun.spawnTool` is the tool that starts a background sub-agent for the chat named by the
  context fields `_channel` and `_chat_id`.
-/

namespace ChatGateway

open Scheduling.Program (update modify read fork await sleep all)

universe u

/-- **The outcome of an agent run.** -/
structure RunResult where
  text : Option String := none
  iterations : Nat := 0
  toolCallsMade : Nat := 0
  usage : Usage := {}
  exhausted : Bool := false
  deriving Repr

/-- The JSON object of a run result. -/
def RunResult.toJson (r : RunResult) : Json :=
  Json.object [("text", Json.ofOption r.text), ("iterations", .ofNat r.iterations),
    ("tool_calls_made", .ofNat r.toolCallsMade), ("usage", r.usage.toJson),
    ("exhausted", .bool r.exhausted)]

namespace AgentRun

/-- The byte budget of one tool result in the transcript. -/
def maxToolResultBytes : Nat := 16 * 1024

/-- Records a call of the model with its transcript and the tool schemas offered first, and
takes the model's scripted step for it. -/
def logCall (messages : List ChatMessage) (schemas : List Json) (d : Deployment) :
    Deployment × Option ScriptStep :=
  ({ d with calls := d.calls ++ [messages], offered := d.offered.orElse fun _ => some schemas },
    d.model.stepFor messages)

/-- **One turn of the scripted model,** recorded with the transcript it was given. -/
def complete (messages : List ChatMessage) (schemas : List Json) :
    Act (Except String Completion) := do
  let step ← update (logCall messages schemas)
  match step with
  | none => pure (.error ProviderScript.exhausted)
  | some s => do
    sleep s.delayMs
    match s.turn messages schemas with
    | .hang => .pending
    | .panic m => .panic m
    | .fail m => pure (.error m)
    | .answer c => pure (.ok c)

/-- Registers a new sub-agent task under a fresh id. -/
def register (task : String) (label : Option String) (channel chatId : String) (d : Deployment) :
    Deployment × String :=
  let (d, id) := d.freshTaskId
  (d.modifySubagents fun m =>
    { m with table := m.table.insert { id, task, label, originChannel := channel,
                                       originChatId := chatId } }, id)

/-- **Starts a background sub-agent** for a task, returning its id. -/
def spawnSubagent (task : String) (label : Option String) (channel chatId : String) :
    Act String := do
  let id ← update (register task label channel chatId)
  let _ ← fork (.subagent id)
  pure id

/-- The string value of a field of the parameters. -/
def param (params : Json) (k : String) : Option String := (params.get? k).bind Json.str?

/-- **The sub-agent tool:** checks the task and the origin, then starts the sub-agent. -/
def spawnTool (params : Json) : Act (Except String Json) :=
  match (param params "task").filter (fun t => !(Text.trim t).isEmpty) with
  | none => pure (.error "missing required parameter: task")
  | some task =>
    match param params "_channel" with
    | none => pure (.error "missing origin channel")
    | some channel =>
      match param params "_chat_id" with
      | none => pure (.error "missing origin chat id")
      | some chatId => do
        let id ← spawnSubagent task (param params "label") channel chatId
        pure (.ok (Json.object [("task_id", .str id), ("status", .str "running")]))

/-- **Runs a tool** on its parameters. -/
def execute (t : Tool) (params : Json) : Act (Except String Json) :=
  match t with
  | .spawnSubagent => spawnTool params
  | .scripted s => do
    sleep s.delayMs
    match s.action with
    | .echo => pure (.ok params)
    | .fail m => pure (.error m)
    | .give v => pure (.ok v)
    | .long piece times => pure (.ok (.str (String.join (List.replicate times piece))))
    | .panic m => .panic m

/-- The arguments with the context's fields set, when both are objects. -/
def withContext (context : Option Json) (args : Json) : Json :=
  match context, args with
  | some (.obj cs), .obj _ => cs.foldl (fun a (k, v) => a.insert k v) args
  | _, _ => args

/-- **Runs one tool call,** answering with `{"result": …}` or `{"error": …}`. -/
def callTool (tools : ToolRegistry) (context : Option Json) (c : ToolCall) : Act Json :=
  let args := withContext context c.arguments
  match tools.get? c.name with
  | none => pure (Json.object [("error", .str ("unknown tool: " ++ c.name))])
  | some t => do
    let r ← execute t args
    match r with
    | .ok v => pure (Json.object [("result", v)])
    | .error e => pure (Json.object [("error", .str e)])

/-- The tool messages of one turn: each call's output, in call order, as compact JSON cut to the
byte budget. -/
def toolMessages (calls : List ToolCall) (outputs : List Json) : List ChatMessage :=
  (calls.zip outputs).map fun (tc, out) =>
    ChatMessage.tool tc.id (ToolResult.truncate out.compact maxToolResultBytes)

/-- **The loop,** with `fuel` iterations left in the budget: `ask` is one turn of the model on a
transcript and the tool schemas, and `runTools` runs the tool calls of a turn, giving their
outputs in call order. -/
def loop {m : Type → Type u} [Monad m]
    (ask : List ChatMessage → List Json → m (Except String Completion))
    (runTools : List ToolCall → m (List Json)) (schemas : List Json) :
    Nat → List ChatMessage → RunResult → m (Except String RunResult)
  | 0, _, r => pure (.ok { r with exhausted := true })
  | fuel + 1, messages, r => do
    let r := { r with iterations := r.iterations + 1 }
    let answer ← ask messages schemas
    match answer with
    | .error e => pure (.error e)
    | .ok c =>
      let r := { r with usage := r.usage.add c.usage }
      if c.toolCalls.isEmpty then pure (.ok { r with text := c.text })
      else
        let r := { r with text := c.text.orElse fun _ => r.text,
                          toolCallsMade := r.toolCallsMade + c.toolCalls.length }
        let messages := messages ++ [.assistant c.text c.toolCalls]
        let outputs ← runTools c.toolCalls
        loop ask runTools schemas fuel (messages ++ toolMessages c.toolCalls outputs) r

/-- **Runs the agent loop** with a system prompt, a user message and an iteration budget: the
model is the deployment's script, and the registry's tools run side by side. -/
def run (tools : ToolRegistry) (system user : String) (maxIterations : Nat)
    (context : Option Json) : Act (Except String RunResult) :=
  loop complete (fun calls => all (calls.map (callTool tools context))) tools.schemas
    maxIterations [.system system, .user user] {}

end AgentRun

end ChatGateway
