import ChatGateway.Gateway.Launch
import ChatGateway.Message.Codec
import ChatGateway.Requests.Basic

/-! # Agent requests

* `toolRegistry` builds a registry and runs registry operations on it in turn.
* `agentLoop` runs the agent loop over a scripted model and scripted tools, and reports the
  transcripts of every model call and the tool schemas of the first one.
* `engine` answers one inbound message with the model-backed engine.

The programs run on a fresh executor; a line whose work can never finish is `stalled`.
-/

namespace ChatGateway

namespace Requests

/-- The failure of a line whose work can never finish. -/
def stalled : Failure :=
  ⟨"stalled", "every task is blocked and no timer is due within 30 virtual days"⟩

/-- The registry of a list of scripted tool descriptions. -/
def registryOf (tools : List Json) : ToolRegistry :=
  ToolRegistry.ofList (tools.map fun t => .scripted (ScriptedTool.ofJson t))

/-- The names and schemas of a registry. -/
def registryView (r : ToolRegistry) : List (String × Json) :=
  [("tool_names", .arr (r.names.map Json.str)), ("schemas", .arr r.schemas)]

/-- **One registry operation.** The first of `register` (any value), `unregister` (a name),
`get` (a name) and `clone_without` (a list of names) that the operation holds with a value of
that kind decides it; an operation with none of them shows the registry. -/
def registryStep (r : ToolRegistry) (op : Json) : ToolRegistry × Json :=
  match op.get? "register", (op.get? "unregister").bind Json.str?,
      (op.get? "get").bind Json.str?, (op.get? "clone_without").bind Json.items? with
  | some t, _, _, _ =>
    let r := r.register (.scripted (ScriptedTool.ofJson t))
    (r, Json.object [("len", .ofNat r.size)])
  | none, some n, _, _ =>
    let (r, removed) := r.unregister n
    (r, Json.object [("removed", .bool removed)])
  | none, none, some n, _ =>
    (r, match r.get? n with
      | some t => Json.object [("name", .str t.name), ("description", .str t.description)]
      | none => .null)
  | none, none, none, some ns =>
    (r, Json.object (registryView (r.cloneWithout (ns.filterMap Json.str?))))
  | none, none, none, none =>
    (r, Json.object (registryView r ++ [("len", .ofNat r.size), ("is_empty", .bool (r.size == 0))]))

/-- `tool_registry`: registry operations in turn. -/
def toolRegistry (req : Json) : Answer := do
  let tools ← Request.arrOr req "tools"
  let ops ← match req.get? "ops" with
    | some (.arr ops) => pure ops
    | _ => throw (.badInput "ops must be a list")
  let (_, results) := ops.foldl (fun (acc : ToolRegistry × List Json) op =>
    let (r, out) := registryStep acc.1 op
    (r, acc.2 ++ [out])) (registryOf tools, [])
  pure (Json.object [("results", .arr results)])

/-- A deployment holding a scripted model and scripted tools. The model must be given, though
any value will do (one that is not an object has no steps); tools that are absent or not a list
are none. -/
def agentDeployment (req : Json) : Except Failure Deployment := do
  let provider ← Request.field req "provider"
  let tools ← Request.arrOr req "tools"
  pure { model := ProviderScript.ofJson provider, tools := registryOf tools }

/-- The transcripts of the model calls. -/
def callsJson (d : Deployment) : Json :=
  .arr (d.calls.map fun ms => .arr (ms.map ChatMessage.toJson))

/-- The fields of a failure. -/
def failureFields (f : Failure) : List (String × Json) :=
  [("error", .str f.kind), ("message", .str f.message)]

/-- `agent_loop`: one agent run. -/
def agentLoop (req : Json) : Answer := do
  let d ← agentDeployment req
  let system := (← Request.strOpt req "system_prompt").getD ""
  let user ← Request.str req "user_message"
  let maxIterations ← Request.nat req "max_iterations"
  let context := match req.get? "tool_context" with
    | none | some .null => none
    | some c => some c
  let (d, ending) := d.run (AgentRun.run d.tools system user maxIterations context)
  let tools := match d.offered with
    | some ts => Json.arr ts
    | none => .null
  let outcome : List (String × Json) := match ending with
    | .finished (.ok r) => [("result", r.toJson)]
    | .finished (.error e) => failureFields ⟨"agent", e⟩
    | .panicked m => failureFields ⟨"panic", m⟩
    | .stalled => failureFields stalled
  match ending with
  | .stalled => pure (Json.object (outcome ++ [("tools", tools)]))
  | _ => pure (Json.object (outcome ++ [("calls", callsJson d), ("tools", tools)]))

/-- `engine`: the model-backed engine's answer to one message. -/
def engine (req : Json) : Answer := do
  let d ← agentDeployment req
  let system ← Request.strOpt req "system_prompt"
  let maxIterations ← Request.natOr req "max_iterations" Reasoning.defaultMaxIterations
  let d := { d with engine := .provider (system.getD Reasoning.defaultSystemPrompt)
                                        (max maxIterations 1) }
  match req.get? "message" with
  | none => .error (.badInput "missing field message")
  | some mj =>
    match InboundMessage.decode mj with
    | .error e => pure (Json.object (failureFields (.ofDecode e)))
    | .ok m =>
      let (d, ending) := d.run (Reasoning.process m)
      let outcome : List (String × Json) := match ending with
        | .finished (.ok r) => [("reply", r.toJson)]
        | .finished (.error e) => failureFields ⟨"engine", e⟩
        | .panicked p => failureFields ⟨"panic", p⟩
        | .stalled => failureFields stalled
      pure (Json.object (outcome ++ [("calls", callsJson d)]))

end Requests

end ChatGateway
