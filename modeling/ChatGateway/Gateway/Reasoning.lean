import ChatGateway.Gateway.AgentRun

/-! # The reasoning engine

`Reasoning.process` answers an inbound message with an `EngineReply`, or fails with a message.

* A scripted engine records the message, waits its step's delay, then acts as the step says.
* The model-backed engine runs the agent loop with its system prompt over the message content,
  passing the message's channel, chat and session as tool context; the reply is the loop's text
  (empty when there is none) with the model id as `model` metadata.
-/

namespace ChatGateway

open Scheduling.Program (update modify read sleep)

namespace Reasoning

/-- The system prompt of the model-backed engine unless one is given. -/
def defaultSystemPrompt : String :=
  "You are a helpful personal assistant. Answer concisely. " ++
    "Use the spawn_subagent tool for long-running background work."

/-- The iteration budget of the model-backed engine unless one is given. -/
def defaultMaxIterations : Nat := 25

/-- The tool context of a message: its channel, chat and session key. -/
def toolContext (m : InboundMessage) : Json :=
  Json.object [("_channel", .str m.channel), ("_chat_id", .str m.chatId),
    ("_session_key", .str m.sessionKey)]

/-- **Answers an inbound message.** -/
def process (m : InboundMessage) : Act (Except String EngineReply) := do
  let engine ← read (·.engine)
  match engine with
  | .scripted s =>
    modify fun (d : Deployment) => { d with seen := d.seen ++ [m] }
    let step := s.stepFor m.content
    sleep step.delayMs
    match step.answer m with
    | .ok r => pure r
    | .error p => .panic p
  | .provider system maxIterations => do
    let (tools, modelId) ← read fun (d : Deployment) => (d.tools, d.model.id)
    let r ← AgentRun.run tools system m.content maxIterations (some (toolContext m))
    match r with
    | .error e => pure (.error e)
    | .ok res =>
      pure (.ok { text := res.text.getD "", metadata := [("model", .str modelId)] })

end Reasoning

end ChatGateway
