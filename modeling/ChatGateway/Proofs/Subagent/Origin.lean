import ChatGateway.Proofs.Decode.Record
import ChatGateway.Proofs.Gateway.Routine
import ChatGateway.Proofs.Subagent.Table

/-! # Background results go back to the chat they came from

The engine that runs the agent loop passes the message's channel and chat to every tool call as
context, and the context's keys overwrite what the model wrote into object arguments; the
sub-agent tool reads the origin from those keys, and refuses arguments that are not objects
before it reads anything. So a sub-agent started while an inbound message is answered belongs
to that message's chat, whatever the model asked for. When a task settles, the announcing
callback publishes one message to the task's origin, or fails and publishes nothing when the
bus is closed.

* `SpawnsFor channel chatId`: the frame of steps that add sub-agent tasks of that origin only.
* `Reasoning.process_spawnsFor`: answering a message stays within the frame of its chat.
* `Subagents.poll_announce`: announcing publishes the task's announcement on an open bus and
  then only waits (`Subagents.announce_rest_within`); a closed bus changes nothing.
* `SubagentTask.Announced`: what the announcement of a task says, and to whom.
* `subagent_results_reach_origin`: the three together.
-/

namespace ChatGateway

open Scheduling Scheduling.Executor

/-! ## (1) The origin a tool call carries -/

/-- The tool context of a message, field by field. -/
theorem Reasoning.toolContext_eq (m : InboundMessage) :
    Reasoning.toolContext m = Json.obj [("_channel", .str m.channel), ("_chat_id", .str m.chatId),
      ("_session_key", .str m.sessionKey)] := by
  -- The keys are inserted in order, each after the ones before it.
  have hne₁ : "_chat_id" ≠ "_channel" := by decide
  have hlt₁ : ¬ "_chat_id" < "_channel" := by decide
  have hne₂ : "_session_key" ≠ "_channel" := by decide
  have hlt₂ : ¬ "_session_key" < "_channel" := by decide
  have hne₃ : "_session_key" ≠ "_chat_id" := by decide
  have hlt₃ : ¬ "_session_key" < "_chat_id" := by decide
  simp only [Reasoning.toolContext, Json.object, List.foldl, Json.insertField, hne₁, hlt₁, hne₂,
    hlt₂, hne₃, hlt₃, if_false]

/-- **The origin a tool sees:** the arguments of a call made while answering `m` either carry
`m`'s channel and chat under the context's keys, or are no object and name no task. -/
theorem AgentRun.param_withContext (m : InboundMessage) (args : Json) :
    AgentRun.param (AgentRun.withContext (some (Reasoning.toolContext m)) args) "task" = none ∨
      (AgentRun.param (AgentRun.withContext (some (Reasoning.toolContext m)) args) "_channel" =
          some m.channel ∧
        AgentRun.param (AgentRun.withContext (some (Reasoning.toolContext m)) args) "_chat_id" =
          some m.chatId) := by
  rw [Reasoning.toolContext_eq]
  cases args with
  | obj fs =>
    -- The context's three keys are set in order; the later two do not touch the earlier ones.
    right
    have hch : "_channel" ≠ "_chat_id" := by decide
    have hcs : "_channel" ≠ "_session_key" := by decide
    have his : "_chat_id" ≠ "_session_key" := by decide
    simp only [AgentRun.withContext, List.foldl, Json.insert, AgentRun.param, Json.get?,
      Json.lookupField_insertField_of_ne hcs, Json.lookupField_insertField_of_ne his,
      Json.lookupField_insertField_of_ne hch, Json.lookupField_insertField_self]
    exact ⟨rfl, rfl⟩
  | null => exact .inl rfl
  | bool b => exact .inl rfl
  | num n => exact .inl rfl
  | str s => exact .inl rfl
  | arr xs => exact .inl rfl

/-! ## (2) The frame of one chat's sub-agents -/

/-- The sub-agent ids of a deployment, in spawn order; none without a manager. -/
def Deployment.subagentOrder (d : Deployment) : List String :=
  (d.subagents.map (·.table.order)).getD []

/-- **A step that starts sub-agents for one chat only:** the ids in spawn order stay, the new
ones are added at the end, and every record is either one the table held before under the same
id or a new one started from `channel` and `chatId`. -/
def SpawnsFor (channel chatId : String) (ex ex' : Exec) : Prop :=
  ∃ new, ex'.shared.subagentOrder = ex.shared.subagentOrder ++ new ∧
    ∀ id r, ex'.shared.record? id = some r →
      ex.shared.record? id = some r ∨ (id ∈ new ∧ r.originChannel = channel ∧ r.originChatId = chatId)

namespace SpawnsFor

variable {channel chatId : String} {me : Nat}

/-- A step that keeps the sub-agent manager. -/
theorem of_tasks {ex ex' : Exec} (h : ex'.shared.subagents = ex.shared.subagents) :
    SpawnsFor channel chatId ex ex' := by
  refine ⟨[], ?_, fun id r hr => .inl ?_⟩
  · unfold Deployment.subagentOrder
    rw [h, List.append_nil]
  · rwa [Deployment.record?_congr h] at hr

/-- **Registering a task of this chat** adds its id and record, if there is a manager. -/
theorem register (ex : Exec) (task : String) (label : Option String) :
    SpawnsFor channel chatId ex
      { ex with shared := (AgentRun.register task label channel chatId ex.shared).1 } := by
  unfold SpawnsFor Deployment.subagentOrder Deployment.record?
  dsimp only
  rw [AgentRun.register_subagents]
  cases ex.shared.subagents with
  | none => exact ⟨[], rfl, fun _ _ h => nomatch h⟩
  | some m =>
    refine ⟨[ex.shared.freshTaskId.2], rfl, fun id r hr => ?_⟩
    simp only [Option.map_some, Option.bind_some, TaskTable.Change.apply,
      TaskTable.get?_insert] at hr ⊢
    split at hr
    · -- The id just registered names the record of this chat.
      rename_i hid
      cases hr
      exact .inr ⟨List.mem_singleton.2 hid, rfl, rfl⟩
    · exact .inl hr

theorem timer (ex : Exec) (d : Nat) : SpawnsFor channel chatId ex (ex.addTimer d me).1 :=
  of_tasks rfl

/-- One turn of the model starts nothing. -/
theorem complete_within (messages : List ChatMessage) (schemas : List Json) :
    Program.Within (SpawnsFor channel chatId) me true (AgentRun.complete messages schemas) := by
  unfold AgentRun.complete
  simp only [Program.bind_def, Program.pure_def]
  refine (Program.Within.update (A := SpawnsFor channel chatId) fun ex => of_tasks rfl).bind
    fun step => ?_
  cases step with
  | none => exact .pure _
  | some s =>
    refine (Program.Within.sleep s.delayMs fun ex d => timer ex d).bind fun _ => ?_
    cases s.turn messages schemas with
    | hang => exact .pending
    | panic m => exact .panic m
    | fail m => exact .pure _
    | answer c => exact .pure _

/-- Starting a sub-agent of this chat registers it and starts its task. -/
theorem spawnSubagent_within {panics : Bool} (task : String) (label : Option String) :
    Program.Within (SpawnsFor channel chatId) me panics
      (AgentRun.spawnSubagent task label channel chatId) := by
  unfold AgentRun.spawnSubagent
  simp only [Program.bind_def, Program.pure_def]
  refine (Program.Within.update (A := SpawnsFor channel chatId) fun ex =>
    register ex task label).bind fun id => ?_
  exact (Program.Within.fork _ fun ex => of_tasks rfl).bind fun _ => .pure _

/-- **The sub-agent tool starts a task of this chat,** when the arguments carry this chat or
name no task. -/
theorem spawnTool_within {params : Json}
    (hparams : AgentRun.param params "task" = none ∨
      (AgentRun.param params "_channel" = some channel ∧
        AgentRun.param params "_chat_id" = some chatId)) :
    Program.Within (SpawnsFor channel chatId) me true (AgentRun.spawnTool params) := by
  unfold AgentRun.spawnTool
  simp only [Program.bind_def, Program.pure_def]
  rcases hparams with htask | ⟨hch, hchat⟩
  · rw [htask]
    exact .pure _
  · rw [hch, hchat]
    split
    · exact .pure _
    · exact (spawnSubagent_within _ _).bind fun _ => .pure _

/-- A tool call made while answering `m` starts only tasks of `m`'s chat. -/
theorem callTool_within (m : InboundMessage) (tools : ToolRegistry) (c : ToolCall) :
    Program.Within (SpawnsFor m.channel m.chatId) me true
      (AgentRun.callTool tools (some (Reasoning.toolContext m)) c) := by
  unfold AgentRun.callTool
  simp only [Program.bind_def, Program.pure_def]
  split
  · exact .pure _
  · rename_i t _
    have hexec : Program.Within (SpawnsFor m.channel m.chatId) me true
        (AgentRun.execute t (AgentRun.withContext (some (Reasoning.toolContext m)) c.arguments)) := by
      unfold AgentRun.execute
      simp only [Program.bind_def, Program.pure_def]
      cases t with
      | spawnSubagent => exact spawnTool_within (AgentRun.param_withContext m c.arguments)
      | scripted s =>
        refine (Program.Within.sleep s.delayMs fun ex d => timer ex d).bind fun _ => ?_
        cases s.action with
        | echo => exact .pure _
        | fail msg => exact .pure _
        | give v => exact .pure _
        | long piece times => exact .pure _
        | panic msg => exact .panic msg
    refine hexec.bind fun r => ?_
    cases r with
    | ok v => exact .pure _
    | error e => exact .pure _

/-- **The agent run made while answering `m`** starts only tasks of `m`'s chat, for any budget
and any answers of the model. -/
theorem run_within (m : InboundMessage) (tools : ToolRegistry) (system user : String)
    (maxIterations : Nat) :
    Program.Within (SpawnsFor m.channel m.chatId) me true
      (AgentRun.run tools system user maxIterations (some (Reasoning.toolContext m))) := by
  refine AgentRun.loop_within complete_within (fun calls => Program.Within.all _ fun p hp => ?_)
    _ _ _ _
  obtain ⟨tc, -, rfl⟩ := List.mem_map.1 hp
  exact callTool_within m tools tc

end SpawnsFor

/-- **Answering a message starts sub-agents for its chat only:** every step of the engine's
answer to `m` adds only sub-agent tasks whose origin is `m`'s channel and chat. -/
theorem Reasoning.process_spawnsFor (m : InboundMessage) (me : Nat) :
    Program.Within (SpawnsFor m.channel m.chatId) me true (Reasoning.process m) := by
  unfold Reasoning.process
  simp only [Program.bind_def, Program.pure_def]
  refine (Program.Within.read (A := SpawnsFor m.channel m.chatId) _ fun ex =>
    SpawnsFor.of_tasks rfl).bind fun engine => ?_
  cases engine with
  | scripted s =>
    refine (Program.Within.modify (A := SpawnsFor m.channel m.chatId) fun ex =>
      SpawnsFor.of_tasks rfl).bind fun _ => ?_
    refine (Program.Within.sleep _ fun ex d => SpawnsFor.timer ex d).bind fun _ => ?_
    split
    · exact .pure _
    · exact .panic _
  | provider system maxIterations =>
    refine (Program.Within.read (A := SpawnsFor m.channel m.chatId) _ fun ex =>
      SpawnsFor.of_tasks rfl).bind fun _ => ?_
    refine (SpawnsFor.run_within m _ _ _ _).bind fun r => ?_
    cases r with
    | error e => exact .pure _
    | ok res => exact .pure _

/-! ## (3) The announcement of a settled task -/

namespace SubagentTask

/-- **What the announcement `o` of a task says, and to whom:** it goes to the task's channel and
chat, names the task's id, is an error reply exactly when the task failed, and holds the result
of a completed task or the failure of a failed one. -/
structure Announced (t : SubagentTask) (o : OutboundMessage) : Prop where
  channel : o.channel = t.originChannel
  chatId : o.chatId = t.originChatId
  subagentId : Json.lookupField "subagent_id" o.metadata = some (.str t.id)
  isError : o.isError = true ↔ t.status = .failed
  completed : t.status = .completed → o.content = t.result.getD ""
  failed : t.status = .failed →
    o.content = "Background task \"" ++ t.displayName ++ "\" failed: " ++ t.error.getD "unknown error"

/-- **A task's announcement says what `Announced` asks.** -/
theorem announced_announcement (t : SubagentTask) : t.Announced t.announcement := by
  have hkeys : "error" ≠ "subagent_id" := by decide
  unfold announcement
  by_cases hf : t.status = .failed
  · -- A failed task: the failure, marked as an error reply.
    have hc : t.status ≠ .completed := by rw [hf]; decide
    refine ⟨?_, ?_, ?_, ?_, fun h => absurd h hc, fun _ => ?_⟩
    all_goals simp [hf, OutboundMessage.withMetadata, OutboundMessage.isError,
      Json.lookupField_insertField_of_ne hkeys.symm]
  · -- Any other task: its result, with no error mark.
    refine ⟨?_, ?_, ?_, ?_, fun hc => ?_, fun h => absurd h hf⟩
    all_goals simp [OutboundMessage.withMetadata, OutboundMessage.isError, Json.insertField,
      Json.lookupField, *]

end SubagentTask

namespace Subagents

/-- **Waiting for a delivery changes nothing** of the executor: it only reads and waits. -/
theorem settled_within_eq {panics : Bool} (me : Nat) (r : Delivery) :
    Program.Within (· = · : Exec → Exec → Prop) me panics r.settled := by
  unfold Delivery.settled
  simp only [Program.bind_def, Program.pure_def]
  split
  · exact .pure _
  · refine (Program.Within.await _).bind fun ok => ?_
    split
    · refine (Program.Within.read _ fun _ => rfl).bind fun tasks => ?_
      exact Program.Within.forM tasks fun t _ => (Program.Within.await t).bind fun _ => .pure _
    · exact .pure _

/-- What announcing does once the announcement is published: wait until it is handled. -/
def announceRest (r : Delivery) : Act (Except String Unit) :=
  r.settled.bind fun _ => .pure (.ok ())

theorem announce_rest_within (me : Nat) (r : Delivery) :
    Program.Within (· = · : Exec → Exec → Prop) me false (announceRest r) :=
  (settled_within_eq me r).bind fun _ => .pure _

/-- **A poll of the announcing callback.** On a closed bus it fails at once and changes nothing;
on an open bus it publishes the task's announcement and goes on waiting for it. -/
theorem poll_announce (me : Nat) (ex : Exec) (t : SubagentTask) :
    poll me ex (announce t) =
      if ex.shared.bus.closed then (ex, .pure (.error ("bus closed, cannot announce task " ++ t.id)))
      else poll me (Delivery.published ex (.outbound t.announcement))
        (announceRest ⟨(ex.shared.bus.handlersOf (BusEvent.outbound t.announcement).topic).length,
          some (ex.tasks.size, ex.shared.nextDispatch)⟩) := by
  unfold announce
  simp only [Program.bind_def, Program.pure_def]
  -- Reading whether the bus is closed changes nothing.
  have hread : ∀ k : Bool → Act (Except String Unit),
      poll me ex ((Scheduling.Program.read (·.bus.closed)).bind k) =
        poll me ex (k ex.shared.bus.closed) := fun _ => rfl
  rw [hread]
  by_cases hclosed : ex.shared.bus.closed = true
  · simp only [hclosed, if_true]
    rfl
  · simp only [hclosed, Bool.false_eq_true, if_false]
    rw [poll_bind, Delivery.poll_publish, if_neg hclosed]
    rfl

end Subagents

/-- **Background results go back to the chat they came from.** Every step of the engine's answer
to an inbound message `m` starts only sub-agent tasks whose origin is `m`'s channel and chat,
whatever the model wrote into the tool calls; and for every task, the announcing callback fails
on a closed bus without changing anything, and on an open bus publishes the task's announcement,
after which it changes nothing more; the announcement goes to the task's origin, names the task,
is an error reply exactly when the task failed, and holds the result of a completed task or the
failure of a failed one. -/
theorem subagent_results_reach_origin (m : InboundMessage) (me : Nat) :
    Program.Within (SpawnsFor m.channel m.chatId) me true (Reasoning.process m) ∧
      ∀ (t : SubagentTask) (ex : Exec),
        (ex.shared.bus.closed = true → poll me ex (Subagents.announce t) =
          (ex, .pure (.error ("bus closed, cannot announce task " ++ t.id)))) ∧
        (ex.shared.bus.closed = false → ∃ rest, poll me ex (Subagents.announce t) =
          poll me (Delivery.published ex (.outbound t.announcement)) rest ∧
          Program.Within (· = · : Exec → Exec → Prop) me false rest) ∧
        t.Announced t.announcement := by
  refine ⟨Reasoning.process_spawnsFor m me, fun t ex => ⟨fun hclosed => ?_, fun hopen => ?_,
    t.announced_announcement⟩⟩
  · rw [Subagents.poll_announce, if_pos hclosed]
  · rw [Subagents.poll_announce, if_neg (by simp [hopen])]
    exact ⟨_, rfl, Subagents.announce_rest_within me _⟩

end ChatGateway
