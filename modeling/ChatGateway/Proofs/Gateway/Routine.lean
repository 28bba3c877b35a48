import ChatGateway.Proofs.Gateway.Calls

/-! # The routine work of the gateway

Most of what the gateway's tasks do touches none of the state that its guarantees are about:
reporting incidents, logging, asking the engine and the model, delivering to channels, counting
handler calls, keeping the sub-agent table, publishing events. `Routine A me` says that a frame
`A` admits all of that when done by task `me`; every program of this file is `Within` any such
frame, so a guarantee that needs only a routine frame holds whatever these programs do.

* `Chore`: the writes of the shared deployment that routine work makes.
* `Routine`: reads, timers, yields, chores, starting a sub-agent and a publish, each as one call.
  A sub-agent's record is written only by the call that starts its task, and settled only by
  that task (`Subagents.run_within` takes the settle of its own record as a step).
* `Reasons`: the part of it the engine and the agent loop need, with no incident and no publish.
* One `_within` lemma per program: the engine, the agent loop, the sub-agents, the handlers that
  take no chat lock, the heartbeat loop, waiting for a delivery. A program that may panic says
  so by its flag.
-/

namespace ChatGateway

open Scheduling Scheduling.Executor

/-- **The routine writes of the deployment:** incidents, the event log of scripted handlers, the
messages a scripted engine saw, the model's call log, a delivery to a channel, and a handler's
report. -/
inductive Chore : (Deployment → Deployment) → Prop where
  | observe (f : Deployment → Incident) : Chore fun d => d.observe (f d)
  | logEvent (entry : Json) : Chore fun d => { d with events := d.events ++ [entry] }
  | see (m : InboundMessage) : Chore fun d => { d with seen := d.seen ++ [m] }
  | logCall (messages : List ChatMessage) (schemas : List Json) :
      Chore fun d => (AgentRun.logCall messages schemas d).1
  | route (m : OutboundMessage) : Chore (Handlers.route m)
  | report (h : Subscription) (e : BusEvent) (r : Except String (Except String Unit))
      (latency : Duration) : Chore (Handlers.report h e r latency)

/-- **A frame that admits the routine work of task `me`:** reading, timers, yields and the wake
a loop gives its task between rounds, the routine writes, and starting a sub-agent and a publish,
each as one step. -/
structure Routine (A : Exec → Exec → Prop) (me : Nat) : Prop where
  stay : ∀ ex, A ex ex
  timer : ∀ ex d, A ex (ex.addTimer d me).1
  defer : ∀ ex, A ex (ex.defer me)
  wake : ∀ ex, A ex (ex.wake me)
  chore : ∀ ex f, Chore f → A ex { ex with shared := f ex.shared }
  spawned : ∀ ex task label channel chatId,
    A ex (poll me ex (AgentRun.spawnSubagent task label channel chatId)).1
  published : ∀ ex e, A ex (poll me ex (Delivery.publish e)).1

namespace Routine

variable {A : Exec → Exec → Prop} {me : Nat}

/-- A read of the deployment. -/
theorem read (hA : Routine A me) {panics : Bool} {β : Type} (f : Deployment → β) :
    Program.Within A me panics (Scheduling.Program.read (ι := Job) f) :=
  .read f hA.stay

/-- A routine write. -/
theorem write (hA : Routine A me) {panics : Bool} {f : Deployment → Deployment} (hf : Chore f) :
    Program.Within A me panics (Scheduling.Program.modify (ι := Job) f) :=
  .modify fun ex => hA.chore ex f hf

/-- A sleep. -/
theorem sleep (hA : Routine A me) {panics : Bool} (ms : Nat) :
    Program.Within A me panics (Scheduling.Program.sleep (ι := Job) (σ := Deployment) ms) :=
  .sleep ms hA.timer

/-- A routine update that also returns a value. -/
theorem update (hA : Routine A me) {panics : Bool} {β : Type} {g : Deployment → Deployment × β}
    (hg : Chore fun d => (g d).1) :
    Program.Within A me panics (Scheduling.Program.update (ι := Job) g) :=
  .update fun ex => hA.chore ex _ hg

/-- **A publish is one step:** it ends within its poll with the executor `A` admits. -/
theorem publish (hA : Routine A me) {panics : Bool} {α : Type} (e : BusEvent)
    {k : Delivery → Act α} (hk : ∀ r, Program.Within A me panics (k r)) :
    Program.Within A me panics ((Delivery.publish e).bind k) := by
  refine .call _ k (fun ex => ?_) hk
  rw [Delivery.poll_publish]
  split
  · exact ⟨_, rfl, hA.stay ex⟩
  · refine ⟨_, rfl, ?_⟩
    have h := hA.published ex e
    rwa [Delivery.poll_publish, if_neg ‹_›] at h

end Routine

/-- **A frame that admits the engine's work of task `me`:** reading, timers, the engine's own
writes (the messages a scripted engine saw, the model's call log), and starting a sub-agent as
one step. Every routine frame is one (`Routine.reasons`); a frame that admits no incident and no
publish can be one too. -/
structure Reasons (A : Exec → Exec → Prop) (me : Nat) : Prop where
  stay : ∀ ex, A ex ex
  timer : ∀ ex d, A ex (ex.addTimer d me).1
  see : ∀ ex (m : InboundMessage), A ex { ex with shared := { ex.shared with seen := ex.shared.seen ++ [m] } }
  logCall : ∀ ex messages schemas,
    A ex { ex with shared := (AgentRun.logCall messages schemas ex.shared).1 }
  spawned : ∀ ex task label channel chatId,
    A ex (poll me ex (AgentRun.spawnSubagent task label channel chatId)).1

theorem Routine.reasons {A : Exec → Exec → Prop} {me : Nat} (hA : Routine A me) : Reasons A me where
  stay := hA.stay
  timer := hA.timer
  see ex m := hA.chore ex _ (.see m)
  logCall ex messages schemas := hA.chore ex _ (.logCall messages schemas)
  spawned := hA.spawned

/-! ## The agent loop -/

namespace AgentRun

variable {A : Exec → Exec → Prop} {me : Nat}

/-- One turn of the model: it may hang or panic. -/
theorem complete_within (hA : Reasons A me) (messages : List ChatMessage) (schemas : List Json) :
    Program.Within A me true (complete messages schemas) := by
  unfold complete
  simp only [Program.bind_def, Program.pure_def]
  refine (Program.Within.update fun ex => hA.logCall ex messages schemas).bind fun step => ?_
  cases step with
  | none => exact .pure _
  | some s =>
    refine (Program.Within.sleep s.delayMs hA.timer).bind fun _ => ?_
    cases s.turn messages schemas with
    | hang => exact .pending
    | panic m => exact .panic m
    | fail m => exact .pure _
    | answer c => exact .pure _

/-- **Starting a sub-agent is one step:** within its poll it registers the task under a fresh id,
starts the task's program, and ends with the id. -/
theorem poll_spawnSubagent (me : Nat) (ex : Exec) (task : String) (label : Option String)
    (channel chatId : String) :
    poll me ex (spawnSubagent task label channel chatId) =
      (({ ex with shared := (register task label channel chatId ex.shared).1 }.spawnTask
          (.subagent (register task label channel chatId ex.shared).2)).1,
        .pure (register task label channel chatId ex.shared).2) := rfl

/-- Starting a sub-agent registers it and starts its task. -/
theorem spawnSubagent_within (hA : Reasons A me) {panics : Bool} {β : Type} (task : String)
    (label : Option String) (channel chatId : String) {k : String → Act β}
    (hk : ∀ id, Program.Within A me panics (k id)) :
    Program.Within A me panics ((spawnSubagent task label channel chatId).bind k) :=
  .call _ k (fun ex => ⟨_, by rw [poll_spawnSubagent], hA.spawned ex task label channel chatId⟩) hk

/-- The sub-agent tool never panics. -/
theorem spawnTool_within (hA : Reasons A me) {panics : Bool} (params : Json) :
    Program.Within A me panics (spawnTool params) := by
  unfold spawnTool
  simp only [Program.bind_def, Program.pure_def]
  split
  · exact .pure _
  · split
    · exact .pure _
    · split
      · exact .pure _
      · exact spawnSubagent_within hA _ _ _ _ fun _ => .pure _

/-- A tool run: a scripted tool may panic. -/
theorem execute_within (hA : Reasons A me) (t : Tool) (params : Json) :
    Program.Within A me true (execute t params) := by
  unfold execute
  simp only [Program.bind_def, Program.pure_def]
  cases t with
  | spawnSubagent => exact spawnTool_within hA params
  | scripted s =>
    refine (Program.Within.sleep s.delayMs hA.timer).bind fun _ => ?_
    cases s.action with
    | echo => exact .pure _
    | fail m => exact .pure _
    | give v => exact .pure _
    | long piece times => exact .pure _
    | panic m => exact .panic m

/-- One tool call. -/
theorem callTool_within (hA : Reasons A me) (tools : ToolRegistry) (context : Option Json)
    (c : ToolCall) : Program.Within A me true (callTool tools context c) := by
  unfold callTool
  simp only [Program.bind_def, Program.pure_def]
  split
  · exact .pure _
  · refine (execute_within hA _ _).bind fun r => ?_
    cases r with
    | ok v => exact .pure _
    | error e => exact .pure _

/-- **The agent loop** is within a frame that admits each turn of the model and each batch of
tool calls, for any budget and any answers of the model. -/
theorem loop_within {ask : List ChatMessage → List Json → Act (Except String Completion)}
    {runTools : List ToolCall → Act (List Json)}
    (hask : ∀ messages schemas, Program.Within A me true (ask messages schemas))
    (htools : ∀ calls, Program.Within A me true (runTools calls)) (schemas : List Json)
    (fuel : Nat) (messages : List ChatMessage) (r : RunResult) :
    Program.Within A me true (loop ask runTools schemas fuel messages r) := by
  -- The induction follows the budget, as `loop` does.
  induction fuel generalizing messages r with
  | zero => exact .pure _
  | succ fuel ih =>
    unfold loop
    simp only [Program.bind_def, Program.pure_def]
    refine (hask _ _).bind fun answer => ?_
    cases answer with
    | error e => exact .pure _
    | ok c =>
      dsimp only
      split
      · exact .pure _
      · exact (htools _).bind fun _ => ih _ _

/-- The tool calls of a turn, run side by side. -/
theorem callTools_within (hA : Reasons A me) (tools : ToolRegistry) (context : Option Json)
    (calls : List ToolCall) :
    Program.Within A me true (Program.all (calls.map (callTool tools context))) := by
  refine Program.Within.all _ fun p hp => ?_
  obtain ⟨tc, -, rfl⟩ := List.mem_map.1 hp
  exact callTool_within hA tools context tc

/-- **An agent run.** -/
theorem run_within (hA : Reasons A me) (tools : ToolRegistry) (system user : String)
    (maxIterations : Nat) (context : Option Json) :
    Program.Within A me true (run tools system user maxIterations context) :=
  loop_within (complete_within hA) (callTools_within hA tools context) _ _ _ _

end AgentRun

/-! ## The engine, deliveries and the handlers that take no chat lock -/

variable {A : Exec → Exec → Prop} {me : Nat}

/-- **The reasoning engine** may panic: a scripted engine panics when its step says so. -/
theorem Reasoning.process_within (hA : Reasons A me) (m : InboundMessage) :
    Program.Within A me true (Reasoning.process m) := by
  unfold Reasoning.process
  simp only [Program.bind_def, Program.pure_def]
  refine (Program.Within.read _ hA.stay).bind fun engine => ?_
  cases engine with
  | scripted s =>
    refine (Program.Within.modify fun ex => hA.see ex m).bind fun _ =>
      (Program.Within.sleep _ hA.timer).bind fun _ => ?_
    split
    · exact .pure _
    · exact .panic _
  | provider system maxIterations =>
    refine (Program.Within.read _ hA.stay).bind fun _ => ?_
    refine (AgentRun.run_within hA _ _ _ _ _).bind fun r => ?_
    cases r with
    | error e => exact .pure _
    | ok res => exact .pure _

/-- **Waiting for a delivery** has no effect of its own. -/
theorem Delivery.settled_within (hA : Routine A me) {panics : Bool} (r : Delivery) :
    Program.Within A me panics r.settled := by
  unfold Delivery.settled
  simp only [Program.bind_def, Program.pure_def]
  split
  · exact .pure _
  · refine (Program.Within.await _).bind fun ok => ?_
    split
    · refine (hA.read _).bind fun tasks => ?_
      exact Program.Within.forM tasks fun t _ => (Program.Within.await t).bind fun _ => .pure _
    · exact .pure _

/-- **The responder's answer never panics:** an engine panic is caught and answered. -/
theorem Handlers.respond_within (hA : Routine A me) {panics : Bool} (m : InboundMessage) :
    Program.Within A me panics (Handlers.respond m) := by
  unfold Handlers.respond
  simp only [Program.bind_def, Program.pure_def]
  refine (Program.Within.catching (Reasoning.process_within hA.reasons m)).bind fun outcome => ?_
  -- Either way one answer is published and waited for.
  have answer : ∀ out : OutboundMessage, Program.Within A me panics
      ((Delivery.publish (.outbound out)).bind fun delivery => delivery.settled) :=
    fun out => hA.publish _ fun delivery => Delivery.settled_within hA _
  cases outcome with
  | ok r => exact answer _
  | error p => exact (hA.write (.observe fun _ => _)).bind fun _ => answer _

/-- Whether a handler takes a chat lock for an event: the responder of chats in order, on an
inbound message. -/
def Handlers.locking : Subscriber → BusEvent → Bool
  | .responder (some _), .inbound _ => true
  | _, _ => false

/-- **A handler that takes no chat lock** does routine work; a scripted one may panic. -/
theorem Handlers.handle_within (hA : Routine A me) (s : Subscriber) (e : BusEvent)
    (hs : Handlers.locking s e = false) : Program.Within A me true (Handlers.handle s e) := by
  unfold Handlers.handle
  simp only [Program.bind_def, Program.pure_def]
  cases s with
  | scripted name b =>
    refine (hA.sleep _).bind fun _ => ?_
    have record : Program.Within A me true
        ((Scheduling.Program.modify fun (d : Deployment) =>
          { d with events := d.events ++ [Json.object [("handler", .str name), ("event", e.toJson)]] }).bind
          fun _ => (.pure (.ok ()) : Act (Except String Unit))) :=
      (hA.write (.logEvent _)).bind fun _ => .pure _
    -- The action decides: record, fail, panic, or fail on one content only.
    split
    · exact record
    · exact .pure _
    · exact .panic _
    · split
      · exact .pure _
      · exact record
  | responder locks =>
    cases e with
    | outbound o => exact .pure _
    | inbound m =>
      cases locks with
      | none => exact (Handlers.respond_within hA m).bind fun _ => .pure _
      | some set => cases hs
  | router =>
    cases e with
    | inbound m => exact .pure _
    | outbound o => exact (hA.write (.route o)).bind fun _ => .pure _

/-- **A handler task never panics:** whatever the handler does, its outcome is caught and
reported. -/
theorem Handlers.run_within_of_handle {panics : Bool} (hA : Routine A me) (h : Subscription)
    (e : BusEvent) (hh : Program.Within A me true (Handlers.handle h.subscriber e)) :
    Program.Within A me panics (Handlers.run h e) := by
  unfold Handlers.run
  simp only [Program.bind_def]
  exact .clock _ fun _ => (Program.Within.catching hh).bind fun r =>
    .clock _ fun _ => hA.write (.report h e r _)

/-! ## Sub-agents and the heartbeat loop -/

/-- **Settling a task changes only the sub-agent manager.** -/
theorem Subagents.settle_fst (id : String) (r : Except String (Option (Except String RunResult)))
    (d : Deployment) :
    (Subagents.settle id r d).1 = { d with subagents := (Subagents.settle id r d).1.subagents } := by
  unfold Subagents.settle
  split <;> rfl

/-- **The completion callback never panics:** it runs caught, and its failure or panic becomes
an incident. -/
theorem Subagents.notify_within (hA : Routine A me) {panics : Bool} (id : String)
    (settled : Option SubagentTask) (c : Option CompletionCallback) :
    Program.Within A me panics (Subagents.notify id settled c) := by
  have callback : ∀ (c : CompletionCallback) (t : SubagentTask),
      Program.Within A me true (Subagents.callback c t) := by
    intro c t
    unfold Subagents.callback Subagents.announce
    simp only [Program.bind_def, Program.pure_def]
    cases c with
    | announce =>
      refine (hA.read _).bind fun closed => ?_
      split
      · exact .pure _
      · exact hA.publish _ fun delivery =>
          (Delivery.settled_within hA delivery).bind fun _ => .pure _
    | panic => exact .panic _
    | fail msg => exact .pure _
  unfold Subagents.notify
  simp only [Program.bind_def, Program.pure_def]
  split
  · refine (Program.Within.catching (callback _ _)).bind fun r => ?_
    split
    · exact .pure _
    · exact hA.write (.observe fun _ => _)
    · exact hA.write (.observe fun _ => _)
  · exact .pure _

/-- **Settling a task and telling its callback** never panics. Settling its own record is the one
step it takes beyond routine work. -/
theorem Subagents.finish_within (hA : Routine A me) {panics : Bool} (id : String)
    (c : Option CompletionCallback) (r : Except String (Option (Except String RunResult)))
    (hsettle : ∀ ex, A ex { ex with shared := (Subagents.settle id r ex.shared).1 }) :
    Program.Within A me panics (Subagents.finish id c r) :=
  (Program.Within.update hsettle).bind fun settled => Subagents.notify_within hA id settled c

/-- **A sub-agent task never panics:** its run and its callback are caught. -/
theorem Subagents.run_within (hA : Routine A me) {panics : Bool} (id : String)
    (hsettle : ∀ ex r, A ex { ex with shared := (Subagents.settle id r ex.shared).1 }) :
    Program.Within A me panics (Subagents.run id) := by
  unfold Subagents.run
  simp only [Program.bind_def, Program.pure_def]
  refine (hA.read _).bind fun manager => ?_
  cases manager with
  | none => exact .pure _
  | some m =>
    dsimp only
    split
    · exact .pure _
    · exact (Program.Within.catching (.within _ hA.timer (AgentRun.run_within hA.reasons _ _ _ _
        _))).bind fun r => Subagents.finish_within hA id m.callback r (hsettle · r)

/-- One heartbeat: it may panic, as the engine may. -/
theorem Heartbeats.tick_within (hA : Routine A me) (plan : HeartbeatPlan) :
    Program.Within A me true (Heartbeats.tick plan) := by
  unfold Heartbeats.tick
  simp only [Program.bind_def, Program.pure_def]
  refine Program.Within.now.bind fun t => (hA.read _).bind fun minute => ?_
  split
  · exact .pure _
  · refine (Reasoning.process_within hA.reasons _).bind fun reply => ?_
    cases reply with
    | error e => exact .pure _
    | ok r =>
      dsimp only
      split
      · exact .pure _
      · exact hA.publish _ fun _ => .pure _

/-- One round of the heartbeat's timer loop. -/
theorem Heartbeats.timerRound_within (hA : Routine A me) (plan : HeartbeatPlan) (due : Nat) :
    Program.Within A me true (Heartbeats.timerRound plan due) := by
  unfold Heartbeats.timerRound
  simp only [Program.bind_def, Program.pure_def]
  refine (Program.Within.sleepUntil _ _ _ (fun ex => hA.timer ex due) fun _ => .pure ()).bind
    fun _ => Program.Within.now.bind fun t => (hA.read _).bind fun closed => ?_
  split
  · exact .pure _
  · refine (Heartbeats.tick_within hA plan).bind fun r => ?_
    -- A failed tick is an incident; either way the round gives the next deadline.
    cases r with
    | error e => exact (hA.write (.observe fun _ => _)).bind fun _ => .pure _
    | ok o => exact .pure _

/-- **The heartbeat's timer loop,** round after round. -/
theorem Heartbeats.loop_within (hA : Routine A me) (plan : HeartbeatPlan) (due : Nat) :
    Program.Within A me true (Heartbeats.loop plan due) :=
  .loop _ _ _ hA.wake (Heartbeats.timerRound_within hA plan)
    (Heartbeats.timerRound_within hA plan due) fun _ => .pure _

/-- **The heartbeat task.** -/
theorem Heartbeats.run_within (hA : Routine A me) :
    Program.Within A me true Heartbeats.run := by
  unfold Heartbeats.run
  simp only [Program.bind_def, Program.pure_def]
  refine (hA.read _).bind fun hb => ?_
  cases hb with
  | none => exact .pure _
  | some h => exact Program.Within.now.bind fun t => Heartbeats.loop_within hA _ _

end ChatGateway
