import ChatGateway.Requests.ScenarioSetup
import ChatGateway.Requests.Mask

/-! # Scenarios

A scenario sets up a deployment and runs its steps in order on one executor. After each step
every task that can go on without the clock moving is given time to finish (the main program
yields 200 times); the step's answer then holds its result, the incidents reported meanwhile
(ordered by their JSON text with task ids masked, equal texts in report order), and the entries
the scripted handlers logged meanwhile. A step that fails answers with its failure and the
scenario goes on; only `advance` and steps that wait on timers let virtual time pass.
-/

namespace ChatGateway

namespace Requests

open Scheduling.Program (update modify read sleep fork catching)

/-- **What a scenario remembers between steps:** the subscription ids its steps received and
the ids of the tasks its steps started. -/
structure ScenarioState where
  configured : Bool := false
  subscribed : List Nat := []
  spawned : List String := []

/-- A step's outcome with the scenario state after it. -/
abbrev StepOutcome := ScenarioState × Answer

/-- Runs `k` on a request value, or fails the step with its failure. -/
def given {α : Type} (ctx : ScenarioState) (r : Except Failure α) (k : α → Act Answer) :
    Act StepOutcome :=
  match r with
  | .error f => pure (ctx, .error f)
  | .ok a => do
    let out ← k a
    pure (ctx, out)

/-- A step that only reads the deployment. -/
def readStep (ctx : ScenarioState) (f : Deployment → Answer) : Act StepOutcome := do
  let a ← read f
  pure (ctx, a)

/-- The topic of a step. -/
def topicOf (s : String) : Except Failure Topic :=
  if s == "inbound" || s == Topic.inbound.name then .ok .inbound
  else if s == "outbound" || s == Topic.outbound.name then .ok .outbound
  else .error (.badInput ("unknown topic " ++ s))

/-- The topic and subscription id of a step; the id must come from this scenario. -/
def subscriptionOf (ctx : ScenarioState) (step : Json) : Except Failure (Topic × Nat) := do
  let topic ← topicOf (← Request.str step "topic")
  let id ← Request.str step "id"
  match ctx.subscribed.find? fun n => Bus.idText n == id with
  | some n => pure (topic, n)
  | none => throw (.badInput "unknown subscription id")

/-- The event of a step. -/
def eventOf (step : Json) : Except Failure BusEvent := do
  let e ← Request.field step "event"
  let kind ← Request.str e "kind"
  match kind with
  | "inbound" => pure (.inbound (← Request.decode e "message" InboundMessage.decode))
  | "outbound" => pure (.outbound (← Request.decode e "message" OutboundMessage.decode))
  | other => throw (.badInput ("unknown event kind " ++ other))

/-- The failure of a channel error. -/
def channelFailure (e : ChannelError) : Failure := ⟨e.kind, e.text⟩

/-- The failure of a step naming something the scenario lacks. -/
def lacks (what : String) : Failure := .badInput ("scenario has no " ++ what)

/-- The sub-agent manager of a deployment. -/
def managerOf (d : Deployment) : Except Failure SubagentManager :=
  match d.subagents with
  | some m => .ok m
  | none => .error (lacks "sub-agent manager")

/-- The adapter's state. -/
def adapterJson (d : Deployment) : Json :=
  Json.object [("started", .bool d.adapter.subscription.isSome),
    ("ordering", .str d.adapter.ordering.name)]

/-- The gateway's state. -/
def gatewayJson (d : Deployment) : Json :=
  Json.object [("state", .str d.lifecycle.state.name),
    ("running", .bool (d.lifecycle.state == .running)),
    ("active_channels", .arr (d.channels.names.map Json.str)),
    ("adapter_started", .bool d.adapter.subscription.isSome),
    ("adapter_ordering", .str d.adapter.ordering.name),
    ("bus_closed", .bool d.bus.closed),
    ("inbound_subscribers", .ofNat (d.bus.count .inbound)),
    ("outbound_subscribers", .ofNat (d.bus.count .outbound)),
    ("has_subagents", .bool d.subagents.isSome)]

/-- The heartbeat service's state. -/
def heartbeatJson (running : Bool) (h : HeartbeatService) : Json :=
  Json.object [("running", .bool running), ("every_ms", .ofNat h.plan.everyMs),
    ("target", Json.object [("channel", .str h.plan.target.channel),
      ("chat_id", .str h.plan.target.chatId)]),
    ("name", .str Heartbeats.sender)]

/-- The heartbeat service, when the scenario has a handle on it. -/
def heartbeatOfScenario (ctx : ScenarioState) (d : Deployment) : Except Failure HeartbeatService :=
  match d.heartbeat, ctx.configured with
  | some h, false => .ok h
  | _, _ => .error (lacks "heartbeat handle")

/-- The heartbeat state step. -/
def heartbeatState (ctx : ScenarioState) : Act StepOutcome := do
  let h ← read (heartbeatOfScenario ctx)
  given ctx h fun h => do
    let running ← Heartbeats.isRunning
    pure (.ok (heartbeatJson running h))

/-- The JSON of a lifecycle report. -/
def reportStep (ctx : ScenarioState) (p : Act LifecycleReport) : Act StepOutcome := do
  let r ← p
  pure (ctx, .ok r.toJson)

/-- A registered channel of the scenario. -/
def channelOf (d : Deployment) (name : String) : Except Failure MemoryChannel :=
  match d.channels.entry? name with
  | some e => .ok e.channel
  | none => .error (lacks ("channel " ++ name))

/-- The answer to a publish through a channel's publisher. -/
def publishedAnswer (r : Except ChannelError Delivery) (extra : List (String × Json)) : Answer :=
  match r with
  | .error e => .error (channelFailure e)
  | .ok delivery => .ok (Json.object ([("handler_count", .ofNat delivery.handlerCount)] ++ extra))

/-- A new in-process channel from a `register` step, bound as the step says. -/
def channelFromStep (d : Deployment) (step : Json) : Except Failure MemoryChannel := do
  let name ← Request.str step "name"
  let failStart ← Request.strOpt step "fail_start"
  let failStop ← Request.strOpt step "fail_stop"
  let failSend ← Request.strOpt step "fail_send"
  let bind ← Request.boolOr step "bind" true
  let bindAs ← Request.strOpt step "bind_as"
  let openPublisher ← Request.boolOr step "open_publisher" false
  let publisher :=
    if openPublisher then some ⟨name, []⟩
    else if bind then some (d.channels.publisher (bindAs.getD name))
    else none
  pure { name, failStart, failStop, failSend, publisher }

/-- The outcome of a heartbeat. -/
def outcomeJson : HeartbeatOutcome → Json
  | .outsideActiveHours => Json.object [("outcome", .str "outside_active_hours")]
  | .suppressed => Json.object [("outcome", .str "suppressed")]
  | .delivered m => Json.object [("outcome", .str "delivered"), ("message", m.toJson)]

/-- The sub-agent tasks. -/
def tasksJson (m : SubagentManager) : Json :=
  Json.object [("all", .arr (m.table.listAll.map SubagentTask.toJson)),
    ("active", .arr (m.table.active.map SubagentTask.toJson))]

/-- **Runs one step.** -/
def runStep (ctx : ScenarioState) (step : Json) : Act StepOutcome :=
  match Request.str step "do" with
  | .error f => pure (ctx, .error f)
  | .ok name =>
  match name with
  | "subscribe" =>
    let input : Except Failure (Topic × String × HandlerBehavior) := do
      let topic ← topicOf (← Request.str step "topic")
      let n ← Request.str step "name"
      pure (topic, n, HandlerBehavior.ofJson ((step.get? "behavior").getD .null))
    match input with
    | .error f => pure (ctx, .error f)
    | .ok (topic, n, b) => do
      let id ← update fun (d : Deployment) =>
        let (bus, id) := d.bus.subscribe topic (.scripted n b)
        ({ d with bus }, id)
      pure ({ ctx with subscribed := ctx.subscribed ++ [id] },
        .ok (Json.object [("id", .str (Bus.idText id))]))
  | "unsubscribe" =>
    given ctx (subscriptionOf ctx step) fun (topic, id) => update fun (d : Deployment) =>
      let (bus, removed) := d.bus.unsubscribe topic id
      ({ d with bus }, .ok (Json.object [("removed", .bool removed)]))
  | "stats" =>
    given ctx (subscriptionOf ctx step) fun (topic, id) => read fun (d : Deployment) =>
      .ok (match d.bus.stats? topic id with
        | some s => Json.object [("call_count", .ofNat s.calls.toNat),
            ("failure_count", .ofNat s.failures.toNat)]
        | none => .null)
  | "stats_idle" =>
    given ctx (subscriptionOf ctx step) fun (topic, id) => read fun (d : Deployment) =>
      .ok (match d.bus.stats? topic id with
        | some s =>
          if s.calls = 0 then Json.object [("avg_latency_us", .ofNat s.averageMicros.toNat)]
          else Json.object [("called", .bool true)]
        | none => .null)
  | "publish" =>
    given ctx (eventOf step) fun e => do
      let delivery ← Delivery.publish e
      pure (.ok (Json.object [("handler_count", .ofNat delivery.handlerCount)]))
  | "bus_debug" => readStep ctx fun d => .ok (Json.object [("debug", .str d.bus.debugText)])
  | "publisher_debug" =>
    given ctx (Request.str step "channel") fun c => read fun (d : Deployment) =>
      let p := d.channels.publisher c
      .ok (Json.object [("debug", .str p.debugText), ("channel", .str p.channel)])
  | "observer_state" => readStep ctx fun d =>
    .ok (if ctx.configured then .null
      else
        Json.object [("len", .ofNat d.incidents.length),
          ("is_empty", .bool d.incidents.isEmpty)])
  | "gateway_stop_bg" => do
    let _ ← fork .gatewayStop
    pure (ctx, .ok (Json.object [("spawned", .bool true)]))
  | "gateway_start_bg" => do
    let _ ← fork .gatewayStart
    pure (ctx, .ok (Json.object [("spawned", .bool true)]))
  | "gateway_bg_result" => readStep ctx fun d =>
    .ok (match d.backgroundStart with
      | some (.ok ()) => Json.object [("ok", .bool true)]
      | some (.error e) => (Failure.mk e.kind e.text).toJson
      | none => .null)
  | "close" => do
    modify fun (d : Deployment) => { d with bus := d.bus.close }
    pure (ctx, .ok (Json.object [("closed", .bool true)]))
  | "bus_state" => readStep ctx fun d =>
    .ok (Json.object [("closed", .bool d.bus.closed), ("inbound", .ofNat (d.bus.count .inbound)),
      ("outbound", .ofNat (d.bus.count .outbound))])
  | "register" => do
    let r ← update fun (d : Deployment) =>
      match channelFromStep d step with
      | .error f => (d, .error f)
      | .ok c =>
        match d.channels.register c with
        | .ok channels => ({ d with channels }, .ok (Json.object [("registered", .bool true)]))
        | .error e => (d, .error (channelFailure e))
    pure (ctx, r)
  | "start_all" => reportStep ctx Lifecycle.startChannels
  | "stop_all" => reportStep ctx Lifecycle.stopChannels
  | "channels" => readStep ctx fun d =>
    .ok (Json.object [("names", .arr (d.channels.names.map Json.str)),
      ("status",
        Json.object (d.channels.entries.map fun e => (e.channel.name, .str e.status.name))),
      ("routing", .bool d.channels.router.isSome)])
  | "status" =>
    given ctx (Request.str step "name") fun n => read fun (d : Deployment) =>
      let e := d.channels.entry? n
      .ok (Json.object [("status", Json.ofOption (e.map (·.status.name))),
        ("present", .bool e.isSome)])
  | "inject" =>
    given ctx (Request.str step "channel") fun n => do
      let c ← read (channelOf · n)
      match c, Request.decode step "message" InboundMessage.decode with
      | .error f, _ => pure (.error f)
      | _, .error f => pure (.error f)
      | .ok c, .ok m =>
        match c.injector with
        | .error e => pure (.error (channelFailure e))
        | .ok p => do
          let r ← p.publish m
          pure (publishedAnswer r [])
  | "publisher_publish" =>
    let input : Except Failure (String × InboundMessage × Option String) := do
      let c ← Request.str step "channel"
      let m ← Request.decode step "message" InboundMessage.decode
      let check ← Request.strOpt step "check_sender"
      pure (c, m, check)
    given ctx input fun (c, m, check) => do
      let p ← read (·.channels.publisher c)
      let r ← p.publish m
      pure (publishedAnswer r [("channel", .str p.channel),
        ("check", match check with
          | some s => .bool (p.allows s)
          | none => .null)])
  | "sent" =>
    given ctx (Request.str step "channel") fun n => read fun (d : Deployment) =>
      (channelOf d n).map fun c =>
        Json.object [("sent", .arr (c.sent.map OutboundMessage.toJson)),
          ("running", .bool c.running), ("starts", .ofNat c.starts), ("stops", .ofNat c.stops)]
  | "adapter_start" => do
    Lifecycle.startAdapter
    readStep ctx fun d => .ok (adapterJson d)
  | "adapter_stop" => do
    Lifecycle.stopAdapter
    readStep ctx fun d => .ok (adapterJson d)
  | "adapter_state" => readStep ctx fun d => .ok (adapterJson d)
  | "gateway_start" => do
    let r ← Lifecycle.start
    match r with
    | .error e => pure (ctx, .error ⟨e.kind, e.text⟩)
    | .ok () => readStep ctx fun d => .ok (Json.object [("state", .str d.lifecycle.state.name)])
  | "gateway_stop" => do
    Lifecycle.stop
    readStep ctx fun d => .ok (Json.object [("state", .str d.lifecycle.state.name)])
  | "gateway_state" => readStep ctx fun d => .ok (gatewayJson d)
  | "subagent_config" => readStep ctx fun d => (managerOf d).map fun m =>
    Json.object [("max_iterations", .ofNat m.budget.maxIterations),
      ("timeout_secs", .ofNat (m.budget.timeoutMs / 1000)),
      ("timeout_subsec_millis", .ofNat (m.budget.timeoutMs % 1000)),
      ("max_retained", .ofNat m.budget.maxRetained)]
  | "spawn" => do
    let m ← read managerOf
    let input : Except Failure (String × String × String × Option String) := do
      let _ ← m
      let task ← Request.str step "task"
      let channel ← Request.str step "channel"
      let chatId ← Request.str step "chat_id"
      let label ← Request.strOpt step "label"
      pure (task, channel, chatId, label)
    match input with
    | .error f => pure (ctx, .error f)
    | .ok (task, channel, chatId, label) => do
      let id ← AgentRun.spawnSubagent task label channel chatId
      let state ← read fun (d : Deployment) =>
        ((d.subagents.bind (·.table.get? id)).map SubagentTask.toJson).getD .null
      pure ({ ctx with spawned := ctx.spawned ++ [id] },
        .ok (Json.object [("id", .str id), ("state", state)]))
  | "spawn_tool" => do
    let m ← read managerOf
    given ctx (m.map fun _ => ()) fun () => do
      let r ← AgentRun.spawnTool ((step.get? "params").getD .null)
      pure (match r with
        | .ok v => .ok (Json.object [("result", v)])
        | .error e => .error ⟨"tool", e⟩)
  | "tasks" => readStep ctx fun d => (managerOf d).map tasksJson
  | "get_task" => readStep ctx fun d => do
    let m ← managerOf d
    let id ← match (step.get? "index").bind Json.nat? with
      | some i => match ctx.spawned[i]? with
        | some id => pure id
        | none => .error (.badInput "no spawned task at that index")
      | none => Request.str step "id"
    pure (((m.table.get? id).map SubagentTask.toJson).getD .null)
  | "advance" =>
    given ctx (Request.nat step "ms") fun ms => do
      sleep ms
      pure (.ok (Json.object []))
  | "heartbeat_run_once" => do
    let h ← read (heartbeatOfScenario ctx)
    given ctx h fun h => do
      let r ← Heartbeats.tick h.plan
      pure (match r with
        | .ok o => .ok (outcomeJson o)
        | .error e => .error ⟨"engine", e⟩)
  | "heartbeat_start" => do
    let h ← read (heartbeatOfScenario ctx)
    match h with
    | .error f => pure (ctx, .error f)
    | .ok _ => do
      let r ← Heartbeats.start
      match r with
      | .error e => pure (ctx, .error ⟨"service", e⟩)
      | .ok () => heartbeatState ctx
  | "heartbeat_stop" => do
    let h ← read (heartbeatOfScenario ctx)
    match h with
    | .error f => pure (ctx, .error f)
    | .ok _ => do
      let _ ← Heartbeats.stop
      heartbeatState ctx
  | "heartbeat_state" => heartbeatState ctx
  | "engine_seen" => readStep ctx fun d =>
    match d.engine, ctx.configured with
    | .scripted _, false => .ok (.arr (d.seen.map InboundMessage.toJson))
    | _, _ => .error (lacks "scripted engine")
  | "service_counts" => readStep ctx fun d =>
    match d.cron with
    | some c => .ok (Json.object [("starts", .ofNat c.starts), ("stops", .ofNat c.stops)])
    | none => .error (lacks "cron service")
  | other => pure (ctx, .error (.badInput ("unknown step " ++ other)))

/-- The number of times the main program yields after each step. -/
def settleYields : Nat := 200

/-- Yields `n` times. -/
def yieldTimes : Nat → Act Unit
  | 0 => pure ()
  | n + 1 => do
    Scheduling.Program.yield
    yieldTimes n

/-- The sort key of an incident: its JSON text with task ids masked. -/
def incidentKey (i : Incident) : String := (Mask.answer i.toJson).compact

/-- **Runs one step and gathers what happened during it.** -/
def stepWithEffects (ctx : ScenarioState) (step : Json) : Act (ScenarioState × Json) := do
  let (i0, e0) ← read fun (d : Deployment) => (d.incidents.length, d.events.length)
  let r ← catching (runStep ctx step)
  let (ctx, result) := match r with
    | .ok (ctx, a) => (ctx, a.toJson)
    | .error p => (ctx, (Failure.mk "panic" p).toJson)
  yieldTimes settleYields
  let (incidents, events) ← read fun (d : Deployment) => (d.incidents.drop i0, d.events.drop e0)
  let incidents := incidents.mergeSort fun a b => decide (incidentKey a ≤ incidentKey b)
  pure (ctx, Json.object [("do", (step.get? "do").getD .null), ("result", result),
    ("incidents", .arr (incidents.map Incident.toJson)), ("events", .arr events)])

/-- Runs the steps in order. -/
def runSteps (ctx : ScenarioState) : List Json → Act (List Json)
  | [] => pure []
  | s :: rest => do
    let (ctx, out) ← stepWithEffects ctx s
    let outs ← runSteps ctx rest
    pure (out :: outs)

/-- `scenario`: a setup and its steps. -/
def scenario (r : Json) : Answer := do
  let setup ← Request.field r "setup"
  match scenarioSetup setup with
  | .error f => pure (Json.object [("setup_error", f.toJson)])
  | .ok s =>
    let steps ← Request.arr r "steps"
    let (_, ending) := s.deployment.run (runSteps { configured := s.configured } steps)
    match ending with
    | .finished outs => pure (Json.object [("steps", .arr outs)])
    | .panicked m => throw ⟨"panic", m⟩
    | .stalled => throw stalled

end Requests

end ChatGateway
