import ChatGateway.Gateway.Heartbeat

/-! # Bringing the gateway up and down

* `Lifecycle.startChannels` subscribes the outbound router (once) and starts the channels;
  `stopChannels` unsubscribes it and stops them. The channels are called side by side, and their
  answers are awaited before they are recorded; failures become incidents.
* `Lifecycle.startAdapter` subscribes the responder to inbound events (once), with a fresh set of
  per-chat locks when chats are answered in order; `stopAdapter` unsubscribes it.
* The services are the cron service, then the heartbeat; each one's start or stop failure is an
  incident of that service.
* `Lifecycle.start` runs only from `stopped` and refuses a closed bus: adapter, channels,
  services, then `running`. A stop that arrives while starting is remembered and runs as soon
  as the start is done, so the gateway never stays up after a stop request.
* `Lifecycle.stop` runs only from `running`: services in reverse order, channels, adapter, then
  the bus is closed and the gateway is `stopped`.
-/

namespace ChatGateway

open Scheduling.Program (update modify read sleep)

/-- **A background service of the gateway.** -/
inductive Service where
  | cron
  | heartbeat
  deriving Repr, DecidableEq

namespace Lifecycle

/-- **Subscribes the router,** unless it is subscribed. -/
def subscribeRouter : Act Unit := modify fun (d : Deployment) =>
  match d.channels.router with
  | some _ => d
  | none =>
    let (bus, id) := d.bus.subscribe .outbound .router
    { d with bus, channels := { d.channels with router := some id } }

/-- **Unsubscribes the router.** -/
def unsubscribeRouter : Act Unit := modify fun (d : Deployment) =>
  match d.channels.router with
  | some id => { d with bus := (d.bus.unsubscribe .outbound id).1,
                        channels := { d.channels with router := none } }
  | none => d

/-- **A lifecycle call over every channel:** the calls go out, their answers are awaited side
by side, each after its channel's delay, and then recorded with their incidents. -/
def callChannels (target status : ChannelStatus) (f : MemoryChannel → MemoryChannel × Except String Unit)
    (delay : MemoryChannel → Nat) (ok : Option ChannelStatus) (incident : String → String → Incident) :
    Act LifecycleReport := do
  let calls ← update fun (d : Deployment) =>
    let (channels, calls) := d.channels.callAll target status f delay
    ({ d with channels }, calls)
  let answers ← Scheduling.Program.all (calls.map fun (name, ms, r) => do
    sleep ms
    pure (name, r))
  update fun (d : Deployment) =>
    let (channels, report, incidents) := d.channels.settleAll ok incident answers
    (incidents.foldl Deployment.observe { d with channels }, report)

/-- **Subscribes the router and starts the channels** that are not running. -/
def startChannels : Act LifecycleReport := do
  subscribeRouter
  callChannels .running .starting MemoryChannel.start (·.startDelayMs) (some .running)
    Incident.channelStartFailed

/-- **Unsubscribes the router and stops the channels** that are not stopped. -/
def stopChannels : Act LifecycleReport := do
  unsubscribeRouter
  callChannels .stopped .stopped MemoryChannel.stop (·.stopDelayMs) none Incident.channelStopFailed

/-- **Subscribes the responder,** unless it is subscribed. -/
def startAdapter : Act Unit := modify fun (d : Deployment) =>
  match d.adapter.subscription with
  | some _ => d
  | none =>
    let (locks, next) :=
      if d.adapter.ordering == .perChat then (some d.nextLocks, d.nextLocks + 1)
      else (none, d.nextLocks)
    let (bus, id) := d.bus.subscribe .inbound (.responder locks)
    { d with bus, nextLocks := next, adapter := { d.adapter with subscription := some id } }

/-- **Unsubscribes the responder.** -/
def stopAdapter : Act Unit := modify fun (d : Deployment) =>
  match d.adapter.subscription with
  | some id => { d with bus := (d.bus.unsubscribe .inbound id).1,
                        adapter := { d.adapter with subscription := none } }
  | none => d

/-- The services of a deployment, cron first. -/
def services (d : Deployment) : List Service :=
  (if d.cron.isSome then [Service.cron] else []) ++
    (if d.heartbeat.isSome then [Service.heartbeat] else [])

/-- The name of a service. -/
def serviceName (d : Deployment) : Service → String
  | .cron => (d.cron.map (·.name)).getD "cron"
  | .heartbeat => Heartbeats.sender

/-- Changes the cron service. -/
def modifyCron (f : ScriptedService → ScriptedService) (d : Deployment) : Deployment :=
  { d with cron := d.cron.map f }

/-- Counts a start of the cron service, returning the service as it was. -/
def countCronStart (d : Deployment) : Deployment × Option ScriptedService :=
  (modifyCron (fun c => { c with starts := c.starts + 1 }) d, d.cron)

/-- Counts a stop of the cron service, returning the service as it was. -/
def countCronStop (d : Deployment) : Deployment × Option ScriptedService :=
  (modifyCron (fun c => { c with stops := c.stops + 1 }) d, d.cron)

/-- **Starts a service.** -/
def startService : Service → Act (Except String Unit)
  | .heartbeat => Heartbeats.start
  | .cron => do
    let c ← update countCronStart
    match c with
    | none => pure (.ok ())
    | some c => do
      sleep c.startDelayMs
      pure (match c.failStart with
        | some e => .error e
        | none => .ok ())

/-- **Stops a service.** -/
def stopService : Service → Act (Except String Unit)
  | .heartbeat => Heartbeats.stop
  | .cron => do
    let c ← update countCronStop
    match c with
    | none => pure (.ok ())
    | some c => do
      sleep c.stopDelayMs
      pure (match c.failStop with
        | some e => .error e
        | none => .ok ())

/-- Runs a service action and reports its failure. -/
def serviceStep (action : String) (s : Service) (f : Service → Act (Except String Unit)) :
    Act Unit := do
  let r ← f s
  match r with
  | .ok () => pure ()
  | .error e => modify fun (d : Deployment) => d.observe (.serviceFailed (serviceName d s) action e)

/-- Sets the gateway state. -/
def setState (s : GatewayState) (d : Deployment) : Deployment :=
  { d with lifecycle := { d.lifecycle with state := s } }

/-- **A stop request:** a running gateway starts stopping (`true`); a starting one remembers
the request; otherwise nothing happens. -/
def requestStop (d : Deployment) : Deployment × Bool :=
  match d.lifecycle.state with
  | .running => (setState .stopping d, true)
  | .starting => ({ d with lifecycle := { d.lifecycle with stopRequested := true } }, false)
  | _ => (d, false)

/-- The end of a stop: the bus is closed and the gateway is stopped. -/
def shutDown (d : Deployment) : Deployment := setState .stopped { d with bus := d.bus.close }

/-- **Stops the gateway.** -/
def stop : Act Unit := do
  let go ← update requestStop
  if go then
    let ss ← read services
    ss.reverse.forM fun s => serviceStep "stop" s stopService
    let _ ← stopChannels
    stopAdapter
    modify shutDown

/-- **A start request:** only a stopped gateway on an open bus starts (`none`); otherwise the
answer is given at once. -/
def beginStart (d : Deployment) : Deployment × Option (Except GatewayError Unit) :=
  if d.lifecycle.state != .stopped then (d, some (.ok ()))
  else if d.bus.closed then (d, some (.error .busClosed))
  else (setState .starting d, none)

/-- The end of a start: the gateway runs; whether a stop was requested meanwhile. -/
def finishStart (d : Deployment) : Deployment × Bool :=
  ({ d with lifecycle := { state := .running, stopRequested := false } }, d.lifecycle.stopRequested)

/-- **Starts the gateway.** -/
def start : Act (Except GatewayError Unit) := do
  let early ← update beginStart
  match early with
  | some r => pure r
  | none => do
    startAdapter
    let _ ← startChannels
    let ss ← read services
    ss.forM fun s => serviceStep "start" s startService
    let requested ← update finishStart
    if requested then stop
    pure (.ok ())

end Lifecycle

end ChatGateway
