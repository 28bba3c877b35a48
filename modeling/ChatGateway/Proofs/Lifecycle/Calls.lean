import ChatGateway.Proofs.Lifecycle.Frame
import ChatGateway.Proofs.Scheduling.Residual

/-! # The stages of a start and of a stop of the gateway

A start or a stop of the gateway is synchronous except where it waits: for the channels' answers,
which it awaits side by side, and for the cron service's delay. One poll runs it from one such
wait to the next, or to its end. This file names the programs it is made of and gives one poll
equation for each of them, so that every poll of a start or a stop is a chain of these equations.

* `raised`: the start's first stage, from `stopped` to `starting` with the responder and the router
  subscribed and the channels called; `startAnswered`: what the start runs once the channels have
  answered.
* `lowering`: the stop's stage after the services, with the router unsubscribed and the channels
  called; `stopAnswered`: once they have answered, the responder unsubscribed, the bus closed and
  the gateway `stopped`.
* `startWait`, `stopWait`: a start or a stop waiting out the cron service's delay, and
  `startResume`, `stopResume`: what it runs once the delay has passed.
* `awaitAnswers_ends`: the channels' answers come back as the calls gave them, in the order of the
  calls, whatever order they arrived in.
* `poll_startJob`, `poll_startAnswered`, `poll_startStep_cron`, `poll_startStep_heartbeat`,
  `poll_finishing`, `poll_stop_bind`, `poll_stopStep_cron`, `poll_stopStep_heartbeat`,
  `poll_tearDown`, `poll_stopAnswered`, `poll_startWait`, `poll_stopWait`: the poll equations.
-/

namespace ChatGateway

open Scheduling Scheduling.Executor

/-! ## Polls of the shared-state effects -/

/-- A program that ends with its own value. -/
theorem Scheduling.Program.bind_pure {ι σ α : Type} (p : Program ι σ α) : p.bind .pure = p := by
  induction p with
  | pure a => rfl
  | panic m => rfl
  | step h k ih => simp only [Program.bind, ih]
  | clock k ih => simp only [Program.bind, ih]
  | sleepUntil d t k ih => simp only [Program.bind, ih]
  | pending => rfl
  | spawn j k ih => simp only [Program.bind, ih]
  | join t k ih => simp only [Program.bind, ih]
  | started t k ih => simp only [Program.bind, ih]
  | finished t k ih => simp only [Program.bind, ih]
  | abort t k ih => simp only [Program.bind, ih]
  | lock m t k ih => simp only [Program.bind, ih]
  | unlock m k ih => simp only [Program.bind, ih]
  | yieldNow y k ih => simp only [Program.bind, ih]
  | guard inner k _ ih => simp only [Program.bind, ih]
  | timeout d t inner k _ ih => simp only [Program.bind, ih]
  | both p q k _ _ ih => simp only [Program.bind, ih]
  | loop body c k _ _ ih => simp only [Program.bind, ih]

/-- A program that is no panic, followed by one that never ends at once, has not ended. -/
theorem Scheduling.Program.isDone_bind_of_ne_panic {ι σ α β : Type} {p : Program ι σ α}
    (hp : ∀ m, p ≠ .panic m) {f : α → Program ι σ β} (hf : ∀ a, (f a).isDone = false) :
    (p.bind f).isDone = false := by
  cases p with
  | pure a => exact hf a
  | panic m => exact absurd rfl (hp m)
  | _ => rfl

theorem Scheduling.Executor.poll_update_bind {α β : Type} (me : Nat) (ex : Exec)
    (f : Deployment → Deployment × β) (k : β → Act α) :
    poll me ex ((Scheduling.Program.update f).bind k) =
      poll me { ex with shared := (f ex.shared).1 } (k (f ex.shared).2) := rfl

theorem Scheduling.Executor.poll_modify_bind {α : Type} (me : Nat) (ex : Exec)
    (f : Deployment → Deployment) (k : Unit → Act α) :
    poll me ex ((Scheduling.Program.modify f).bind k) = poll me { ex with shared := f ex.shared } (k ()) :=
  rfl

theorem Scheduling.Executor.poll_read_bind {α β : Type} (me : Nat) (ex : Exec) (f : Deployment → β)
    (k : β → Act α) : poll me ex ((Scheduling.Program.read f).bind k) = poll me ex (k (f ex.shared)) :=
  rfl

/-- **A sleep** of no time goes on at once; otherwise it takes a timer and waits. -/
theorem Scheduling.Executor.poll_sleep_bind {α : Type} (me : Nat) (ex : Exec) (ms : Nat)
    (k : Unit → Act α) :
    poll me ex ((Scheduling.Program.sleep ms).bind k) =
      if ms = 0 then poll me ex (k ())
      else ((ex.addTimer (ex.now + ms) me).1, .sleepUntil (ex.now + ms) (some ex.nextId) k) := by
  simp only [Scheduling.Program.sleep, Program.bind, poll]
  by_cases h : ms = 0
  · subst h
    simp
  · rw [if_neg (by omega), if_neg h]
    rfl

/-- A task waiting on a timer goes on once the clock has reached the deadline. -/
theorem Scheduling.Executor.poll_sleepUntil {α : Type} (me : Nat) (ex : Exec) (d t : Nat)
    (k : Unit → Act α) :
    poll me ex (.sleepUntil d (some t) k) =
      if d ≤ ex.now then poll me ex (k ()) else (ex, .sleepUntil d (some t) k) := by
  simp only [poll]

theorem Scheduling.Program.forM_cons_bind {α γ : Type} (a : γ) (rest : List γ)
    (f : γ → Act Unit) (k : Unit → Act α) :
    ((a :: rest).forM f).bind k = (f a).bind fun _ => (rest.forM f).bind k :=
  Program.bind_assoc (f a) (fun _ => rest.forM f) k

/-- The derived comparison of gateway states is equality. -/
@[simp] theorem GatewayState.bne_eq (a b : GatewayState) : (a != b) = !decide (a = b) := by
  cases a <;> cases b <;> rfl

/-- The derived comparison of channel statuses is equality. -/
@[simp] theorem ChannelStatus.bne_eq (a b : ChannelStatus) : (a != b) = !decide (a = b) := by
  cases a <;> cases b <;> rfl

namespace Lifecycle

/-! ## The stages, as programs -/

/-- The change that subscribes the responder, unless it is subscribed. -/
def adapterUp (d : Deployment) : Deployment :=
  match d.adapter.subscription with
  | some _ => d
  | none =>
    let (locks, next) :=
      if d.adapter.ordering == .perChat then (some d.nextLocks, d.nextLocks + 1)
      else (none, d.nextLocks)
    let (bus, id) := d.bus.subscribe .inbound (.responder locks)
    { d with bus, nextLocks := next, adapter := { d.adapter with subscription := some id } }

/-- The change that unsubscribes the responder. -/
def adapterDown (d : Deployment) : Deployment :=
  match d.adapter.subscription with
  | some id => { d with bus := (d.bus.unsubscribe .inbound id).1,
                        adapter := { d.adapter with subscription := none } }
  | none => d

/-- **Subscribing the router,** unless it is subscribed. -/
def routerUp (d : Deployment) : Deployment :=
  match d.channels.router with
  | some _ => d
  | none =>
    let (bus, id) := d.bus.subscribe .outbound .router
    { d with bus, channels := { d.channels with router := some id } }

/-- **Unsubscribing the router.** -/
def routerDown (d : Deployment) : Deployment :=
  match d.channels.router with
  | some id => { d with bus := (d.bus.unsubscribe .outbound id).1,
                        channels := { d.channels with router := none } }
  | none => d

theorem startAdapter_eq : startAdapter = Scheduling.Program.modify adapterUp := rfl

theorem stopAdapter_eq : stopAdapter = Scheduling.Program.modify adapterDown := rfl

/-- The calls of a start of the channels: every channel not running is `starting` and called. -/
def startCall (d : Deployment) : Deployment × List (String × Nat × Except String Unit) :=
  channelsCalled .running .starting MemoryChannel.start (·.startDelayMs) d

/-- The calls of a stop of the channels: every channel not stopped is `stopped` and called. -/
def stopCall (d : Deployment) : Deployment × List (String × Nat × Except String Unit) :=
  channelsCalled .stopped .stopped MemoryChannel.stop (·.stopDelayMs) d

/-- The answers of a start of the channels, recorded: `running` or `failed`, and an incident per
failure. -/
def startSettle (answers : List (String × Except String Unit)) (d : Deployment) :
    Deployment × LifecycleReport :=
  channelsSettled (some .running) Incident.channelStartFailed answers d

/-- The answers of a stop of the channels, recorded: `failed` and an incident per failure. -/
def stopSettle (answers : List (String × Except String Unit)) (d : Deployment) :
    Deployment × LifecycleReport :=
  channelsSettled none Incident.channelStopFailed answers d

theorem startChannels_eq : startChannels = (Scheduling.Program.modify routerUp).bind fun _ =>
    callChannels .running .starting MemoryChannel.start (·.startDelayMs) (some .running)
      Incident.channelStartFailed := rfl

theorem stopChannels_eq : stopChannels = (Scheduling.Program.modify routerDown).bind fun _ =>
    callChannels .stopped .stopped MemoryChannel.stop (·.stopDelayMs) none
      Incident.channelStopFailed := rfl

/-- **The first stage of a start:** `starting`, the responder subscribed, the router subscribed
and every channel that is not running called. -/
def raised (d : Deployment) : Deployment := (startCall (routerUp (adapterUp (setState .starting d)))).1

/-- The channels' start calls the first stage of a start makes. -/
def startCalls (d : Deployment) : List (String × Nat × Except String Unit) :=
  (startCall (routerUp (adapterUp (setState .starting d)))).2

/-- **The stage of a stop after its services:** the router unsubscribed and every channel that is
not stopped called. -/
def lowering (d : Deployment) : Deployment := (stopCall (routerDown d)).1

/-- The channels' stop calls of that stage. -/
def stopCalls (d : Deployment) : List (String × Nat × Except String Unit) := (stopCall (routerDown d)).2

/-- **The last stage of a stop:** the channels' answers recorded, the responder unsubscribed, the
bus closed and the gateway `stopped`. -/
def lowered (answers : List (String × Except String Unit)) (d : Deployment) : Deployment :=
  shutDown (adapterDown (stopSettle answers d).1)

/-- The answers of lifecycle calls as the channels give them: each call's channel and answer. -/
def answersOf (calls : List (String × Nat × Except String Unit)) : List (String × Except String Unit) :=
  calls.map fun c => (c.1, c.2.2)

/-- What follows a service's start or stop call: its failure becomes an incident. -/
def serviceDone (action : String) (s : Service) : Except String Unit → Act Unit
  | .ok () => .pure ()
  | .error e =>
    Scheduling.Program.modify fun (d : Deployment) => d.observe (.serviceFailed (serviceName d s) action e)

theorem serviceStep_eq (action : String) (s : Service) (f : Service → Act (Except String Unit)) :
    serviceStep action s f = (f s).bind (serviceDone action s) := by
  unfold serviceStep
  simp only [Program.bind_def]
  congr

/-- A service's start within a start of the gateway. -/
def startStep (s : Service) : Act Unit := serviceStep "start" s startService

/-- A service's stop within a stop of the gateway. -/
def stopStep (s : Service) : Act Unit := serviceStep "stop" s stopService

/-- The outcome of the cron service's start once its delay has passed. -/
def startOutcome (c : ScriptedService) : Except String Unit :=
  match c.failStart with
  | some e => .error e
  | none => .ok ()

/-- The outcome of the cron service's stop once its delay has passed. -/
def stopOutcome (c : ScriptedService) : Except String Unit :=
  match c.failStop with
  | some e => .error e
  | none => .ok ()

/-- **The end of a start:** the gateway runs, and a stop requested meanwhile runs now. -/
def finishing : Act (Except GatewayError Unit) := do
  let requested ← Scheduling.Program.update finishStart
  if requested then stop
  pure (.ok ())

/-- **The end of a stop:** the router, the channels and the responder, then the bus. -/
def tearDown : Act Unit := do
  let _ ← stopChannels
  stopAdapter
  Scheduling.Program.modify shutDown

/-- A background start keeps its outcome. -/
def kept (r : Except GatewayError Unit) : Act Unit := Scheduling.Program.modify (Deployment.keepStart r)

theorem start_eq : start = (Scheduling.Program.update beginStart).bind fun early =>
    match early with
    | some r => .pure r
    | none => startAdapter.bind fun _ => startChannels.bind fun _ =>
        (Scheduling.Program.read services).bind fun ss => (ss.forM startStep).bind fun _ => finishing :=
  rfl

theorem stop_eq : stop = (Scheduling.Program.update requestStop).bind fun go =>
    if go then (Scheduling.Program.read services).bind fun ss =>
      (ss.reverse.forM stopStep).bind fun _ => tearDown
    else .pure () := by
  unfold stop
  simp only [Program.bind_def, Program.pure_def]
  congr

/-- **The rest of a start once the channels have answered:** the answers recorded, the services
started, the end of the start, and the outcome kept. -/
def startAnswered (answers : List (String × Except String Unit)) : Act Unit :=
  (Scheduling.Program.update (startSettle answers)).bind fun _ =>
    (Scheduling.Program.read services).bind fun ss =>
      (ss.forM startStep).bind fun _ => finishing.bind kept

/-- **The rest of a stop once the channels have answered:** the answers recorded, the responder
unsubscribed, the bus closed, and then what the caller does next. -/
def stopAnswered {α : Type} (answers : List (String × Except String Unit)) (k : Unit → Act α) :
    Act α :=
  (Scheduling.Program.update (stopSettle answers)).bind fun _ =>
    stopAdapter.bind fun _ => (Scheduling.Program.modify shutDown).bind k

/-- The rest of a start once the cron service's start returned: its report, the services after it,
the end of the start, and the outcome kept. -/
def startResume (c : ScriptedService) (rest : List Service) : Act Unit :=
  (serviceDone "start" .cron (startOutcome c)).bind fun _ =>
    (rest.forM startStep).bind fun _ => finishing.bind kept

/-- **A start waiting out the cron service's start delay.** -/
def startWait (deadline timer : Nat) (c : ScriptedService) (rest : List Service) : Act Unit :=
  .sleepUntil deadline (some timer) fun _ => startResume c rest

/-- The rest of a stop once the cron service's stop returned: its report, the end of the stop,
and what the caller does next. -/
def stopResume (c : ScriptedService) (k : Act Unit) : Act Unit :=
  (serviceDone "stop" .cron (stopOutcome c)).bind fun _ => tearDown.bind fun _ => k

/-- **A stop waiting out the cron service's stop delay,** followed by `k`. -/
def stopWait (deadline timer : Nat) (c : ScriptedService) (k : Act Unit) : Act Unit :=
  .sleepUntil deadline (some timer) fun _ => stopResume c k

/-! ## The poll equations -/

theorem countCronStart_none {d : Deployment} (h : d.cron = none) : countCronStart d = (d, none) := by
  unfold countCronStart modifyCron
  rw [h]
  simp only [Option.map_none, Prod.mk.injEq, and_true]
  rw [← h]

theorem countCronStart_some {d : Deployment} {c : ScriptedService} (h : d.cron = some c) :
    countCronStart d = ((countCronStart d).1, some c) := by
  simp [countCronStart, h]

theorem countCronStop_none {d : Deployment} (h : d.cron = none) : countCronStop d = (d, none) := by
  unfold countCronStop modifyCron
  rw [h]
  simp only [Option.map_none, Prod.mk.injEq, and_true]
  rw [← h]

theorem countCronStop_some {d : Deployment} {c : ScriptedService} (h : d.cron = some c) :
    countCronStop d = ((countCronStop d).1, some c) := by
  simp [countCronStop, h]

/-- **A lifecycle call over the channels:** the calls made within the poll, then their answers
awaited. -/
theorem poll_callChannels_bind {α : Type} (me : Nat) (ex : Exec) (target status : ChannelStatus)
    (f : MemoryChannel → MemoryChannel × Except String Unit) (delay : MemoryChannel → Nat)
    (ok : Option ChannelStatus) (incident : String → String → Incident)
    (k : LifecycleReport → Act α) :
    poll me ex ((callChannels target status f delay ok incident).bind k) =
      poll me { ex with shared := (channelsCalled target status f delay ex.shared).1 }
        ((awaitAnswers (channelsCalled target status f delay ex.shared).2).bind fun answers =>
          (Scheduling.Program.update (channelsSettled ok incident answers)).bind k) := by
  rw [callChannels_eq, Program.bind_assoc, poll_update_bind, Program.bind_assoc]

/-- **A start of the channels:** the router subscribed and the calls made, then the answers
awaited. -/
theorem poll_startChannels_bind {α : Type} (me : Nat) (ex : Exec) (k : LifecycleReport → Act α) :
    poll me ex (startChannels.bind k) =
      poll me { ex with shared := (startCall (routerUp ex.shared)).1 }
        ((awaitAnswers (startCall (routerUp ex.shared)).2).bind fun answers =>
          (Scheduling.Program.update (startSettle answers)).bind k) := by
  rw [startChannels_eq, Program.bind_assoc, poll_modify_bind, poll_callChannels_bind]
  rfl

/-- **A stop of the channels:** the router unsubscribed and the calls made, then the answers
awaited. -/
theorem poll_stopChannels_bind {α : Type} (me : Nat) (ex : Exec) (k : LifecycleReport → Act α) :
    poll me ex (stopChannels.bind k) =
      poll me { ex with shared := (stopCall (routerDown ex.shared)).1 }
        ((awaitAnswers (stopCall (routerDown ex.shared)).2).bind fun answers =>
          (Scheduling.Program.update (stopSettle answers)).bind k) := by
  rw [stopChannels_eq, Program.bind_assoc, poll_modify_bind, poll_callChannels_bind]
  rfl

/-- **A background start.** One that finds the gateway not `stopped`, or the bus closed, keeps
its answer and ends; otherwise it raises the gateway and awaits the channels' answers. -/
theorem poll_startJob (me : Nat) (ex : Exec) :
    poll me ex (Job.program .gatewayStart) =
      if ex.shared.lifecycle.state ≠ .stopped then
        ({ ex with shared := Deployment.keepStart (.ok ()) ex.shared }, .pure ())
      else if ex.shared.bus.closed then
        ({ ex with shared := Deployment.keepStart (.error .busClosed) ex.shared }, .pure ())
      else poll me { ex with shared := raised ex.shared }
        ((awaitAnswers (startCalls ex.shared)).bind startAnswered) := by
  have hjob : Job.program .gatewayStart = start.bind kept := rfl
  rw [hjob, start_eq, Program.bind_assoc, poll_update_bind]
  unfold beginStart
  rw [GatewayState.bne_eq]
  by_cases hstate : ex.shared.lifecycle.state = .stopped
  · simp only [hstate, decide_true, Bool.not_true, Bool.false_eq_true, if_false, ne_eq,
      not_true_eq_false]
    by_cases hclosed : ex.shared.bus.closed = true
    · simp only [hclosed, if_true]
      rfl
    · simp only [hclosed, Bool.false_eq_true, if_false]
      -- The responder, then the router and the channels' calls, all within this poll.
      rw [Program.bind_assoc, startAdapter_eq, poll_modify_bind, Program.bind_assoc,
        poll_startChannels_bind]
      simp only [Program.bind_assoc]
      rfl
  · simp only [hstate, decide_false, Bool.not_false, if_true, ne_eq, not_false_eq_true]
    rfl

/-- **The rest of a start once the channels have answered:** the answers are recorded, and the
services of the deployment as it is then are started. -/
theorem poll_startAnswered (me : Nat) (ex : Exec) (answers : List (String × Except String Unit)) :
    poll me ex (startAnswered answers) =
      poll me { ex with shared := (startSettle answers ex.shared).1 }
        (((services (startSettle answers ex.shared).1).forM startStep).bind fun _ =>
          finishing.bind kept) := by
  unfold startAnswered
  rw [poll_update_bind, poll_read_bind]

/-- **The cron service's start** counts the call and sleeps its delay: a delay of no time goes on
at once, any other waits in `startWait`'s shape. -/
theorem poll_startStep_cron {α : Type} (me : Nat) (ex : Exec) (k : Unit → Act α) :
    poll me ex ((startStep .cron).bind k) =
      match ex.shared.cron with
      | none => poll me ex (k ())
      | some c =>
        let ex₁ : Exec := { ex with shared := (countCronStart ex.shared).1 }
        if c.startDelayMs = 0 then poll me ex₁ ((serviceDone "start" .cron (startOutcome c)).bind k)
        else ((ex₁.addTimer (ex₁.now + c.startDelayMs) me).1,
          .sleepUntil (ex₁.now + c.startDelayMs) (some ex₁.nextId)
            fun _ => (serviceDone "start" .cron (startOutcome c)).bind k) := by
  unfold startStep
  rw [serviceStep_eq]
  unfold startService
  simp only [Program.bind_def, Program.pure_def, Program.bind_assoc]
  rw [poll_update_bind]
  cases hc : ex.shared.cron with
  | none =>
    rw [countCronStart_none hc]
    rfl
  | some c =>
    rw [countCronStart_some hc]
    dsimp only
    rw [Program.bind_assoc, poll_sleep_bind]
    split <;> rfl

/-- **The cron service's stop** counts the call and sleeps its delay, like its start. -/
theorem poll_stopStep_cron {α : Type} (me : Nat) (ex : Exec) (k : Unit → Act α) :
    poll me ex ((stopStep .cron).bind k) =
      match ex.shared.cron with
      | none => poll me ex (k ())
      | some c =>
        let ex₁ : Exec := { ex with shared := (countCronStop ex.shared).1 }
        if c.stopDelayMs = 0 then poll me ex₁ ((serviceDone "stop" .cron (stopOutcome c)).bind k)
        else ((ex₁.addTimer (ex₁.now + c.stopDelayMs) me).1,
          .sleepUntil (ex₁.now + c.stopDelayMs) (some ex₁.nextId)
            fun _ => (serviceDone "stop" .cron (stopOutcome c)).bind k) := by
  unfold stopStep
  rw [serviceStep_eq]
  unfold stopService
  simp only [Program.bind_def, Program.pure_def, Program.bind_assoc]
  rw [poll_update_bind]
  cases hc : ex.shared.cron with
  | none =>
    rw [countCronStop_none hc]
    rfl
  | some c =>
    rw [countCronStop_some hc]
    dsimp only
    rw [Program.bind_assoc, poll_sleep_bind]
    split <;> rfl

/-- **The heartbeat's start,** when its loop does not run and the bus is open, starts the loop. -/
theorem poll_startStep_heartbeat {α : Type} (me : Nat) (ex : Exec) (k : Unit → Act α)
    (hrun : Heartbeats.runningIn ex = false) (hopen : ex.shared.bus.closed = false) :
    poll me ex ((startStep .heartbeat).bind k) = poll me (Heartbeats.started ex) (k ()) := by
  unfold startStep
  rw [serviceStep_eq, Program.bind_assoc]
  change poll me ex ((Heartbeats.start).bind _) = _
  rw [poll_bind, Heartbeats.poll_start, hrun, hopen]
  rfl

/-- **The heartbeat's stop** forgets and cancels its loop. -/
theorem poll_stopStep_heartbeat {α : Type} (me : Nat) (ex : Exec) (k : Unit → Act α) :
    poll me ex ((stopStep .heartbeat).bind k) = poll me (Heartbeats.stopped ex) (k ()) := by
  unfold stopStep
  rw [serviceStep_eq, Program.bind_assoc]
  change poll me ex ((Heartbeats.stop).bind _) = _
  rw [poll_bind, Heartbeats.poll_stop]
  rfl

/-- **The end of a start:** the gateway runs, and a stop requested meanwhile follows. -/
theorem poll_finishing {α : Type} (me : Nat) (ex : Exec) (k : Except GatewayError Unit → Act α) :
    poll me ex (finishing.bind k) =
      let ex₁ : Exec := { ex with shared := (finishStart ex.shared).1 }
      if ex.shared.lifecycle.stopRequested then poll me ex₁ (stop.bind fun _ => k (.ok ()))
      else poll me ex₁ (k (.ok ())) := by
  unfold finishing
  simp only [Program.bind_def, Program.pure_def, Program.bind_assoc]
  rw [poll_update_bind]
  have hreq : (finishStart ex.shared).2 = ex.shared.lifecycle.stopRequested := rfl
  rw [hreq]
  cases ex.shared.lifecycle.stopRequested with
  | true =>
    rw [if_pos rfl, if_pos rfl, Program.bind_assoc]
    rfl
  | false => rfl

/-- **A stop** of a running gateway makes it `stopping` and goes on to the services in reverse;
one of a starting gateway is remembered; any other changes nothing. -/
theorem poll_stop_bind {α : Type} (me : Nat) (ex : Exec) (k : Unit → Act α) :
    poll me ex (stop.bind k) =
      match ex.shared.lifecycle.state with
      | .running =>
        poll me { ex with shared := setState .stopping ex.shared }
          (((services ex.shared).reverse.forM stopStep).bind fun _ => tearDown.bind k)
      | .starting =>
        poll me { ex with shared := (requestStop ex.shared).1 } (k ())
      | _ => poll me ex (k ()) := by
  rw [stop_eq, Program.bind_assoc, poll_update_bind]
  unfold requestStop
  cases hs : ex.shared.lifecycle.state with
  | running =>
    simp only [if_true, Program.bind_assoc]
    rfl
  | starting => rfl
  | stopped => rfl
  | stopping => rfl

/-- **The end of a stop, up to the channels' answers:** the router unsubscribed and the channels
called. -/
theorem poll_tearDown {α : Type} (me : Nat) (ex : Exec) (k : Unit → Act α) :
    poll me ex (tearDown.bind k) =
      poll me { ex with shared := lowering ex.shared }
        ((awaitAnswers (stopCalls ex.shared)).bind fun answers => stopAnswered answers k) := by
  unfold tearDown
  simp only [Program.bind_def, Program.bind_assoc]
  rw [poll_stopChannels_bind]
  rfl

/-- **The end of a stop once the channels have answered,** in one poll. -/
theorem poll_stopAnswered {α : Type} (me : Nat) (ex : Exec)
    (answers : List (String × Except String Unit)) (k : Unit → Act α) :
    poll me ex (stopAnswered answers k) =
      poll me { ex with shared := lowered answers ex.shared } (k ()) := rfl

theorem poll_startWait (me : Nat) (ex : Exec) (d t : Nat) (c : ScriptedService)
    (rest : List Service) :
    poll me ex (startWait d t c rest) =
      if d ≤ ex.now then poll me ex (startResume c rest) else (ex, startWait d t c rest) :=
  poll_sleepUntil me ex d t _

theorem poll_stopWait (me : Nat) (ex : Exec) (d t : Nat) (c : ScriptedService) (k : Act Unit) :
    poll me ex (stopWait d t c k) =
      if d ≤ ex.now then poll me ex (stopResume c k) else (ex, stopWait d t c k) :=
  poll_sleepUntil me ex d t _

/-! ## The channels' answers -/

/-- **The channels' answers come back as the calls gave them:** whatever order they arrived in,
a wait for them that has ended holds each call's channel and answer, in the order of the calls. -/
theorem awaitAnswers_ends {me : Nat} {calls : List (String × Nat × Except String Unit)}
    {answers : List (String × Except String Unit)}
    (h : Program.Runs me (awaitAnswers calls) (.pure answers)) : answers = answersOf calls := by
  have hall := Program.all_runs h
  rw [List.forall₂_map_left_iff] at hall
  -- Each call's wait ends with the call's own channel and answer.
  have hone : List.Forall₂ (fun c b => (c.1, c.2.2) = b) calls answers := by
    refine hall.imp fun c b hb => ?_
    obtain ⟨name, ms, r⟩ := c
    obtain ⟨_, -, hk⟩ := Program.Runs.bind_pure hb
    cases hk.of_pure
    rfl
  have heq := List.forall₂_map_left_iff.2 hone
  rw [List.forall₂_eq_eq_eq] at heq
  exact heq.symm

theorem startAnswered_isDone (answers : List (String × Except String Unit)) :
    (startAnswered answers).isDone = false := rfl

theorem stopAnswered_isDone {α : Type} (answers : List (String × Except String Unit))
    (k : Unit → Act α) : (stopAnswered answers k).isDone = false := rfl

end Lifecycle

end ChatGateway
