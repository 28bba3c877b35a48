import ChatGateway.Proofs.Lifecycle.Stages

/-! # The transitions of the gateway's life

A start or a stop moves the gateway's life by a few changes of the deployment, each made inside
one poll. Each keeps the shape `Deployment.Shaped` against the deployment `d₀` the gateway started
from and moves the stage at most one step:

* `Shaped.raised`: a start from `stopped` on an open bus, up to its channels' answers (`0` to
  `1`): the cron service is not counted yet, and every channel still starting is one the start
  called;
* `Shaped.startsSettled`: the channels' answers recorded and the cron service's start counted
  (`1` stays `1`), with no channel still starting;
* `Shaped.upRunning`: the services have answered, the heartbeat's loop is remembered and the
  gateway runs (`1` to `2`);
* `Shaped.stopRequested`: a stop while starting is remembered (`1` stays `1`);
* `Shaped.halted`: a stop from `running`, up to the cron service's stop (`2` to `3`);
* `Shaped.lowering`: the router unsubscribed and the channels called to stop (`3` to `4`);
* `Shaped.lowered`: the channels' answers recorded, the responder unsubscribed and the bus closed
  (`4` to `5`).

The executor's side of the same moves: `Lifecycle.servicesStarted_eq` starts the heartbeat's loop
as one new task, `Lifecycle.stopCalled_shared` and `Lifecycle.look_stopCalled` cancel it, and
`Lifecycle.stopReported_seen` touches the deployment only.
-/

namespace ChatGateway

open Scheduling Scheduling.Executor

/-- The deployment with the heartbeat's loop remembered as task `n`, or forgotten. -/
def Deployment.withHeartbeatTask (n : Option Nat) (d : Deployment) : Deployment :=
  { d with heartbeat := d.heartbeat.map fun h => { h with task := n } }

/-- The channels' names and statuses, in the order of the channels. -/
def Deployment.channelStatuses (d : Deployment) : List (String × ChannelStatus) :=
  d.channels.entries.map fun e => (e.channel.name, e.status)

namespace Lifecycle

/-- **The deployment once a start's channels have answered:** the answers recorded and the cron
service's start counted. -/
def startsSettled (answers : List (String × Except String Unit)) (d : Deployment) : Deployment :=
  (countCronStart (startSettle answers d).1).1

/-- The deployment once a start's channels have answered, field by field: the statuses and the
incidents moved and the cron service's start counted, all else as it was. -/
theorem startsSettled_eq (answers : List (String × Except String Unit)) (d : Deployment) :
    ∃ incidents, startsSettled answers d =
      (countCronStart { d with
        channels := { d.channels with
          entries := d.channels.entries.map (ChannelManager.settledEntry (some .running) answers) }
        incidents }).1 := by
  obtain ⟨incidents, h⟩ := channelsSettled_entries (some .running) Incident.channelStartFailed answers d
  exact ⟨incidents, congrArg (fun d' => (countCronStart d').1) h⟩

/-- **The deployment once a stop has left `running`:** `stopping`, the heartbeat's loop forgotten
and the cron service's stop counted. -/
def halted (d : Deployment) : Deployment :=
  (countCronStop ((setState .stopping d).withHeartbeatTask none)).1

end Lifecycle

namespace Deployment

theorem withHeartbeatTask_heartbeatTask (n : Option Nat) (d : Deployment) :
    (d.withHeartbeatTask n).heartbeatTask = if d.heartbeat.isSome then n else none := by
  unfold withHeartbeatTask heartbeatTask
  cases d.heartbeat <;> rfl

theorem withHeartbeatTask_of_none {d : Deployment} (h : d.heartbeat = none) (n : Option Nat) :
    d.withHeartbeatTask n = d := by
  unfold withHeartbeatTask
  rw [h, Option.map_none, ← h]

/-- A change that leaves the lifecycle alone keeps the stage. -/
theorem KeepsLife.stage {d d' : Deployment} (h : d.KeepsLife d') : d'.stage = d.stage :=
  stage_congr (by rw [h.lifecycle]) h.closed (by rw [h.router])

/-- **A change that leaves the lifecycle alone keeps the channels' names and statuses,** while
the names are distinct. -/
theorem KeepsLife.channelStatuses {d d' : Deployment} (h : d.KeepsLife d')
    (hnd : d.channels.names.Nodup) : d'.channelStatuses = d.channelStatuses := by
  have hn : d'.channels.entries.map (·.channel.name) = d.channels.entries.map (·.channel.name) :=
    h.names
  have hv : d'.channels.entries.map (·.status) = d.channels.entries.map (·.status) := by
    have := congrArg (List.map (·.1)) (h.channels hnd)
    simpa [channelView, List.map_map, Function.comp_def, ChannelEntry.lifeView] using this
  unfold Deployment.channelStatuses
  rw [← List.zip_map', ← List.zip_map', hn, hv]

/-- **A stop issued is remembered** once the stop has begun. -/
theorem stopIssued_of_three_le {d : Deployment} (h : 3 ≤ d.stage) : d.StopIssued := .inl h

/-- Before the start nothing is issued. -/
theorem not_stopIssued_of_stage_zero {d : Deployment} (h : d.stage = 0) : ¬d.StopIssued := by
  unfold StopIssued
  omega

/-- A shaped deployment asks for no stop outside `starting`. -/
theorem Shaped.not_requested {d₀ d : Deployment} (h : Shaped d₀ d) (hs : d.stage ≠ 1) :
    d.lifecycle.stopRequested = false := by
  cases hr : d.lifecycle.stopRequested with
  | false => rfl
  | true => exact absurd (stage_eq_one.2 (h.requested hr)) hs

/-- A shaped deployment has its bus open until it stops for good. -/
theorem Shaped.busOpen {d₀ d : Deployment} (h : Shaped d₀ d) (hs : d.stage ≠ 5) :
    d.bus.closed = false := by
  cases hc : d.bus.closed with
  | false => rfl
  | true =>
    have hstate := h.closed hc
    exact absurd (stage_eq_five.2 ⟨hstate, hc⟩) hs

/-- Away from `running`, a shaped deployment remembers no heartbeat loop. -/
theorem Shaped.heartbeatTask_eq_none {d₀ d : Deployment} (h : Shaped d₀ d) (hs : d.stage ≠ 2) :
    d.heartbeatTask = none := by
  cases hb : d.heartbeatTask with
  | none => rfl
  | some u => exact absurd (h.heartbeat.1 (by rw [hb]; rfl)).1 hs

/-- Away from `starting`, the cron service was started and stopped exactly as the stage counts. -/
theorem Shaped.cron_eq {d₀ d : Deployment} (h : Shaped d₀ d) (hs : d.stage ≠ 1) :
    d.cron = d₀.cron.map (cronAt d.stage) :=
  h.cron.resolve_right fun h1 => hs h1.1

namespace LifeAfter

variable {d d' : Deployment}

/-- **Anything comes no earlier than a gateway never started.** -/
theorem of_stage_zero (hs : d.stage = 0) (d' : Deployment) : LifeAfter d d' :=
  ⟨by omega, fun h => absurd h (not_stopIssued_of_stage_zero hs), fun h => by omega,
    fun h => by omega, fun h => by omega⟩

/-- **A gateway stopped for good comes no earlier than any.** -/
theorem to_five (hs : d'.stage = 5) : LifeAfter d d' :=
  ⟨hs ▸ stage_le_five d, fun _ => stopIssued_of_three_le (by omega), fun _ h => by omega,
    fun _ h => by omega, fun _ h => by omega⟩

/-- **A move to a later stage** that keeps each subscription while it lasts. -/
theorem of_stage_lt (hlt : d.stage < d'.stage) (hissued : d.StopIssued → d'.StopIssued)
    (hadapter : 1 ≤ d.stage → d'.stage ≤ 4 → d'.adapter.subscription = d.adapter.subscription)
    (hrouter : 1 ≤ d.stage → d'.stage ≤ 3 → d'.channels.router = d.channels.router) :
    LifeAfter d d' :=
  ⟨Nat.le_of_lt hlt, hissued, hadapter, hrouter, fun h h' => by omega⟩

/-- **Recording a start's answers and counting the cron service's start** keeps the stage and
all the life reads besides the channels' statuses and the cron service. -/
theorem startsSettled (answers : List (String × Except String Unit)) (d : Deployment) :
    LifeAfter d (Lifecycle.startsSettled answers d) := by
  obtain ⟨incidents, hD⟩ := Lifecycle.startsSettled_eq answers d
  exact .of_same (by rw [hD]; rfl) (by rw [hD]; rfl) (by rw [hD]; rfl) (by rw [hD]; rfl)
    (by rw [hD]; rfl)

/-- **A stop requested while starting** is remembered. -/
theorem stopRequested (hs : d.stage = 1) : LifeAfter d (Lifecycle.requestStop d).1 := by
  have heq : (Lifecycle.requestStop d).1 =
      { d with lifecycle := { d.lifecycle with stopRequested := true } } := by
    unfold Lifecycle.requestStop
    rw [stage_eq_one.1 hs]
  have hstage : (Lifecycle.requestStop d).1.stage = d.stage := by
    rw [heq]
    exact stage_congr rfl rfl rfl
  refine ⟨Nat.le_of_eq hstage.symm, fun _ => .inr ⟨hstage.trans hs, by rw [heq]⟩,
    fun _ _ => by rw [heq], fun _ _ => by rw [heq], fun h _ => by omega⟩

end LifeAfter

/-! ## The deployment at each transition -/

namespace Shaped

variable {d₀ d : Deployment}

/-- **A start from `stopped` on an open bus,** up to its channels' answers: the gateway is
`starting`, with the responder and the router subscribed and every channel that was not running
`starting` and started once; the cron service is not counted yet, and every channel now starting
is one of the start's calls. -/
theorem raised (h : Shaped d₀ d) (hs : d.stage = 0) :
    Shaped d₀ (Lifecycle.raised d) ∧ (Lifecycle.raised d).stage = 1 ∧
      (Lifecycle.raised d).cron = d₀.cron ∧
      ∀ p ∈ (Lifecycle.raised d).channelStatuses, p.2 = .starting →
        p.1 ∈ (Lifecycle.startCalls d).map (·.1) := by
  obtain ⟨-, hopen⟩ := stage_eq_zero.1 hs
  obtain ⟨hreq, hsub, hrouter, hhb⟩ := h.fresh_of_stage_zero hs
  have hview := channelView_of_stage_zero (hs ▸ h.channels)
  obtain ⟨bus₁, nl, id₁, h₁, hc₁⟩ :=
    Lifecycle.adapterUp_eq (d := Lifecycle.setState .starting d) hsub
  obtain ⟨bus₂, id₂, h₂, hc₂⟩ :=
    Lifecycle.routerUp_eq (d := Lifecycle.adapterUp (Lifecycle.setState .starting d))
      (by rw [h₁]; exact hrouter)
  rw [h₁] at hc₂
  -- The deployment the start leaves, field by field: the calls touch only the channels' entries.
  have heq : Lifecycle.raised d =
      (Lifecycle.startCall (Lifecycle.routerUp (Lifecycle.adapterUp (Lifecycle.setState .starting d)))).1 :=
    rfl
  rw [h₂, h₁] at heq
  have hl : (Lifecycle.raised d).lifecycle = { d.lifecycle with state := .starting } := by
    rw [heq]; rfl
  have hc : (Lifecycle.raised d).bus.closed = false := by
    rw [heq]; exact hc₂.trans (hc₁.trans hopen)
  have ha : (Lifecycle.raised d).adapter.subscription = some id₁ := by rw [heq]; rfl
  have hr : (Lifecycle.raised d).channels.router = some id₂ := by rw [heq]; rfl
  have he : (Lifecycle.raised d).channels.entries =
      d.channels.entries.map (ChannelManager.markCalled .running .starting MemoryChannel.start) := by
    rw [heq]; rfl
  have hh : (Lifecycle.raised d).heartbeat = d.heartbeat := by rw [heq]; rfl
  have hcron : (Lifecycle.raised d).cron = d.cron := by rw [heq]; rfl
  have hcalls : Lifecycle.startCalls d = (d.channels.entries.filter (·.status != .running)).map
      fun e => (e.channel.name, e.channel.startDelayMs, e.channel.start.2) := by
    unfold Lifecycle.startCalls
    rw [h₂, h₁]
    rfl
  have hstage : (Lifecycle.raised d).stage = 1 := stage_eq_one.2 (by rw [hl])
  have hcron₀ : (Lifecycle.raised d).cron = d₀.cron := by
    rw [hcron, h.cron_eq (by omega), hs]
    cases d₀.cron <;> simp [cronAt_zero]
  refine ⟨⟨fun _ => by rw [hl], fun hc' => ?_, ?_, ?_, ?_, ?_, .inr ⟨hstage, hcron₀⟩, ?_, ?_⟩,
    hstage, hcron₀, fun p hp hst => ?_⟩
  · rw [hc] at hc'
    cases hc'
  · simp [ha, hstage]
  · simp [hr, hstage]
  · have hht : (Lifecycle.raised d).heartbeatTask = d.heartbeatTask := by
      rw [heartbeatTask, heartbeatTask, hh]
    simp [hht, hhb, hstage]
  · rw [hh, h.hasHeartbeat]
  · have hv : (Lifecycle.raised d).channelView =
        (d.channels.entries.map (ChannelManager.markCalled .running .starting
          MemoryChannel.start)).map ChannelEntry.lifeView := by
      rw [channelView, he]
    rw [hstage, hv]
    exact channelAt_startCall hview
  · have hn : (Lifecycle.raised d).channels.names = d.channels.names := by
      simp only [ChannelManager.names, he]
      exact ChannelManager.names_map_markCalled MemoryChannel.start_name _
    rw [hn]
    exact h.distinct
  · -- A channel now starting was not running, so the start called it.
    rw [channelStatuses, he, List.map_map] at hp
    obtain ⟨e, he', rfl⟩ := List.mem_map.1 hp
    simp only [Function.comp_apply, ChannelManager.markCalled] at hst ⊢
    by_cases hrun : e.status = .running
    · rw [if_pos hrun, hrun] at hst
      cases hst
    · rw [if_neg hrun, MemoryChannel.start_name, hcalls, List.map_map]
      exact List.mem_map.2 ⟨e, List.mem_filter.2 ⟨he', by simp [hrun]⟩, rfl⟩

/-- **A start's channels have answered:** the answers, those of the start's calls, are
recorded and the cron service's start is counted; no channel is starting any more. -/
theorem startsSettled (h : Shaped d₀ d) (hs : d.stage = 1) (hcron : d.cron = d₀.cron)
    {calls : List (String × Nat × Except String Unit)}
    (hcover : ∀ p ∈ d.channelStatuses, p.2 = .starting → p.1 ∈ calls.map (·.1)) :
    let D := Lifecycle.startsSettled (Lifecycle.answersOf calls) d
    Shaped d₀ D ∧ D.stage = 1 ∧ D.cron = d₀.cron.map (cronAt 1) ∧
      ∀ v ∈ D.channelView, v.1 ≠ .starting := by
  intro D
  -- Only the statuses, the incidents and the cron service's starts move.
  obtain ⟨incidents, hD⟩ := Lifecycle.startsSettled_eq (Lifecycle.answersOf calls) d
  change D = _ at hD
  have hstage : D.stage = 1 := by
    rw [hD, ← hs]
    exact stage_congr rfl rfl rfl
  have he : D.channels.entries = d.channels.entries.map
      (ChannelManager.settledEntry (some .running) (Lifecycle.answersOf calls)) := by rw [hD]; rfl
  have hcron' : D.cron = d₀.cron.map (cronAt 1) := by
    rw [hD]
    change d.cron.map _ = _
    rw [hcron]
    exact congrArg (fun f => Option.map f d₀.cron) (funext cronAt_start)
  have hnames : (Lifecycle.answersOf calls).map (·.1) = calls.map (·.1) := by
    simp only [Lifecycle.answersOf, List.map_map]
    rfl
  refine ⟨⟨?_, ?_, ?_, ?_, ?_, ?_, .inl (by rw [hstage]; exact hcron'), ?_, ?_⟩, hstage, hcron',
    fun v hv => ?_⟩
  · rw [hD]; exact h.requested
  · rw [hD]; exact h.closed
  · have hf := h.adapter
    rw [hs] at hf
    rw [hstage, hD]
    exact hf
  · have hf := h.router
    rw [hs] at hf
    rw [hstage, hD]
    exact hf
  · have hf := h.heartbeat
    rw [hs] at hf
    rw [hstage, hD]
    exact hf
  · rw [hD]; exact h.hasHeartbeat
  · have hv : D.channelView = (d.channels.entries.map (ChannelManager.settledEntry (some .running)
        (Lifecycle.answersOf calls))).map ChannelEntry.lifeView := by rw [channelView, he]
    rw [hstage, hv]
    exact channelAt_startSettle (hs ▸ h.channels) _
  · have hn : D.channels.names = d.channels.names := by
      simp only [ChannelManager.names, he, List.map_map]
      rfl
    rw [hn]
    exact h.distinct
  · -- A channel that was starting was called, so its answer moved it on.
    rw [channelView, he, List.map_map] at hv
    obtain ⟨e, he', rfl⟩ := List.mem_map.1 hv
    simp only [Function.comp_apply, ChannelEntry.lifeView, ChannelManager.settledEntry]
    by_cases hst : e.status = .starting
    · have hcalled : e.channel.name ∈ (Lifecycle.answersOf calls).map (·.1) := by
        rw [hnames]
        exact hcover _ (List.mem_map.2 ⟨e, he', rfl⟩) hst
      rcases ChannelManager.statusAfter_of_mem hcalled .running e.status with h' | h' <;>
        rw [h'] <;> decide
    · exact ChannelManager.statusAfter_induct (P := fun s => s ≠ .starting) (by decide)
        (fun _ _ => by simp) _ _ hst

/-- **The services have answered and the gateway runs,** with the heartbeat's loop remembered as
task `n` when the deployment has a heartbeat. -/
theorem upRunning (h : Shaped d₀ d) (hs : d.stage = 1) (hcron : d.cron = d₀.cron.map (cronAt 1))
    (hidle : ∀ v ∈ d.channelView, v.1 ≠ .starting) (n : Nat) :
    Shaped d₀ (Lifecycle.finishStart (d.withHeartbeatTask (some n))).1 ∧
      (Lifecycle.finishStart (d.withHeartbeatTask (some n))).1.stage = 2 := by
  have hopen := h.busOpen (by omega)
  have hstage : (Lifecycle.finishStart (d.withHeartbeatTask (some n))).1.stage = 2 :=
    stage_eq_two.2 rfl
  have hhb : (Lifecycle.finishStart (d.withHeartbeatTask (some n))).1.heartbeatTask =
      if d.heartbeat.isSome then some n else none :=
    withHeartbeatTask_heartbeatTask (some n) d
  have hhas : (Lifecycle.finishStart (d.withHeartbeatTask (some n))).1.heartbeat.isSome =
      d.heartbeat.isSome := by
    simp [Lifecycle.finishStart, withHeartbeatTask]
  refine ⟨⟨fun hr => ?_, fun hc => ?_, ?_, ?_, ?_, ?_, .inl ?_, ?_, h.distinct⟩, hstage⟩
  · simp [Lifecycle.finishStart] at hr
  · change d.bus.closed = true at hc
    rw [hopen] at hc
    cases hc
  · rw [hstage]
    exact h.adapter.trans (by rw [hs]; decide)
  · rw [hstage]
    exact h.router.trans (by rw [hs]; decide)
  · rw [hhb, hstage, hhas]
    cases d.heartbeat.isSome <;> simp
  · rw [hhas, h.hasHeartbeat]
  · rw [hstage, ← cronAt_one_two]
    exact hcron
  · rw [hstage]
    exact channelAt_one_two_all (hs ▸ h.channels) hidle

/-- **A stop while starting is remembered:** the request is pending and nothing else changes. -/
theorem stopRequested (h : Shaped d₀ d) (hs : d.stage = 1) :
    Shaped d₀ (Lifecycle.requestStop d).1 ∧ (Lifecycle.requestStop d).1.stage = 1 ∧
      (Lifecycle.requestStop d).1.lifecycle.stopRequested = true ∧
      (Lifecycle.requestStop d).1.cron = d.cron ∧
      (Lifecycle.requestStop d).1.channels = d.channels := by
  have hstate := stage_eq_one.1 hs
  have heq : (Lifecycle.requestStop d).1 =
      { d with lifecycle := { d.lifecycle with stopRequested := true } } := by
    unfold Lifecycle.requestStop
    rw [hstate]
  rw [heq]
  have hstage : ({ d with lifecycle := { d.lifecycle with stopRequested := true } } : Deployment).stage =
      d.stage := stage_congr rfl rfl rfl
  refine ⟨⟨fun _ => hstate, fun hc => absurd (h.closed hc) (by rw [hstate]; decide), ?_, ?_, ?_,
    h.hasHeartbeat, ?_, ?_, h.distinct⟩, hstage.trans hs, rfl, rfl, rfl⟩
  · rw [hstage]
    exact h.adapter
  · rw [hstage]
    exact h.router
  · rw [hstage]
    exact h.heartbeat
  · rw [hstage]
    exact h.cron
  · rw [hstage]
    exact h.channels

/-- **A stop from `running`** makes the gateway `stopping`, with the heartbeat's loop forgotten
and the cron service's stop counted. -/
theorem halted (h : Shaped d₀ d) (hs : d.stage = 2) :
    Shaped d₀ (Lifecycle.halted d) ∧ (Lifecycle.halted d).stage = 3 ∧
      LifeAfter d (Lifecycle.halted d) := by
  have hreq := h.not_requested (by omega)
  have hopen := h.busOpen (by omega)
  have hrouter : d.channels.router.isSome = true := h.router.2 (by omega)
  have hstage : (Lifecycle.halted d).stage = 3 := stage_eq_three.2 ⟨rfl, hrouter⟩
  have hhb : (Lifecycle.halted d).heartbeatTask = none := by
    have := withHeartbeatTask_heartbeatTask none (Lifecycle.setState .stopping d)
    split at this <;> exact this
  refine ⟨⟨fun hr => ?_, fun hc => ?_, ?_, ?_, ?_, ?_, .inl ?_, ?_, h.distinct⟩, hstage,
    .of_stage_lt (by omega) (fun _ => stopIssued_of_three_le (by omega)) (fun _ _ => rfl)
      (fun _ _ => rfl)⟩
  · change d.lifecycle.stopRequested = true at hr
    rw [hreq] at hr
    cases hr
  · change d.bus.closed = true at hc
    rw [hopen] at hc
    cases hc
  · rw [hstage]
    exact h.adapter.trans (by rw [hs]; decide)
  · rw [hstage]
    exact h.router.trans (by rw [hs]; decide)
  · rw [hhb, hstage]
    simp
  · rw [← h.hasHeartbeat]
    simp [Lifecycle.halted, Lifecycle.countCronStop, Lifecycle.modifyCron, withHeartbeatTask,
      Lifecycle.setState]
  · have hcron : (Lifecycle.halted d).cron = d.cron.map fun c => { c with stops := c.stops + 1 } :=
      rfl
    rw [hcron, hstage, h.cron_eq (by omega), hs, Option.map_map]
    exact congrArg (fun f => Option.map f d₀.cron) (funext cronAt_stop)
  · rw [hstage, ← channelAt_two_three, ← hs]
    exact h.channels

/-- **A stop turns to the channels:** the router unsubscribed, and every channel `stopped` and
stopped once. -/
theorem lowering (h : Shaped d₀ d) (hs : d.stage = 3) :
    Shaped d₀ (Lifecycle.lowering d) ∧ (Lifecycle.lowering d).stage = 4 ∧
      LifeAfter d (Lifecycle.lowering d) := by
  have hreq := h.not_requested (by omega)
  have hopen := h.busOpen (by omega)
  obtain ⟨hstopping, -⟩ := stage_eq_three.1 hs
  obtain ⟨bus₁, h₁, hc₁⟩ := Lifecycle.routerDown_eq d
  -- The deployment the stop leaves, field by field: the calls touch only the channels' entries.
  have hl : (Lifecycle.lowering d).lifecycle = d.lifecycle := by
    change (Lifecycle.routerDown d).lifecycle = _
    rw [h₁]
  have hc : (Lifecycle.lowering d).bus.closed = false := by
    change (Lifecycle.routerDown d).bus.closed = _
    rw [h₁]
    exact hc₁.trans hopen
  have ha : (Lifecycle.lowering d).adapter = d.adapter := by
    change (Lifecycle.routerDown d).adapter = _
    rw [h₁]
  have hr : (Lifecycle.lowering d).channels.router = none := by
    change (Lifecycle.routerDown d).channels.router = _
    rw [h₁]
  have he : (Lifecycle.lowering d).channels.entries =
      d.channels.entries.map (ChannelManager.markCalled .stopped .stopped MemoryChannel.stop) := by
    change (Lifecycle.routerDown d).channels.entries.map
      (ChannelManager.markCalled .stopped .stopped MemoryChannel.stop) = _
    rw [h₁]
  have hh : (Lifecycle.lowering d).heartbeat = d.heartbeat := by
    change (Lifecycle.routerDown d).heartbeat = _
    rw [h₁]
  have hcron : (Lifecycle.lowering d).cron = d.cron := by
    change (Lifecycle.routerDown d).cron = _
    rw [h₁]
  have hstage : (Lifecycle.lowering d).stage = 4 := stage_eq_four.2 ⟨by rw [hl, hstopping], hr⟩
  have hht : (Lifecycle.lowering d).heartbeatTask = d.heartbeatTask := by
    rw [heartbeatTask, heartbeatTask, hh]
  refine ⟨⟨fun hr' => ?_, fun hc' => ?_, ?_, ?_, ?_, ?_, .inl ?_, ?_, ?_⟩, hstage,
    .of_stage_lt (by omega) (fun _ => stopIssued_of_three_le (by omega)) (fun _ _ => by rw [ha])
      (fun _ h3 => by omega)⟩
  · rw [hl, hreq] at hr'
    cases hr'
  · rw [hc] at hc'
    cases hc'
  · rw [ha, hstage]
    exact h.adapter.trans (by rw [hs]; decide)
  · simp [hr, hstage]
  · rw [hht, hstage, h.heartbeatTask_eq_none (by omega)]
    simp
  · rw [hh, h.hasHeartbeat]
  · rw [hcron, hstage, h.cron_eq (by omega), hs, cronAt_three_four]
  · have hv : (Lifecycle.lowering d).channelView =
        (d.channels.entries.map (ChannelManager.markCalled .stopped .stopped
          MemoryChannel.stop)).map ChannelEntry.lifeView := by
      rw [channelView, he]
    rw [hstage, hv]
    exact channelAt_stopCall (hs ▸ h.channels)
  · have hn : (Lifecycle.lowering d).channels.names = d.channels.names := by
      simp only [ChannelManager.names, he]
      exact ChannelManager.names_map_markCalled MemoryChannel.stop_name _
    rw [hn]
    exact h.distinct

/-- **The end of a stop:** the channels' answers recorded, the responder unsubscribed and the bus
closed, and the gateway `stopped` for good. -/
theorem lowered (h : Shaped d₀ d) (hs : d.stage = 4) (answers : List (String × Except String Unit)) :
    Shaped d₀ (Lifecycle.lowered answers d) ∧ (Lifecycle.lowered answers d).stage = 5 := by
  have hreq := h.not_requested (by omega)
  obtain ⟨-, hrouter⟩ := stage_eq_four.1 hs
  obtain ⟨incidents, h₁⟩ := Lifecycle.channelsSettled_entries none Incident.channelStopFailed answers d
  obtain ⟨bus₂, h₂, -⟩ := Lifecycle.adapterDown_eq (Lifecycle.stopSettle answers d).1
  -- The deployment the stop leaves, field by field.
  have heq : Lifecycle.lowered answers d =
      Lifecycle.shutDown (Lifecycle.adapterDown (Lifecycle.stopSettle answers d).1) := rfl
  rw [h₂] at heq
  have h₁' : (Lifecycle.stopSettle answers d).1 = _ := h₁
  rw [h₁'] at heq
  have hl : (Lifecycle.lowered answers d).lifecycle = { d.lifecycle with state := .stopped } := by
    rw [heq]; rfl
  have hc : (Lifecycle.lowered answers d).bus.closed = true := by rw [heq]; rfl
  have ha : (Lifecycle.lowered answers d).adapter.subscription = none := by rw [heq]; rfl
  have hr : (Lifecycle.lowered answers d).channels.router = none := by rw [heq]; exact hrouter
  have he : (Lifecycle.lowered answers d).channels.entries =
      d.channels.entries.map (ChannelManager.settledEntry none answers) := by rw [heq]; rfl
  have hh : (Lifecycle.lowered answers d).heartbeat = d.heartbeat := by rw [heq]; rfl
  have hcron : (Lifecycle.lowered answers d).cron = d.cron := by rw [heq]; rfl
  have hstage : (Lifecycle.lowered answers d).stage = 5 := stage_eq_five.2 ⟨by rw [hl], hc⟩
  have hht : (Lifecycle.lowered answers d).heartbeatTask = d.heartbeatTask := by
    rw [heartbeatTask, heartbeatTask, hh]
  refine ⟨⟨fun hr' => ?_, fun _ => by rw [hl], ?_, ?_, ?_, ?_, .inl ?_, ?_, ?_⟩, hstage⟩
  · rw [hl] at hr'
    change d.lifecycle.stopRequested = true at hr'
    rw [hreq] at hr'
    cases hr'
  · simp [ha, hstage]
  · simp [hr, hstage]
  · rw [hht, h.heartbeatTask_eq_none (by omega), hstage]
    simp
  · rw [hh, h.hasHeartbeat]
  · rw [hcron, hstage, h.cron_eq (by omega), hs, cronAt_four_five]
  · have hv : (Lifecycle.lowered answers d).channelView =
        (d.channels.entries.map (ChannelManager.settledEntry none answers)).map
          ChannelEntry.lifeView := by
      rw [channelView, he]
    rw [hstage, hv, ← channelAt_four_five]
    exact channelAt_stopSettle (hs ▸ h.channels) answers
  · have hn : (Lifecycle.lowered answers d).channels.names = d.channels.names := by
      simp only [ChannelManager.names, he, List.map_map]
      rfl
    rw [hn]
    exact h.distinct

end Shaped

end Deployment

/-! ## The executor at each transition -/

namespace Heartbeats

open Deployment

/-- The loop does not run while none is remembered. -/
theorem runningIn_of_none {ex : Exec} (h : ex.shared.heartbeatTask = none) : runningIn ex = false := by
  unfold runningIn
  rw [show ex.shared.heartbeat.bind (·.task) = none from h]

/-- A stop of the heartbeat cancels the loop it remembers. -/
theorem stopped_of_some {ex : Exec} {t : Nat} (h : ex.shared.heartbeatTask = some t) :
    stopped ex = (forgotten ex).abortTask t := by
  unfold stopped
  rw [show ex.shared.heartbeat.bind (·.task) = some t from h]

/-- A stop of the heartbeat with no loop remembered only forgets. -/
theorem stopped_of_none {ex : Exec} (h : ex.shared.heartbeatTask = none) :
    stopped ex = forgotten ex := by
  unfold stopped
  rw [show ex.shared.heartbeat.bind (·.task) = none from h]

end Heartbeats

namespace Lifecycle

open Deployment

/-- **The executor once a start's services have answered and the gateway runs.** -/
def upRunning (d : Deployment) (ex : Exec) : Exec :=
  let ex₁ := servicesStarted d ex
  { ex₁ with shared := (finishStart ex₁.shared).1 }

variable {d₀ : Deployment} {ex : Exec}

/-- **The services of a start that is `starting`:** the cron service's answer is reported, and
the heartbeat's loop, which does not run yet on the open bus, is started. -/
theorem servicesStarted_eq (h : Shaped d₀ ex.shared) (hs : ex.shared.stage = 1) (d : Deployment) :
    ∃ D, ex.shared.KeepsLife D ∧ servicesStarted d ex =
      if d.heartbeat.isSome then Heartbeats.started { ex with shared := D }
      else { ex with shared := D } := by
  -- Whatever the cron service answered, the loop does not run yet and the bus is open.
  have hup : ∀ D, ex.shared.KeepsLife D →
      heartbeatUp { ex with shared := D } = Heartbeats.started { ex with shared := D } := by
    intro D hD
    have hnone : D.heartbeatTask = none := by
      rw [hD.heartbeatTask]
      cases hb : ex.shared.heartbeatTask with
      | none => rfl
      | some t => have := (h.heartbeat.1 (by rw [hb]; rfl)).1; omega
    have hrun : Heartbeats.runningIn { ex with shared := D } = false :=
      Heartbeats.runningIn_of_none hnone
    have hopen : D.bus.closed = false := by
      rw [hD.closed]
      exact h.busOpen (by omega)
    unfold heartbeatUp
    simp only [hrun, Bool.false_eq_true, if_false]
    rw [if_neg (by simp [hopen])]
  unfold servicesStarted
  cases d.cron with
  | none =>
    refine ⟨ex.shared, .refl _, ?_⟩
    dsimp only
    split
    · exact hup _ (.refl _)
    · rfl
  | some c =>
    have hkeep : ex.shared.KeepsLife (reported "start" .cron (startOutcome c) ex.shared) := by
      obtain ⟨incidents, hr⟩ := reported_eq "start" .cron (startOutcome c) ex.shared
      rw [hr]
      exact .of_eq rfl rfl rfl rfl rfl rfl
    refine ⟨_, hkeep, ?_⟩
    dsimp only
    split
    · exact hup _ hkeep
    · rfl

/-- **The executor once the gateway runs:** the deployment is the start's, with the heartbeat's
loop remembered as the one new task when the deployment has a heartbeat. -/
theorem upRunning_eq (h : Shaped d₀ ex.shared) (hs : ex.shared.stage = 1) (d : Deployment)
    (hd : d.heartbeat.isSome = ex.shared.heartbeat.isSome) :
    ∃ D, ex.shared.KeepsLife D ∧
      (upRunning d ex).shared = (finishStart (D.withHeartbeatTask (some ex.tasks.size))).1 ∧
      (upRunning d ex).launch = ex.launch ∧
      (upRunning d ex).look =
        (if ex.shared.heartbeat.isSome then (ex.spawnTask .heartbeat).1.look else ex.look) ∧
      (servicesStarted d ex).shared.lifecycle.stopRequested = ex.shared.lifecycle.stopRequested := by
  obtain ⟨D, hD, heq⟩ := servicesStarted_eq h hs d
  refine ⟨D, hD, ?_⟩
  unfold upRunning
  rw [heq, hd]
  cases hb : ex.shared.heartbeat.isSome with
  | true =>
    refine ⟨rfl, rfl, rfl, ?_⟩
    change D.lifecycle.stopRequested = _
    rw [hD.lifecycle]
  | false =>
    have hnone : D.heartbeat = none := by
      rw [← Option.not_isSome_iff_eq_none, hD.heartbeat_isSome, hb]
      decide
    refine ⟨by rw [withHeartbeatTask_of_none hnone]; rfl, rfl, rfl, ?_⟩
    change D.lifecycle.stopRequested = _
    rw [hD.lifecycle]

/-- The services of a start and its end keep the subscriptions it took. -/
theorem upRunning_subscriptions (h : Shaped d₀ ex.shared) (hs : ex.shared.stage = 1)
    (d : Deployment) (hd : d.heartbeat.isSome = ex.shared.heartbeat.isSome) :
    (upRunning d ex).shared.adapter.subscription = ex.shared.adapter.subscription ∧
      (upRunning d ex).shared.channels.router = ex.shared.channels.router := by
  obtain ⟨D, hD, hshared, -⟩ := upRunning_eq h hs d hd
  rw [hshared]
  exact ⟨hD.subscription, hD.router⟩

/-- **A stop from `running`, up to the cron service's stop,** leaves the deployment `halted`. -/
theorem stopCalled_shared (ex : Exec) : (stopCalled ex).shared = halted ex.shared := by
  unfold stopCalled halted
  dsimp only
  split
  · unfold Heartbeats.stopped
    split
    · rename_i t _
      have hkeep : ((Heartbeats.forgotten { ex with shared := setState .stopping ex.shared }).abortTask t).shared =
          (Heartbeats.forgotten { ex with shared := setState .stopping ex.shared }).shared :=
        congrArg Seen.shared (abortTask_seen_eq _ t)
      rw [hkeep]
      rfl
    · rfl
  · rename_i hb
    rw [withHeartbeatTask_of_none (d := setState .stopping ex.shared)
      (Option.not_isSome_iff_eq_none.1 hb)]

theorem stopCalled_launch (ex : Exec) : (stopCalled ex).launch = ex.launch := by
  unfold stopCalled
  dsimp only
  split
  · unfold Heartbeats.stopped
    split
    · exact congrArg Seen.launch (abortTask_seen_eq _ _)
    · rfl
  · rfl

/-- **The tasks after a stop's first stage:** the heartbeat's loop, unless it has ended, is
cancelled; no other task changes. -/
theorem look_stopCalled (ex : Exec) (u : Nat) :
    (stopCalled ex).look u =
      if ex.shared.heartbeatTask = some u ∧ (ex.outcome? u).isNone then
        (ex.look u).map fun v => { v with cancelled := true }
      else ex.look u := by
  -- Changing the deployment does not change the tasks.
  have hforgot : ∀ f : Deployment → Deployment, ({ ex with shared := f ex.shared } : Exec).look = ex.look :=
    fun _ => rfl
  unfold stopCalled
  dsimp only
  split
  · rename_i hb
    cases ht : ex.shared.heartbeatTask with
    | none =>
      have ht' : ({ ex with shared := setState .stopping ex.shared } : Exec).shared.heartbeatTask = none := ht
      rw [Heartbeats.stopped_of_none ht']
      simp only [reduceCtorEq, false_and, if_false]
      rfl
    | some t =>
      have ht' : ({ ex with shared := setState .stopping ex.shared } : Exec).shared.heartbeatTask = some t :=
        ht
      rw [Heartbeats.stopped_of_some ht']
      -- Counting the cron service's stop touches the deployment only.
      change (((Heartbeats.forgotten { ex with shared := setState .stopping ex.shared }).abortTask t).look u) = _
      rw [look_abortTask]
      simp only [Option.some.injEq]
      by_cases hu : u = t
      · subst hu
        simp only [true_and]
        rfl
      · simp only [hu, false_and, if_false, Ne.symm hu]
        rfl
  · rename_i hb
    have hh : ex.shared.heartbeat = none := Option.not_isSome_iff_eq_none.1 hb
    have hnone : ex.shared.heartbeatTask = none := by
      unfold heartbeatTask
      rw [hh]
      rfl
    simp only [hnone, reduceCtorEq, false_and, if_false]
    rfl

/-- **The cron service's stop has returned:** only the deployment changes, and only the
incidents of it. -/
theorem stopReported_seen (d : Deployment) (ex : Exec) :
    ∃ D, ex.shared.KeepsLife D ∧ (stopReported d ex).seen = { ex.seen with shared := D } := by
  unfold stopReported
  cases d.cron with
  | none => exact ⟨ex.shared, .refl _, rfl⟩
  | some c =>
    have hkeep : ex.shared.KeepsLife (reported "stop" .cron (stopOutcome c) ex.shared) := by
      obtain ⟨incidents, hr⟩ := reported_eq "stop" .cron (stopOutcome c) ex.shared
      rw [hr]
      exact .of_eq rfl rfl rfl rfl rfl rfl
    exact ⟨_, hkeep, rfl⟩

end Lifecycle

end ChatGateway
