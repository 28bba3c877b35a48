import ChatGateway.Proofs.Lifecycle.Order

/-! # The stages of the gateway's life

`Deployment.stage` reads how far the gateway's life has come: `0` stopped and never started, `1`
starting, `2` running, `3` stopping with the router still subscribed, `4` stopping with the
router unsubscribed and the channels called to stop, `5` stopped for good with its bus closed.
Everything the lifecycle touches is fixed by the stage and by the deployment `d₀` the gateway
started from:

* `Deployment.Shaped d₀ d`: a stop request is pending only while starting, the bus is closed only
  once stopped, the responder and the router are subscribed exactly while the gateway is up, the
  heartbeat's loop is remembered exactly while it runs, and the cron service and every channel
  were started and stopped as often as the stage says (`cronAt`, `ChannelAt`).
* `Deployment.LifeAfter d d'`: `d'` comes no earlier in the life than `d`. The stage never goes
  back, an issued stop stays issued (`Deployment.StopIssued`), the subscriptions taken at the
  start stay the same until the stop ends, and so does the heartbeat's loop while it runs.

A channel answers its start or stop some time after it is called, so the statuses move in two
halves: the call makes a channel `starting` (or `stopped`) at once, and its answer, once
recorded, makes it `running` or `failed` (or leaves it `stopped`, or makes it `failed`).
`ChannelManager.statusAfter` says what recording answers does to one channel. The transitions
between the stages, and that each keeps the shape and comes later in the life, are the subject of
the next module.
-/

namespace ChatGateway

open Scheduling Scheduling.Executor

/-- Subscribing leaves the bus open or closed as it was. -/
theorem Bus.subscribe_closed (b : Bus) (topic : Topic) (s : Subscriber) :
    (b.subscribe topic s).1.closed = b.closed := by
  unfold Bus.subscribe
  dsimp only
  split <;> rfl

/-! ## Recording the channels' answers -/

namespace ChannelManager

/-- **The status a channel of name `n` is left in by recording `answers`,** from the status `s`:
each answer of its name makes it `ok`'s status, or leaves it when there is none, or makes it
`failed`. -/
def statusAfter (ok : Option ChannelStatus) (answers : List (String × Except String Unit))
    (n : String) (s : ChannelStatus) : ChannelStatus :=
  answers.foldl (fun s a =>
    if a.1 = n then
      match a.2 with
      | .ok () => ok.getD s
      | .error _ => .failed
    else s) s

/-- **A channel's entry once `answers` are recorded.** -/
def settledEntry (ok : Option ChannelStatus) (answers : List (String × Except String Unit))
    (e : ChannelEntry) : ChannelEntry :=
  { e with status := statusAfter ok answers e.channel.name e.status }

/-- **Recording answers moves each channel's status alone,** by the answers of its name. -/
theorem settleAll_fst (m : ChannelManager) (ok : Option ChannelStatus)
    (incident : String → String → Incident) (answers : List (String × Except String Unit)) :
    (m.settleAll ok incident answers).1 = { m with entries := m.entries.map (settledEntry ok answers) } := by
  rw [settleAll_eq]
  -- The fold moves the statuses of the manager it carries, answer after answer.
  have hfold : ∀ (M : ChannelManager) (r : LifecycleReport) (is : List Incident),
      (answers.foldl (settleStep ok incident) (M, r, is)).1 =
        { M with entries := M.entries.map (settledEntry ok answers) } := by
    induction answers with
    | nil =>
      intro M r is
      -- No answer leaves every entry as it is.
      rw [show settledEntry ok [] = id from rfl, List.map_id]
      rfl
    | cons a rest ih =>
      intro M r is
      rw [List.foldl_cons]
      obtain ⟨n, res⟩ := a
      rcases res with err | ⟨⟩
      · simp only [settleStep, ih, setStatus, List.map_map]
        congr 2
        funext e
        by_cases hn : e.channel.name = n
        · simp [settledEntry, statusAfter, hn]
        · simp [settledEntry, statusAfter, hn, Ne.symm hn]
      · cases ok with
        | none =>
          simp only [settleStep, Option.map_none, Option.getD_none, ih]
          congr 2
          funext e
          by_cases hn : e.channel.name = n
          · simp [settledEntry, statusAfter, hn]
          · simp [settledEntry, statusAfter, Ne.symm hn]
        | some st =>
          simp only [settleStep, Option.map_some, Option.getD_some, ih, setStatus, List.map_map]
          congr 2
          funext e
          by_cases hn : e.channel.name = n
          · simp [settledEntry, statusAfter, hn]
          · simp [settledEntry, statusAfter, hn, Ne.symm hn]
  exact hfold m {} []

/-- **What holds of `failed` and is kept by a successful answer holds after the answers.** -/
theorem statusAfter_induct {P : ChannelStatus → Prop} {ok : Option ChannelStatus}
    (hfailed : P .failed) (hok : ∀ s, P s → P (ok.getD s)) (answers : List (String × Except String Unit))
    (n : String) {s : ChannelStatus} (hs : P s) : P (statusAfter ok answers n s) := by
  induction answers generalizing s with
  | nil => exact hs
  | cons a rest ih =>
    simp only [statusAfter, List.foldl_cons]
    refine ih ?_
    split
    · split
      · exact hok s hs
      · exact hfailed
    · exact hs

/-- **A channel an answer names ends `running` or `failed`** after a start's answers. -/
theorem statusAfter_of_mem {answers : List (String × Except String Unit)} {n : String}
    (h : n ∈ answers.map (·.1)) (st s : ChannelStatus) :
    statusAfter (some st) answers n s = st ∨ statusAfter (some st) answers n s = .failed := by
  induction answers generalizing s with
  | nil => cases h
  | cons a rest ih =>
    simp only [statusAfter, List.foldl_cons]
    by_cases hn : a.1 = n
    · -- From its first answer on, the channel is at `st` or `failed`.
      rw [if_pos hn]
      refine statusAfter_induct (P := fun s => s = st ∨ s = .failed) (.inr rfl)
        (fun s hs => by simp) rest n ?_
      split
      · exact .inl rfl
      · exact .inr rfl
    · rw [if_neg hn]
      simp only [List.map_cons, List.mem_cons] at h
      exact ih (h.resolve_left (Ne.symm hn)) s

end ChannelManager

namespace Lifecycle

/-- A service's answer, reported, changes only the incidents. -/
theorem reported_eq (action : String) (s : Service) (r : Except String Unit) (d : Deployment) :
    ∃ incidents, reported action s r d = { d with incidents } := by
  rcases r with e | ⟨⟩
  · exact Deployment.foldl_observe_eq d [.serviceFailed (serviceName d s) action e]
  · exact ⟨_, rfl⟩

/-- **Subscribing the responder** to a deployment without it takes a subscription on the bus,
which stays open or closed as it was. -/
theorem adapterUp_eq {d : Deployment} (h : d.adapter.subscription = none) :
    ∃ (bus : Bus) (nextLocks id : Nat),
      adapterUp d = { d with bus, nextLocks, adapter := { d.adapter with subscription := some id } } ∧
        bus.closed = d.bus.closed := by
  unfold adapterUp
  rw [h]
  dsimp only
  split <;> exact ⟨_, _, _, rfl, Bus.subscribe_closed _ _ _⟩

/-- **Subscribing the router** of a deployment without it takes a subscription on the bus. -/
theorem routerUp_eq {d : Deployment} (h : d.channels.router = none) :
    ∃ (bus : Bus) (id : Nat),
      routerUp d = { d with bus, channels := { d.channels with router := some id } } ∧
        bus.closed = d.bus.closed := by
  unfold routerUp
  rw [h]
  exact ⟨_, _, rfl, Bus.subscribe_closed _ _ _⟩

/-- **Unsubscribing the responder** leaves it unsubscribed, whether it was subscribed or not. -/
theorem adapterDown_eq (d : Deployment) :
    ∃ bus : Bus,
      adapterDown d = { d with bus, adapter := { d.adapter with subscription := none } } ∧
        bus.closed = d.bus.closed := by
  unfold adapterDown
  split
  · exact ⟨_, rfl, rfl⟩
  · rename_i h
    refine ⟨d.bus, ?_, rfl⟩
    rw [← h]

/-- **Unsubscribing the router** leaves it unsubscribed, whether it was subscribed or not. -/
theorem routerDown_eq (d : Deployment) :
    ∃ bus : Bus,
      routerDown d = { d with bus, channels := { d.channels with router := none } } ∧
        bus.closed = d.bus.closed := by
  unfold routerDown
  split
  · exact ⟨_, rfl, rfl⟩
  · rename_i h
    refine ⟨d.bus, ?_, rfl⟩
    rw [← h]

/-- **Recording the channels' answers** moves each channel's status as
`ChannelManager.statusAfter` says; only the incidents change besides. -/
theorem channelsSettled_entries (ok : Option ChannelStatus) (incident : String → String → Incident)
    (answers : List (String × Except String Unit)) (d : Deployment) :
    ∃ incidents, (channelsSettled ok incident answers d).1 =
      { d with channels := { d.channels with
          entries := d.channels.entries.map (ChannelManager.settledEntry ok answers) }, incidents } := by
  obtain ⟨incidents, h⟩ := channelsSettled_eq ok incident answers d
  rw [ChannelManager.settleAll_fst] at h
  exact ⟨incidents, h⟩

end Lifecycle

/-! ## The channels at each stage -/

namespace ChannelEntry

/-- The starts of a channel once the channels were started, from its status and counters before:
one more, unless it was running. -/
def startedCount (v : ChannelStatus × Nat × Nat) : Nat := v.2.1 + if v.1 = .running then 0 else 1

end ChannelEntry

namespace Deployment

/-- **A channel at a stage of the gateway's life,** from its status and counters `v₀` at first:
untouched before the start; then started once unless it was running, and running or failed up
to the stop, or still starting while the gateway starts; then stopped once, and stopped or
failed. -/
def ChannelAt (s : Nat) (v₀ v : ChannelStatus × Nat × Nat) : Prop :=
  if s = 0 then v = v₀
  else if s ≤ 3 then
    (v.1 = .running ∨ v.1 = .failed ∨ (s = 1 ∧ v.1 = .starting)) ∧
      v.2.1 = ChannelEntry.startedCount v₀ ∧ v.2.2 = v₀.2.2
  else (v.1 = .stopped ∨ v.1 = .failed) ∧ v.2.1 = ChannelEntry.startedCount v₀ ∧ v.2.2 = v₀.2.2 + 1

/-- **The cron service at a stage of the gateway's life,** from the service it started with: its
start is counted once the gateway left `stopped`, its stop once the gateway began to stop. -/
def cronAt (s : Nat) (c : ScriptedService) : ScriptedService :=
  { c with starts := c.starts + (if 1 ≤ s then 1 else 0), stops := c.stops + (if 3 ≤ s then 1 else 0) }

/-- **A stop was issued while the gateway was starting or running:** it is remembered while the
gateway starts, or under way, or done. -/
def StopIssued (d : Deployment) : Prop :=
  3 ≤ d.stage ∨ (d.stage = 1 ∧ d.lifecycle.stopRequested = true)

/-- **The lifecycle of a deployment at its stage, against the deployment `d₀` it started from.**
A stop request is pending only while starting, and the bus is closed only once stopped; the
responder is subscribed exactly while the gateway is up, the router exactly until the stop turns
to the channels, and the heartbeat's loop is remembered exactly while the gateway runs with a
heartbeat; the cron service was started and stopped as the stage counts, its start counted at
some point while starting; every channel was started and stopped as the stage counts; the
channels keep distinct names. -/
structure Shaped (d₀ d : Deployment) : Prop where
  requested : d.lifecycle.stopRequested = true → d.lifecycle.state = .starting
  closed : d.bus.closed = true → d.lifecycle.state = .stopped
  adapter : d.adapter.subscription.isSome = true ↔ 1 ≤ d.stage ∧ d.stage ≤ 4
  router : d.channels.router.isSome = true ↔ 1 ≤ d.stage ∧ d.stage ≤ 3
  heartbeat : d.heartbeatTask.isSome = true ↔ d.stage = 2 ∧ d.heartbeat.isSome = true
  hasHeartbeat : d.heartbeat.isSome = d₀.heartbeat.isSome
  cron : d.cron = d₀.cron.map (cronAt d.stage) ∨ (d.stage = 1 ∧ d.cron = d₀.cron)
  channels : List.Forall₂ (ChannelAt d.stage) d₀.channelView d.channelView
  distinct : d.channels.names.Nodup

/-- **`d'` comes no earlier than `d` in the gateway's life:** the stage never goes back, an
issued stop stays issued, the responder's subscription taken at the start stays the same until
the stop ends and the router's until the stop turns to the channels, and the heartbeat's loop
stays the same while the gateway runs. -/
structure LifeAfter (d d' : Deployment) : Prop where
  stage : d.stage ≤ d'.stage
  stopIssued : d.StopIssued → d'.StopIssued
  adapter : 1 ≤ d.stage → d'.stage ≤ 4 → d'.adapter.subscription = d.adapter.subscription
  router : 1 ≤ d.stage → d'.stage ≤ 3 → d'.channels.router = d.channels.router
  heartbeatTask : d.stage = 2 → d'.stage = 2 → d'.heartbeatTask = d.heartbeatTask

/-- **A deployment whose gateway was never started:** stopped with no stop request and its bus
open, neither the responder nor the router subscribed, no heartbeat loop remembered, and channels
of distinct names. -/
structure Fresh (d : Deployment) : Prop where
  state : d.lifecycle.state = .stopped
  requested : d.lifecycle.stopRequested = false
  busOpen : d.bus.closed = false
  adapter : d.adapter.subscription = none
  router : d.channels.router = none
  heartbeat : d.heartbeatTask = none
  distinct : d.channels.names.Nodup

/-! ## The stage -/

theorem stage_le_five (d : Deployment) : d.stage ≤ 5 := by
  unfold stage
  split
  · split <;> omega
  · omega
  · omega
  · split <;> omega

theorem stage_eq_zero {d : Deployment} :
    d.stage = 0 ↔ d.lifecycle.state = .stopped ∧ d.bus.closed = false := by
  cases hs : d.lifecycle.state <;> cases hc : d.bus.closed <;>
    cases hr : d.channels.router.isSome <;> simp [stage, hs, hc, hr]

theorem stage_eq_one {d : Deployment} : d.stage = 1 ↔ d.lifecycle.state = .starting := by
  cases hs : d.lifecycle.state <;> cases hc : d.bus.closed <;>
    cases hr : d.channels.router.isSome <;> simp [stage, hs, hc, hr]

theorem stage_eq_two {d : Deployment} : d.stage = 2 ↔ d.lifecycle.state = .running := by
  cases hs : d.lifecycle.state <;> cases hc : d.bus.closed <;>
    cases hr : d.channels.router.isSome <;> simp [stage, hs, hc, hr]

theorem stage_eq_three {d : Deployment} :
    d.stage = 3 ↔ d.lifecycle.state = .stopping ∧ d.channels.router.isSome = true := by
  cases hs : d.lifecycle.state <;> cases hc : d.bus.closed <;>
    cases hr : d.channels.router.isSome <;> simp [stage, hs, hc, hr]

theorem stage_eq_four {d : Deployment} :
    d.stage = 4 ↔ d.lifecycle.state = .stopping ∧ d.channels.router = none := by
  cases hs : d.lifecycle.state <;> cases hc : d.bus.closed <;>
    cases hr : d.channels.router <;> simp [stage, hs, hc, hr]

theorem stage_eq_five {d : Deployment} :
    d.stage = 5 ↔ d.lifecycle.state = .stopped ∧ d.bus.closed = true := by
  cases hs : d.lifecycle.state <;> cases hc : d.bus.closed <;>
    cases hr : d.channels.router.isSome <;> simp [stage, hs, hc, hr]

/-- The stage reads only the lifecycle state, whether the bus is closed and whether the router is
subscribed. -/
theorem stage_congr {d d' : Deployment} (hl : d'.lifecycle.state = d.lifecycle.state)
    (hc : d'.bus.closed = d.bus.closed) (hr : d'.channels.router.isSome = d.channels.router.isSome) :
    d'.stage = d.stage := by
  unfold stage
  rw [hl, hc, hr]

/-! ## The channels and the cron service at each stage -/

/-- Before the start the channels show what they showed at first. -/
theorem channelView_of_stage_zero {d₀ d : Deployment}
    (h : List.Forall₂ (ChannelAt 0) d₀.channelView d.channelView) : d.channelView = d₀.channelView := by
  have heq : ChannelAt 0 = fun v₀ v => v = v₀ := by
    funext v₀ v
    simp [ChannelAt]
  rw [heq] at h
  exact (List.forall₂_eq_eq_eq (α := ChannelStatus × Nat × Nat)) ▸ h.flip

/-- A channel at stage `1`: running, failed or still starting, started once unless it was
running. -/
theorem channelAt_one {v₀ v : ChannelStatus × Nat × Nat} :
    ChannelAt 1 v₀ v ↔ (v.1 = .running ∨ v.1 = .failed ∨ v.1 = .starting) ∧
      v.2.1 = ChannelEntry.startedCount v₀ ∧ v.2.2 = v₀.2.2 := by
  simp [ChannelAt]

/-- A channel at stages `2` and `3`: running or failed. -/
theorem channelAt_up {s : Nat} (h2 : 2 ≤ s) (h3 : s ≤ 3) {v₀ v : ChannelStatus × Nat × Nat} :
    ChannelAt s v₀ v ↔ (v.1 = .running ∨ v.1 = .failed) ∧
      v.2.1 = ChannelEntry.startedCount v₀ ∧ v.2.2 = v₀.2.2 := by
  simp only [ChannelAt, if_neg (show s ≠ 0 by omega), if_pos h3, show s ≠ 1 by omega, false_and,
    or_false]

/-- A channel from stage `4` on: stopped once, and stopped or failed. -/
theorem channelAt_down {s : Nat} (h4 : 4 ≤ s) {v₀ v : ChannelStatus × Nat × Nat} :
    ChannelAt s v₀ v ↔ (v.1 = .stopped ∨ v.1 = .failed) ∧
      v.2.1 = ChannelEntry.startedCount v₀ ∧ v.2.2 = v₀.2.2 + 1 := by
  simp only [ChannelAt, if_neg (show s ≠ 0 by omega), if_neg (show ¬s ≤ 3 by omega)]

/-- While the gateway runs and its stop is at the services, the stage does not matter to the
channels. -/
theorem channelAt_two_three : ChannelAt 2 = ChannelAt 3 := by
  funext v₀ v
  rw [channelAt_up (Nat.le_refl 2) (by omega), channelAt_up (by omega) (Nat.le_refl 3)]

/-- Once the channels were called to stop, the stage does not matter to them. -/
theorem channelAt_four_five : ChannelAt 4 = ChannelAt 5 := by
  funext v₀ v
  rw [channelAt_down (Nat.le_refl 4), channelAt_down (by omega)]

/-- **A channel no longer starting** is at stage `2` once it is at stage `1`. -/
theorem channelAt_one_two {v₀ v : ChannelStatus × Nat × Nat} (h : ChannelAt 1 v₀ v)
    (hv : v.1 ≠ .starting) : ChannelAt 2 v₀ v := by
  obtain ⟨hstatus, hstarts, hstops⟩ := channelAt_one.1 h
  exact (channelAt_up (Nat.le_refl 2) (by omega)).2
    ⟨hstatus.imp_right fun h => h.resolve_right hv, hstarts, hstops⟩

/-- **Channels no longer starting** are at stage `2` once they are at stage `1`. -/
theorem channelAt_one_two_all {v₀ v : List (ChannelStatus × Nat × Nat)}
    (h : List.Forall₂ (ChannelAt 1) v₀ v) (hidle : ∀ x ∈ v, x.1 ≠ .starting) :
    List.Forall₂ (ChannelAt 2) v₀ v := by
  induction h with
  | nil => exact .nil
  | cons hab _ ih =>
    exact .cons (channelAt_one_two hab (hidle _ List.mem_cons_self))
      (ih fun x hx => hidle x (List.mem_cons_of_mem _ hx))

/-- **A start's calls** take every channel from its first view to its view at stage `1`:
a running channel stays, any other is `starting` and started once. -/
theorem channelAt_startCall {v₀ : List (ChannelStatus × Nat × Nat)} {es : List ChannelEntry}
    (h : es.map ChannelEntry.lifeView = v₀) :
    List.Forall₂ (ChannelAt 1) v₀
      ((es.map (ChannelManager.markCalled .running .starting MemoryChannel.start)).map
        ChannelEntry.lifeView) := by
  subst h
  rw [List.forall₂_map_left_iff, List.map_map, List.forall₂_map_right_iff]
  refine List.forall₂_same.2 fun e _ => channelAt_one.2 ?_
  obtain ⟨hstarts, hstops⟩ := MemoryChannel.start_counts e.channel
  simp only [Function.comp_apply, ChannelManager.markCalled, ChannelEntry.lifeView,
    ChannelEntry.startedCount]
  by_cases hs : e.status = .running
  · simp [hs]
  · simp [hs, hstarts, hstops]

/-- **Recording a start's answers** keeps every channel at stage `1`: a channel answered is
running or failed, and the counters stay. -/
theorem channelAt_startSettle {v₀ : List (ChannelStatus × Nat × Nat)} {es : List ChannelEntry}
    (h : List.Forall₂ (ChannelAt 1) v₀ (es.map ChannelEntry.lifeView))
    (answers : List (String × Except String Unit)) :
    List.Forall₂ (ChannelAt 1) v₀
      ((es.map (ChannelManager.settledEntry (some .running) answers)).map ChannelEntry.lifeView) := by
  rw [List.forall₂_map_right_iff] at h
  rw [List.map_map, List.forall₂_map_right_iff]
  refine h.imp fun v e hv => ?_
  obtain ⟨hstatus, hstarts, hstops⟩ := channelAt_one.1 hv
  exact channelAt_one.2 ⟨ChannelManager.statusAfter_induct
    (P := fun s => s = .running ∨ s = .failed ∨ s = .starting) (.inr (.inl rfl))
    (fun _ _ => .inl rfl) answers _ hstatus, hstarts, hstops⟩

/-- **A stop's calls** take every channel from its view at stage `3` to its view at stage `4`:
each is `stopped` and stopped once. -/
theorem channelAt_stopCall {v₀ : List (ChannelStatus × Nat × Nat)} {es : List ChannelEntry}
    (h : List.Forall₂ (ChannelAt 3) v₀ (es.map ChannelEntry.lifeView)) :
    List.Forall₂ (ChannelAt 4) v₀
      ((es.map (ChannelManager.markCalled .stopped .stopped MemoryChannel.stop)).map
        ChannelEntry.lifeView) := by
  rw [List.forall₂_map_right_iff] at h
  rw [List.map_map, List.forall₂_map_right_iff]
  refine h.imp fun v e hv => ?_
  obtain ⟨hstatus, hstarts, hstops⟩ := (channelAt_up (by omega) (Nat.le_refl 3)).1 hv
  -- A running or failed channel is not stopped, so it is called.
  have hns : e.status ≠ .stopped := by
    rcases hstatus with hs | hs <;> simp only [ChannelEntry.lifeView] at hs <;> rw [hs] <;> decide
  obtain ⟨hstops', hstarts'⟩ := MemoryChannel.stop_counts e.channel
  refine (channelAt_down (Nat.le_refl 4)).2 ⟨.inl ?_, ?_, ?_⟩
  · simp [ChannelManager.markCalled, hns, ChannelEntry.lifeView]
  · simpa [ChannelManager.markCalled, hns, ChannelEntry.lifeView, hstarts'] using hstarts
  · simpa [ChannelManager.markCalled, hns, ChannelEntry.lifeView, hstops'] using hstops

/-- **Recording a stop's answers** keeps every channel stopped or failed, its counters as they
were. -/
theorem channelAt_stopSettle {v₀ : List (ChannelStatus × Nat × Nat)} {es : List ChannelEntry}
    (h : List.Forall₂ (ChannelAt 4) v₀ (es.map ChannelEntry.lifeView))
    (answers : List (String × Except String Unit)) :
    List.Forall₂ (ChannelAt 4) v₀
      ((es.map (ChannelManager.settledEntry none answers)).map ChannelEntry.lifeView) := by
  rw [List.forall₂_map_right_iff] at h
  rw [List.map_map, List.forall₂_map_right_iff]
  refine h.imp fun v e hv => ?_
  obtain ⟨hstatus, hstarts, hstops⟩ := (channelAt_down (Nat.le_refl 4)).1 hv
  exact (channelAt_down (Nat.le_refl 4)).2 ⟨ChannelManager.statusAfter_induct
    (P := fun s => s = .stopped ∨ s = .failed) (.inr rfl) (fun _ hs => by simpa using hs) answers _
    hstatus,
    hstarts, hstops⟩

theorem cronAt_zero (c : ScriptedService) : cronAt 0 c = c := by
  cases c
  simp [cronAt]

/-- Counting the cron service's start takes it from stage `0` to stage `1`. -/
theorem cronAt_start (c : ScriptedService) :
    { c with starts := c.starts + 1 } = cronAt 1 c := by
  simp [cronAt]

/-- Counting the cron service's stop takes it from stage `2` to stage `3`. -/
theorem cronAt_stop (c : ScriptedService) :
    { cronAt 2 c with stops := (cronAt 2 c).stops + 1 } = cronAt 3 c := by
  simp [cronAt]

theorem cronAt_one_two : cronAt 1 = cronAt 2 := by
  funext c
  simp [cronAt]

theorem cronAt_three_four : cronAt 3 = cronAt 4 := by
  funext c
  simp [cronAt]

theorem cronAt_four_five : cronAt 4 = cronAt 5 := by
  funext c
  simp [cronAt]

/-! ## The life relation -/

namespace LifeAfter

theorem refl (d : Deployment) : LifeAfter d d :=
  ⟨Nat.le_refl _, id, fun _ _ => rfl, fun _ _ => rfl, fun _ _ => rfl⟩

theorem trans {d₁ d₂ d₃ : Deployment} (h₁ : LifeAfter d₁ d₂) (h₂ : LifeAfter d₂ d₃) :
    LifeAfter d₁ d₃ where
  stage := Nat.le_trans h₁.stage h₂.stage
  stopIssued := h₂.stopIssued ∘ h₁.stopIssued
  -- The stage in between lies between the two.
  adapter hs₁ hs₃ :=
    (h₂.adapter (Nat.le_trans hs₁ h₁.stage) hs₃).trans (h₁.adapter hs₁ (Nat.le_trans h₂.stage hs₃))
  router hs₁ hs₃ :=
    (h₂.router (Nat.le_trans hs₁ h₁.stage) hs₃).trans (h₁.router hs₁ (Nat.le_trans h₂.stage hs₃))
  heartbeatTask hs₁ hs₃ := by
    have hs₂ : d₂.stage = 2 := by
      have := h₁.stage
      have := h₂.stage
      omega
    exact (h₂.heartbeatTask hs₂ hs₃).trans (h₁.heartbeatTask hs₁ hs₂)

/-- A deployment at the same stage with the same lifecycle parts comes no earlier. -/
theorem of_same {d d' : Deployment} (hl : d'.lifecycle = d.lifecycle) (hc : d'.bus.closed = d.bus.closed)
    (ha : d'.adapter.subscription = d.adapter.subscription) (hr : d'.channels.router = d.channels.router)
    (hh : d'.heartbeatTask = d.heartbeatTask) : LifeAfter d d' := by
  have hs : d'.stage = d.stage := stage_congr (by rw [hl]) hc (by rw [hr])
  refine ⟨Nat.le_of_eq hs.symm, fun h => ?_, fun _ _ => ha, fun _ _ => hr, fun _ _ => hh⟩
  unfold StopIssued
  rw [hs, hl]
  exact h

/-- **A change that leaves the lifecycle alone** comes no earlier in the life. -/
theorem of_keepsLife {d d' : Deployment} (h : d.KeepsLife d') : LifeAfter d d' :=
  of_same h.lifecycle h.closed h.subscription h.router h.heartbeatTask

end LifeAfter

/-! ## The shape -/

namespace Shaped

variable {d₀ d d' : Deployment}

/-- **A change that leaves the lifecycle alone keeps the shape.** -/
theorem keepsLife (h : Shaped d₀ d) (hk : d.KeepsLife d') : Shaped d₀ d' := by
  have hs : d'.stage = d.stage := stage_congr (by rw [hk.lifecycle]) hk.closed (by rw [hk.router])
  have hnames : d'.channels.names = d.channels.names := hk.names
  exact {
    requested := by rw [hk.lifecycle]; exact h.requested
    closed := by rw [hk.lifecycle, hk.closed]; exact h.closed
    adapter := by rw [hk.subscription, hs]; exact h.adapter
    router := by rw [hk.router, hs]; exact h.router
    heartbeat := by rw [hk.heartbeatTask, hs, hk.heartbeat_isSome]; exact h.heartbeat
    hasHeartbeat := hk.heartbeat_isSome.trans h.hasHeartbeat
    cron := by rw [hk.cron, hs]; exact h.cron
    channels := by rw [hk.channels h.distinct, hs]; exact h.channels
    distinct := by rw [hnames]; exact h.distinct }

/-- The deployment itself is where its life starts, if it was never started. -/
theorem of_fresh (h : Fresh d₀) : Shaped d₀ d₀ := by
  have hs : d₀.stage = 0 := stage_eq_zero.2 ⟨h.state, h.busOpen⟩
  refine ⟨fun hr => ?_, fun hc => ?_, ?_, ?_, ?_, rfl, .inl ?_, ?_, h.distinct⟩
  · rw [h.requested] at hr
    cases hr
  · rw [h.busOpen] at hc
    cases hc
  · simp [h.adapter, hs]
  · simp [h.router, hs]
  · simp [h.heartbeat, hs]
  · rw [hs]
    cases d₀.cron <;> simp [cronAt_zero]
  · rw [hs]
    exact List.forall₂_same.2 fun v _ => by simp [ChannelAt]

/-- A shaped deployment at stage `0` has not been started. -/
theorem fresh_of_stage_zero (h : Shaped d₀ d) (hs : d.stage = 0) :
    d.lifecycle.stopRequested = false ∧ d.adapter.subscription = none ∧
      d.channels.router = none ∧ d.heartbeatTask = none := by
  obtain ⟨hstate, -⟩ := stage_eq_zero.1 hs
  refine ⟨?_, ?_, ?_, ?_⟩
  · cases hr : d.lifecycle.stopRequested with
    | false => rfl
    | true => rw [h.requested hr] at hstate; cases hstate
  · cases ha : d.adapter.subscription with
    | none => rfl
    | some _ => have := h.adapter.1 (by simp [ha]); omega
  · cases hr : d.channels.router with
    | none => rfl
    | some _ => have := h.router.1 (by simp [hr]); omega
  · cases hh : d.heartbeatTask with
    | none => rfl
    | some _ => have := h.heartbeat.1 (by simp [hh]); omega

end Shaped

end Deployment

end ChatGateway
