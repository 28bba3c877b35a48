import Mathlib.Data.List.Nodup
import ChatGateway.Proofs.ChatLocks.Table

/-! # Work that leaves the gateway's lifecycle alone

Only a start or a stop of the gateway moves its lifecycle: the state and a pending stop request,
whether the bus is closed, the responder's and the router's subscriptions, the channels' statuses
and counters, the cron service and the heartbeat's timer loop. `Deployment.stage` reads how far
the gateway's life has come, `Deployment.KeepsLife` says a change of the deployment leaves all of
that alone, and `KeepsLifecycle` is the frame of such steps, with what the invariant of the
lifecycle also needs of every step: tasks keep what the invariants see of them, and new tasks
run jobs.

A delivery to a channel rewrites every entry of the channel's name; the channels keep their
statuses and counters only while their names are distinct, which no step changes.

* `Chore.keepsLife`: no routine write moves the lifecycle.
* `KeepsLifecycle.routine`, `.dispatching`, `.locking`: the frame admits routine work, the
  dispatcher's and the chat locks'.
* `KeepsLifecycle.job_within`: every task but a background start or stop stays within it.
-/

namespace ChatGateway

open Scheduling Scheduling.Executor

/-! ## The stage of the gateway and what it depends on -/

/-- **How far the gateway's life has come:** `0` stopped and never started, `1` starting, `2`
running, `3` stopping with the router still subscribed, `4` stopping with the router unsubscribed
and the channels called to stop, `5` stopped for good with its bus closed. -/
def Deployment.stage (d : Deployment) : Nat :=
  match d.lifecycle.state with
  | .stopped => if d.bus.closed then 5 else 0
  | .starting => 1
  | .running => 2
  | .stopping => if d.channels.router.isSome then 3 else 4

/-- What a channel's lifecycle shows: its status and how many times it was started and stopped. -/
def ChannelEntry.lifeView (e : ChannelEntry) : ChannelStatus × Nat × Nat :=
  (e.status, e.channel.starts, e.channel.stops)

/-- **What the lifecycle is about in a deployment,** its channels apart: the lifecycle state and
stop request, whether the bus is closed, the responder's and the router's subscriptions, the
cron service and the heartbeat's timer loop. -/
def Deployment.lifeView (d : Deployment) :
    Lifecycle × Bool × Option Nat × Option Nat × Option ScriptedService × Option (Option Nat) :=
  (d.lifecycle, d.bus.closed, d.adapter.subscription, d.channels.router, d.cron,
    d.heartbeat.map (·.task))

/-- The channels' statuses and counters, in the order of the channels. -/
def Deployment.channelView (d : Deployment) : List (ChannelStatus × Nat × Nat) :=
  d.channels.entries.map ChannelEntry.lifeView

/-- **A change of the deployment that leaves the lifecycle alone:** the same lifecycle view and
channel names, and, while the names are distinct, the same channel statuses and counters. -/
structure Deployment.KeepsLife (d d' : Deployment) : Prop where
  view : d'.lifeView = d.lifeView
  names : d'.channels.names = d.channels.names
  channels : d.channels.names.Nodup → d'.channelView = d.channelView

namespace Deployment.KeepsLife

theorem refl (d : Deployment) : KeepsLife d d := ⟨rfl, rfl, fun _ => rfl⟩

theorem trans {d₁ d₂ d₃ : Deployment} (h₁ : KeepsLife d₁ d₂) (h₂ : KeepsLife d₂ d₃) :
    KeepsLife d₁ d₃ where
  view := h₂.view.trans h₁.view
  names := h₂.names.trans h₁.names
  channels hnd := (h₂.channels (h₁.names ▸ hnd)).trans (h₁.channels hnd)

/-- A change of parts of the deployment the lifecycle does not read. -/
theorem of_eq {d d' : Deployment} (hl : d'.lifecycle = d.lifecycle) (hc : d'.bus.closed = d.bus.closed)
    (ha : d'.adapter = d.adapter) (hch : d'.channels = d.channels) (hcron : d'.cron = d.cron)
    (hh : d'.heartbeat = d.heartbeat) : KeepsLife d d' where
  view := by simp only [lifeView, hl, hc, ha, hch, hcron, hh]
  names := by rw [hch]
  channels _ := by simp only [channelView, hch]

theorem observe (d : Deployment) (i : Incident) : KeepsLife d (d.observe i) := by
  unfold Deployment.observe
  split
  · exact of_eq rfl rfl rfl rfl rfl rfl
  · exact refl d

theorem foldl_observe (d : Deployment) (is : List Incident) :
    KeepsLife d (is.foldl Deployment.observe d) := by
  induction is generalizing d with
  | nil => exact refl d
  | cons i is ih => exact (observe d i).trans (ih _)

/-! The parts of the lifecycle such a change keeps, one by one. -/

theorem lifecycle {d d' : Deployment} (h : KeepsLife d d') : d'.lifecycle = d.lifecycle :=
  congrArg (·.1) h.view

theorem closed {d d' : Deployment} (h : KeepsLife d d') : d'.bus.closed = d.bus.closed :=
  congrArg (·.2.1) h.view

theorem subscription {d d' : Deployment} (h : KeepsLife d d') :
    d'.adapter.subscription = d.adapter.subscription :=
  congrArg (·.2.2.1) h.view

theorem router {d d' : Deployment} (h : KeepsLife d d') : d'.channels.router = d.channels.router :=
  congrArg (·.2.2.2.1) h.view

theorem cron {d d' : Deployment} (h : KeepsLife d d') : d'.cron = d.cron :=
  congrArg (·.2.2.2.2.1) h.view

theorem heartbeat_isSome {d d' : Deployment} (h : KeepsLife d d') :
    d'.heartbeat.isSome = d.heartbeat.isSome := by
  have hm := congrArg (fun v => (v.2.2.2.2.2 : Option (Option Nat)).isSome) h.view
  simpa [lifeView] using hm

theorem heartbeatTask {d d' : Deployment} (h : KeepsLife d d') :
    d'.heartbeatTask = d.heartbeatTask := by
  have hm : d'.heartbeat.map (·.task) = d.heartbeat.map (·.task) := congrArg (·.2.2.2.2.2) h.view
  -- The task is read through the map that the view keeps.
  have hbind : ∀ o : Option HeartbeatService, o.bind (·.task) = (o.map (·.task)).join := by
    intro o
    cases o <;> rfl
  unfold Deployment.heartbeatTask
  rw [hbind, hbind, hm]

end Deployment.KeepsLife

/-- A delivery keeps a channel's name and counters. -/
theorem MemoryChannel.send_counts (c : MemoryChannel) (m : OutboundMessage) :
    (c.send m).1.name = c.name ∧ (c.send m).1.starts = c.starts ∧ (c.send m).1.stops = c.stops := by
  unfold MemoryChannel.send
  split <;> exact ⟨rfl, rfl, rfl⟩

/-- Rewriting the channel of an entry's name with a channel of that name and the entry's
counters; while names are distinct the entry is the only one rewritten. -/
theorem Deployment.keepsLife_modifyChannel (d : Deployment) {e : ChannelEntry}
    (he : e ∈ d.channels.entries) (c : MemoryChannel) (hname : c.name = e.channel.name)
    (hstarts : c.starts = e.channel.starts) (hstops : c.stops = e.channel.stops) :
    d.KeepsLife { d with channels := d.channels.modifyChannel e.channel.name fun _ => c } := by
  refine ⟨rfl, ?_, fun hnd => ?_⟩
  · simp only [ChannelManager.names, ChannelManager.modifyChannel, List.map_map]
    refine List.map_congr_left fun e' _ => ?_
    simp only [Function.comp_apply]
    split
    · rename_i hn
      rw [hname]
      exact (by simpa using hn : e'.channel.name = e.channel.name).symm
    · rfl
  · simp only [Deployment.channelView, ChannelManager.modifyChannel, List.map_map]
    refine List.map_congr_left fun e' he' => ?_
    simp only [Function.comp_apply]
    split
    · rename_i hn
      -- With distinct names the entry of the name is `e` itself.
      have hsame : e' = e := List.inj_on_of_nodup_map hnd he' he (by simpa using hn)
      subst hsame
      simp only [ChannelEntry.lifeView, hstarts, hstops]
    · rfl

/-- **A delivery leaves the lifecycle alone:** it rewrites the channel it sent through, which
keeps its name and counters. -/
theorem Handlers.route_keepsLife (m : OutboundMessage) (d : Deployment) :
    d.KeepsLife (Handlers.route m d) := by
  unfold Handlers.route
  split
  · exact Deployment.KeepsLife.observe d _
  · rename_i e he
    obtain ⟨hname, hstarts, hstops⟩ := MemoryChannel.send_counts e.channel m
    have hmem := List.mem_of_find?_eq_some he
    have hchannel : e.channel.name = m.channel := by simpa using List.find?_some he
    have hkeep := d.keepsLife_modifyChannel hmem _ hname hstarts hstops
    rw [hchannel] at hkeep
    rcases hs : e.channel.send m with ⟨c, r⟩
    rw [hs] at hkeep
    dsimp only
    split
    · exact hkeep
    · exact hkeep.trans (Deployment.KeepsLife.observe _ _)

/-- **No routine write moves the lifecycle.** -/
theorem Chore.keepsLife {f : Deployment → Deployment} (hf : Chore f) (d : Deployment) :
    d.KeepsLife (f d) := by
  cases hf with
  | observe g => exact Deployment.KeepsLife.observe d (g d)
  | logEvent entry => exact Deployment.KeepsLife.of_eq rfl rfl rfl rfl rfl rfl
  | see m => exact Deployment.KeepsLife.of_eq rfl rfl rfl rfl rfl rfl
  | logCall messages schemas => exact Deployment.KeepsLife.of_eq rfl rfl rfl rfl rfl rfl
  | route m => exact Handlers.route_keepsLife m d
  | report h e r _ =>
    unfold Handlers.report
    split
    · exact Deployment.KeepsLife.of_eq rfl rfl rfl rfl rfl rfl
    · refine Deployment.KeepsLife.trans ?_ (Deployment.KeepsLife.observe _ _)
      exact .of_eq rfl rfl rfl rfl rfl rfl
    · refine Deployment.KeepsLife.trans ?_ (Deployment.KeepsLife.observe _ _)
      exact .of_eq rfl rfl rfl rfl rfl rfl

/-! ## The frame -/

/-- **A step that leaves the gateway's lifecycle alone.** The launcher stays, the deployment
changes only as `Deployment.KeepsLife` allows, every task keeps what the invariants see of it,
and new tasks run jobs. -/
structure KeepsLifecycle (ex ex' : Exec) : Prop where
  launch : ex'.launch = ex.launch
  shared : ex.shared.KeepsLife ex'.shared
  tasks : ∀ t v, ex.look t = some v → ex'.look t = some v
  fresh : ∀ t v, ex.look t = none → ex'.look t = some v → ∃ j, v = ⟨ex.launch j, false, false⟩

namespace KeepsLifecycle

theorem refl (ex : Exec) : KeepsLifecycle ex ex where
  launch := rfl
  shared := .refl _
  tasks _ _ hv := hv
  fresh t v h h' := by rw [h] at h'; cases h'

/-- **Steps that leave the lifecycle alone compose.** -/
theorem trans {ex₁ ex₂ ex₃ : Exec} (h₁ : KeepsLifecycle ex₁ ex₂) (h₂ : KeepsLifecycle ex₂ ex₃) :
    KeepsLifecycle ex₁ ex₃ where
  launch := h₂.launch.trans h₁.launch
  shared := h₁.shared.trans h₂.shared
  tasks t v hv := h₂.tasks t v (h₁.tasks t v hv)
  fresh t v hnone hv := by
    cases hmid : ex₂.look t with
    | none =>
      obtain ⟨j, rfl⟩ := h₂.fresh t v hmid hv
      exact ⟨j, by rw [h₁.launch]⟩
    | some v₂ =>
      obtain ⟨j, rfl⟩ := h₁.fresh t v₂ hnone hmid
      rw [h₂.tasks t _ hmid] at hv
      cases hv
      exact ⟨j, rfl⟩

/-- **A run of such steps is one such step.** -/
theorem of_reach {ex ex' : Exec} (h : Relation.ReflTransGen KeepsLifecycle ex ex') :
    KeepsLifecycle ex ex' := by
  induction h with
  | refl => exact refl ex
  | tail _ hstep ih => exact ih.trans hstep

/-- A change of the shared deployment that leaves the lifecycle alone. -/
theorem write (ex : Exec) (f : Deployment → Deployment) (hf : ex.shared.KeepsLife (f ex.shared)) :
    KeepsLifecycle ex { ex with shared := f ex.shared } where
  launch := rfl
  shared := hf
  tasks _ _ hv := hv
  fresh t v h h' := by
    change ex.look t = some v at h'
    rw [h] at h'
    cases h'

/-- **Housekeeping leaves the lifecycle alone.** -/
theorem of_quiet {ex ex' : Exec} (h : Quiet ex ex') : KeepsLifecycle ex ex' := by
  have hseen : ex'.seen = ex.seen := h
  have hlook : ex'.look = ex.look := congrArg Seen.look hseen
  have hshared : ex'.shared = ex.shared := congrArg Seen.shared hseen
  exact {
    launch := congrArg Seen.launch hseen
    shared := hshared ▸ .refl _
    tasks := fun t v hv => by rw [hlook]; exact hv
    fresh := fun t v h h' => by rw [hlook, h] at h'; cases h' }

/-- A timer takes a fresh number. -/
theorem addTimer (ex : Exec) (d me : Nat) : KeepsLifecycle ex (ex.addTimer d me).1 where
  launch := rfl
  shared := .refl _
  tasks _ _ hv := hv
  fresh t v h h' := by
    change ex.look t = some v at h'
    rw [h] at h'
    cases h'

/-- **A spawned task** is a new task running its job. -/
theorem spawnTask (ex : Exec) (job : Job) : KeepsLifecycle ex (ex.spawnTask job).1 where
  launch := rfl
  shared := .refl _
  tasks t v hv := by
    rw [look_spawnTask]
    split
    · rename_i ht
      -- The slot a new task takes was empty.
      have hnone : ex.look t = none := by
        unfold look task?
        simp [ht.1]
      rw [hnone] at hv
      cases hv
    · exact hv
  fresh t v h h' := by
    rw [look_spawnTask] at h'
    split at h'
    · cases h'
      exact ⟨job, rfl⟩
    · rw [h] at h'
      cases h'

/-! ## What the frame admits -/

/-- **Routine work leaves the lifecycle alone.** -/
theorem routine (me : Nat) : Routine KeepsLifecycle me where
  stay := refl
  timer ex d := addTimer ex d me
  defer ex := of_quiet (defer_quiet ex me)
  wake ex := of_quiet (wake_quiet ex me)
  chore ex f hf := write ex f (hf.keepsLife ex.shared)
  spawned ex task label channel chatId := by
    rw [AgentRun.poll_spawnSubagent]
    exact (write ex (fun d => (AgentRun.register task label channel chatId d).1)
      (.of_eq rfl rfl rfl rfl rfl rfl)).trans (spawnTask _ _)
  published ex e := by
    rw [Delivery.poll_publish]
    split
    · exact refl ex
    · exact (write ex (fun d => { d with nextDispatch := d.nextDispatch + 1 })
        (.of_eq rfl rfl rfl rfl rfl rfl)).trans (spawnTask _ _)

/-- **The dispatcher leaves the lifecycle alone.** -/
theorem dispatching (me : Nat) : Dispatching KeepsLifecycle me where
  toRoutine := routine me
  spawnHandler ex _ _ := spawnTask ex _
  record ex _ _ := write ex _ (.of_eq rfl rfl rfl rfl rfl rfl)

/-- **The chat locks leave the lifecycle alone.** -/
theorem locking (me : Nat) : Locking KeepsLifecycle me where
  toRoutine := routine me
  acquire ex set key := write ex (fun d => (Handlers.acquire set key d).1) (by
    show ex.shared.KeepsLife (Handlers.acquire set key ex.shared).1
    unfold Handlers.acquire
    split <;> exact .of_eq rfl rfl rfl rfl rfl rfl)
  lock ex m := by
    obtain ⟨hlook, hlaunch, hshared⟩ := lockAttempt_keeps ex me m
    exact {
      launch := hlaunch
      shared := hshared ▸ .refl _
      tasks := fun t v hv => by rw [hlook]; exact hv
      fresh := fun t v h h' => by rw [hlook, h] at h'; cases h' }
  unlock ex m := by
    obtain ⟨hlook, hlaunch, hshared, -⟩ := release_keeps ex m
    exact {
      launch := hlaunch
      shared := hshared ▸ .refl _
      tasks := fun t v hv => by rw [hlook]; exact hv
      fresh := fun t v h h' => by rw [hlook, h] at h'; cases h' }
  release ex set key := write ex (Handlers.release set key) (by
    show ex.shared.KeepsLife (Handlers.release set key ex.shared)
    simp only [Handlers.release]
    split <;> exact .of_eq rfl rfl rfl rfl rfl rfl)

end KeepsLifecycle

/-- **Every task but a background start or stop of the gateway leaves its lifecycle alone.** -/
theorem KeepsLifecycle.job_within (me : Nat) (j : Job) (hstart : j ≠ .gatewayStart)
    (hstop : j ≠ .gatewayStop) : Program.Within KeepsLifecycle me true (Job.program j) := by
  cases j with
  | dispatch n handlers e =>
    exact Delivery.dispatch_within (KeepsLifecycle.dispatching me) n handlers e
  | handle h e => exact Handlers.run_within (KeepsLifecycle.locking me) h e
  | subagent id =>
    exact Subagents.run_within (KeepsLifecycle.routine me) id fun ex r =>
      KeepsLifecycle.write ex (fun d => (Subagents.settle id r d).1) (by
        show ex.shared.KeepsLife (Subagents.settle id r ex.shared).1
        rw [Subagents.settle_fst]
        exact .of_eq rfl rfl rfl rfl rfl rfl)
  | heartbeat => exact Heartbeats.run_within (KeepsLifecycle.routine me)
  | gatewayStart => exact absurd rfl hstart
  | gatewayStop => exact absurd rfl hstop

end ChatGateway
