import ChatGateway.Proofs.Lifecycle.Runs

/-! # The gateway's life is safe under every interleaving

Starts and stops of one gateway may be called any number of times, from any task, in any order,
with the cron service's delays and every channel's and service's answers as the deployment
scripts them. Along every run from a gateway never started (`Lifecycle.lifecycle_safety`):

* the deployment keeps the shape of its stage (`Deployment.Shaped`): a stop request is pending only
  while starting, the responder and the router are subscribed exactly while the gateway is up,
  the heartbeat's loop is remembered exactly while it runs, and the cron service and every
  channel were started and stopped as often as the stage counts, so at most once each;
* later configurations come no earlier in the life (`Deployment.LifeAfter`): the stage never
  goes back, so the state runs through a prefix of `stopped`, `starting`, `running`,
  `stopping`, `stopped`, and the subscriptions taken at the start and the heartbeat's loop stay
  the ones they were;
* once a stop was issued while starting or running (`Deployment.StopIssued`), whenever every call
  has returned (`Lifecycle.Settled`) the gateway is down for good (`Deployment.Down`);
* a start on a closed bus, a start of a gateway that is not stopped, and a stop of a gateway
  that is stopped or stopping answer at once and change nothing.

A channel answers a start or a stop after its own delay, while everything else runs. So a stop
may arrive while the start still waits for its channels (`Lifecycle.stop_during_channel_start`):
it is remembered, and runs only once the start has recorded its channels' answers.
-/

namespace ChatGateway

open Scheduling Scheduling.Executor Deployment

namespace Deployment

/-- **The gateway is down for good:** stopped with its bus closed, and neither the responder nor
the router subscribed. -/
structure Down (d : Deployment) : Prop where
  stopped : d.lifecycle.state = .stopped
  closed : d.bus.closed = true
  adapter : d.adapter.subscription = none
  router : d.channels.router = none

/-- A deployment shaped at the last stage is down for good. -/
theorem Shaped.down {d₀ d : Deployment} (h : Shaped d₀ d) (hs : d.stage = 5) : Down d := by
  obtain ⟨hstopped, hclosed⟩ := stage_eq_five.1 hs
  refine ⟨hstopped, hclosed, ?_, ?_⟩
  · exact Option.not_isSome_iff_eq_none.1 fun ha => by
      have := (h.adapter.1 ha).2
      omega
  · exact Option.not_isSome_iff_eq_none.1 fun hr => by
      have := (h.router.1 hr).2
      omega

end Deployment

namespace Lifecycle

/-! ## Calls that answer at once -/

/-- **A start of a stopped gateway on a closed bus** answers `busClosed` and changes nothing. -/
theorem poll_start_closed {α : Type} (me : Nat) (ex : Exec) (k : Except GatewayError Unit → Act α)
    (hstopped : ex.shared.lifecycle.state = .stopped) (hclosed : ex.shared.bus.closed = true) :
    poll me ex (start.bind k) = poll me ex (k (.error .busClosed)) := by
  have hbegin : beginStart ex.shared = (ex.shared, some (.error .busClosed)) := by
    unfold beginStart
    simp [hstopped, hclosed]
  rw [start_eq, Program.bind_assoc, poll_update_bind, hbegin]
  rfl

/-- **A start of a gateway that is not stopped** answers at once and changes nothing. -/
theorem poll_start_busy {α : Type} (me : Nat) (ex : Exec) (k : Except GatewayError Unit → Act α)
    (hstate : ex.shared.lifecycle.state ≠ .stopped) :
    poll me ex (start.bind k) = poll me ex (k (.ok ())) := by
  have hbegin : beginStart ex.shared = (ex.shared, some (.ok ())) := by
    unfold beginStart
    simp [hstate]
  rw [start_eq, Program.bind_assoc, poll_update_bind, hbegin]
  rfl

/-- **A stop of a gateway that is stopped or stopping** changes nothing. -/
theorem poll_stop_idle {α : Type} (me : Nat) (ex : Exec) (k : Unit → Act α)
    (hstate : ex.shared.lifecycle.state = .stopped ∨ ex.shared.lifecycle.state = .stopping) :
    poll me ex (stop.bind k) = poll me ex (k ()) := by
  rw [poll_stop_bind]
  rcases hstate with hs | hs <;> rw [hs]

/-! ## A gateway at rest -/

/-- **Every call of the gateway has returned:** no task still running is suspended inside a start
or a stop. -/
def Settled (ex : Exec) : Prop :=
  ∀ u v, ex.look u = some v → v.done = false → ¬ Suspended u v.program

variable {d₀ : Deployment} {φ : Nat → Part} {ex : Exec}

/-- **A task that waits in its part** is there, live, and suspended in its call. -/
theorem LifeBut.suspended (h : LifeBut d₀ ex.seen φ 0) {u : Nat} (hu : (φ u).waitsAt.isSome) :
    ∃ v, ex.look u = some v ∧ v.done = false ∧ Suspended u v.program := by
  obtain ⟨v, hv⟩ := Option.ne_none_iff_exists'.mp (h.placed u hu)
  have hu0 : u ≠ 0 := by
    rintro rfl
    change ex.look 0 = some v at hv
    rw [look_zero] at hv
    cases hv
  have hsound := h.sound u v hu0 hv
  exact ⟨v, hv, (hsound.live hu).1, hsound.suspended hu⟩

/-- **Once every call has returned** no call waits: each of the stages where one does has its
call suspended. -/
theorem LifeBut.settled_stage (h : LifeBut d₀ ex.seen φ 0) (hset : Settled ex) :
    ¬ Waiting ex.shared.stage := by
  intro hw
  obtain ⟨u, hu⟩ := h.waiter hw
  obtain ⟨v, hv, hd, hsus⟩ := h.suspended (by rw [hu]; rfl)
  exact hset u v hv hd hsus

/-- **A stop issued, once every call has returned,** has brought the gateway down for good. -/
theorem LifeBut.down (h : LifeBut d₀ ex.seen φ 0) (hset : Settled ex) (hi : ex.shared.StopIssued) :
    Down ex.shared := by
  have hnot := h.settled_stage hset
  unfold Waiting at hnot
  have h5 : ex.shared.stage = 5 := by
    have := stage_le_five ex.shared
    rcases hi with hi | ⟨hi, -⟩ <;> omega
  exact h.shaped.down h5

/-! ## The safety of the gateway's life -/

/-- **The gateway's life is safe under every interleaving.** From a gateway never started, with a
main program that leaves the lifecycle alone and any tasks calling starts and stops, every
configuration `c₂` reached after a configuration `c₁` of the run keeps the shape of its stage,
comes no earlier in the life than `c₁`, and is down for good once every call has returned if a
stop was issued by `c₁`; and starts and stops that find nothing to do answer at once and change
nothing. -/
theorem lifecycle_safety {α : Type} (hfresh : Fresh d₀) {main : Act α}
    (hmain : Program.Within KeepsLifecycle 0 true main) :
    (∀ c₁ c₂ : Exec × Act α, Reaches (Executor.start Job.program d₀, main) c₁ → Reaches c₁ c₂ →
      Shaped d₀ c₂.1.shared ∧ LifeAfter c₁.1.shared c₂.1.shared ∧
        (c₁.1.shared.StopIssued → Settled c₂.1 → Down c₂.1.shared)) ∧
    (∀ (me : Nat) (ex : Exec) (k : Except GatewayError Unit → Act α),
      ex.shared.lifecycle.state = .stopped → ex.shared.bus.closed = true →
        poll me ex (start.bind k) = poll me ex (k (.error .busClosed))) ∧
    (∀ (me : Nat) (ex : Exec) (k : Except GatewayError Unit → Act α),
      ex.shared.lifecycle.state ≠ .stopped → poll me ex (start.bind k) = poll me ex (k (.ok ()))) ∧
    (∀ (me : Nat) (ex : Exec) (k : Unit → Act α),
      ex.shared.lifecycle.state = .stopped ∨ ex.shared.lifecycle.state = .stopping →
        poll me ex (stop.bind k) = poll me ex (k ())) := by
  refine ⟨fun c₁ c₂ h₁ h₂ => ?_, poll_start_closed, poll_start_busy, poll_stop_idle⟩
  obtain ⟨hi₁, -⟩ := (inv_start hfresh hmain).reaches h₁
  obtain ⟨⟨⟨φ, hb⟩, -⟩, hlife⟩ := hi₁.reaches h₂
  exact ⟨hb.shaped, hlife, fun hi hset => hb.down hset (hlife.stopIssued hi)⟩

/-! ## A stop while a channel is starting -/

/-- A deployment whose one channel answers a start after five milliseconds. -/
def slowChannel : Deployment :=
  { channels := { entries := [{ channel := { name := "slack", startDelayMs := 5 } }] } }

/-- **A start and a stop of the gateway side by side:** each runs as a task of its own, and the
main program waits for both. -/
def startBesideStop : Act Unit := do
  let starter ← Program.fork .gatewayStart
  let stopper ← Program.fork .gatewayStop
  let _ ← Program.await starter
  let _ ← Program.await stopper
  pure ()

/-- The main program only starts tasks and waits for them. -/
theorem startBesideStop_within : Program.Within KeepsLifecycle 0 true startBesideStop := by
  unfold startBesideStop
  simp only [Program.bind_def, Program.pure_def]
  exact .spawn _ _ (KeepsLifecycle.spawnTask · _) fun _ =>
    .spawn _ _ (KeepsLifecycle.spawnTask · _) fun _ => .join _ _ fun _ => .join _ _ fun _ => .pure _

/-- **A stop that arrives while the channel is still starting.** A start and a stop run side by
side on a deployment whose channel answers a start after five milliseconds. After the executor's
first round the start waits for the channel, which is `starting`, and the stop is already
issued. From there every configuration of the run keeps the shape of its stage, comes no earlier
in the life, and is down for good once every call has returned; and the executor's own run to the
end leaves the gateway down for good. -/
theorem stop_during_channel_start :
    Fresh slowChannel ∧ Program.Within KeepsLifecycle 0 true startBesideStop ∧
      (∃ c₁ : Exec × Act Unit, Reaches (Executor.start Job.program slowChannel, startBesideStop) c₁ ∧
        c₁.1.shared.StopIssued ∧ c₁.1.shared.channelView.map (·.1) = [.starting] ∧
        ∀ c₂, Reaches c₁ c₂ → Shaped slowChannel c₂.1.shared ∧ LifeAfter c₁.1.shared c₂.1.shared ∧
          (Settled c₂.1 → Down c₂.1.shared)) ∧
      Down (blockOn roundLimit (Executor.start Job.program slowChannel) startBesideStop).1.shared := by
  have hfresh : Fresh slowChannel := ⟨rfl, rfl, rfl, rfl, rfl, rfl, List.nodup_singleton _⟩
  have hsafe := (lifecycle_safety hfresh startBesideStop_within).1
  obtain ⟨main₁, hr₁⟩ := blockOn_reaches 1 (Executor.start Job.program slowChannel) startBesideStop
  -- The executor's first round: the start waits on the channel, and the stop is remembered.
  have hissued : (blockOn 1 (Executor.start Job.program slowChannel) startBesideStop).1.shared.StopIssued :=
    Or.inr ⟨by decide, by decide⟩
  have hstarting : (blockOn 1 (Executor.start Job.program slowChannel)
      startBesideStop).1.shared.channelView.map (·.1) = [.starting] := by decide
  refine ⟨hfresh, startBesideStop_within, ⟨_, hr₁, hissued, hstarting, fun c₂ hr₂ => ?_⟩,
    ⟨by decide, by decide, by decide, by decide⟩⟩
  obtain ⟨hshaped, hlife, hdown⟩ := hsafe _ c₂ hr₁ hr₂
  exact ⟨hshaped, hlife, hdown hissued⟩

end Lifecycle

end ChatGateway
