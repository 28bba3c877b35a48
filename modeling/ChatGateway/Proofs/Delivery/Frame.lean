import ChatGateway.Proofs.Delivery.Steps
import ChatGateway.Proofs.ChatLocks.Table
import ChatGateway.Proofs.Scheduling.Ended

/-! # Work that leaves the deliveries alone

Only a dispatcher records handler tasks, and only a publish starts a dispatcher. `KeepsDeliveries`
is the frame of every other step of the gateway: the recorded tasks of every dispatch stay, every
task keeps its program and whether it ended and is cancelled only if it is the heartbeat's timer
loop, and a step either keeps the next dispatch number and starts tasks of other jobs only, or is
a publish, which takes the next number and starts that number's dispatcher as its one new task.
A dispatcher is treated by hand, from its program; every other task stays within this frame.

* `Chore.deliveryView`: no routine write touches the dispatches or the remembered heartbeat task.
* `KeepsDeliveries.routine`, `.locking`, `.operating`: the frame admits routine work, the chat
  locks and the lifecycle's work, a publish included.
* `KeepsDeliveries.job_within`: so every task but a dispatcher stays within it.
-/

namespace ChatGateway

open Scheduling Scheduling.Executor

/-- **What the deliveries depend on in the deployment:** the recorded tasks of each dispatch,
the next dispatch number and the remembered heartbeat task. -/
def Deployment.deliveryView (d : Deployment) : List (Nat × List Nat) × Nat × Option Nat :=
  (d.dispatches, d.nextDispatch, d.heartbeatTask)

@[simp] theorem Deployment.observe_deliveryView (d : Deployment) (i : Incident) :
    (d.observe i).deliveryView = d.deliveryView := by
  unfold observe
  split <;> rfl

@[simp] theorem Deployment.foldl_observe_deliveryView (d : Deployment) (is : List Incident) :
    (is.foldl Deployment.observe d).deliveryView = d.deliveryView := by
  induction is generalizing d with
  | nil => rfl
  | cons i is ih => rw [List.foldl_cons, ih, observe_deliveryView]

/-- **No routine write touches the dispatches** or the remembered heartbeat task. -/
theorem Chore.deliveryView {f : Deployment → Deployment} (hf : Chore f) (d : Deployment) :
    (f d).deliveryView = d.deliveryView := by
  cases hf with
  | observe g => exact Deployment.observe_deliveryView d (g d)
  | logEvent entry => rfl
  | see m => rfl
  | logCall messages schemas => rfl
  | route m =>
    unfold Handlers.route
    split
    · exact Deployment.observe_deliveryView d _
    · split
      dsimp only
      split
      · rfl
      · exact Deployment.observe_deliveryView _ _
  | report h e r _ =>
    unfold Handlers.report
    split
    · rfl
    · exact Deployment.observe_deliveryView _ _
    · exact Deployment.observe_deliveryView _ _

/-! ## The frame -/

/-- **A step that leaves the deliveries alone.** The launcher and the recorded tasks of every
dispatch stay; every task keeps its program and whether it ended, and is cancelled only if it is
the remembered heartbeat task, and the ended tasks keep their records (`KeepsEnded`). Either the next dispatch number stays and new tasks run jobs that
are not dispatchers, or the step takes the next number and its one new task, in the first slot
past the others, is that number's dispatcher. The remembered heartbeat task stays, is forgotten,
or is new in a step that starts no dispatcher (or the main program's slot, where no task ever
is). -/
structure KeepsDeliveries (ex ex' : Exec) : Prop where
  launch : ex'.launch = ex.launch
  ended : KeepsEnded ex ex'
  dispatches : ex'.shared.dispatches = ex.shared.dispatches
  tasks : ∀ t v, ex.look t = some v → ∃ c, ex'.look t = some { v with cancelled := c } ∧
    (c = true → v.cancelled = true ∨ ex.shared.heartbeatTask = some t)
  fresh : ex'.shared.nextDispatch = ex.shared.nextDispatch → ∀ t v, ex.look t = none →
    ex'.look t = some v → ∃ j c, v = ⟨ex.launch j, false, c⟩ ∧ ∀ n hs e, j ≠ .dispatch n hs e
  opened : ex'.shared.nextDispatch = ex.shared.nextDispatch ∨
    (ex'.shared.nextDispatch = ex.shared.nextDispatch + 1 ∧ ∃ hs e,
      (ex.tasks.size ≠ 0 → ex'.look ex.tasks.size =
        some ⟨ex.launch (.dispatch ex.shared.nextDispatch hs e), false, false⟩) ∧
      ∀ t v, ex.look t = none → ex'.look t = some v → t = ex.tasks.size)
  heartbeat : ex'.shared.heartbeatTask = ex.shared.heartbeatTask ∨
    ex'.shared.heartbeatTask = none ∨
    ∃ t, ex'.shared.heartbeatTask = some t ∧ ex.look t = none ∧ (t = 0 ∨ ex'.look t ≠ none) ∧
      ex'.shared.nextDispatch = ex.shared.nextDispatch

namespace KeepsDeliveries

/-- A step the tasks, the launcher and the deployment do not see. -/
theorem of_same {ex ex' : Exec} (hlook : ex'.look = ex.look) (hlaunch : ex'.launch = ex.launch)
    (hshared : ex'.shared = ex.shared) (hended : KeepsEnded ex ex') : KeepsDeliveries ex ex' where
  launch := hlaunch
  ended := hended
  dispatches := by rw [hshared]
  tasks t v hv := ⟨v.cancelled, by rw [hlook]; exact hv, fun hc => .inl hc⟩
  fresh _ t v h h' := by rw [hlook, h] at h'; cases h'
  opened := .inl (by rw [hshared])
  heartbeat := .inl (by rw [hshared])

theorem refl (ex : Exec) : KeepsDeliveries ex ex := of_same rfl rfl rfl (.refl ex)

/-- A change of the shared deployment that keeps the deliveries' view. -/
theorem write (ex : Exec) (f : Deployment → Deployment)
    (hf : (f ex.shared).deliveryView = ex.shared.deliveryView) :
    KeepsDeliveries ex { ex with shared := f ex.shared } where
  launch := rfl
  ended := .of_tasks rfl
  dispatches := congrArg Prod.fst hf
  tasks t v hv := ⟨v.cancelled, hv, fun hc => .inl hc⟩
  fresh _ t v h h' := by
    change ex.look t = some v at h'
    rw [h] at h'
    cases h'
  opened := .inl (congrArg (fun v => v.2.1) hf)
  heartbeat := .inl (congrArg (fun v => v.2.2) hf)

/-- **A change of the shared deployment that keeps the deliveries' view, and then a step** that
leaves them alone from there, leave them alone. -/
theorem write_then (ex : Exec) {f : Deployment → Deployment}
    (hf : (f ex.shared).deliveryView = ex.shared.deliveryView) {ex' : Exec}
    (h : KeepsDeliveries { ex with shared := f ex.shared } ex') : KeepsDeliveries ex ex' where
  launch := h.launch
  ended := .of_tasks_left h.ended rfl
  dispatches := h.dispatches.trans (congrArg Prod.fst hf)
  tasks t v hv := by
    obtain ⟨c, hv', hc⟩ := h.tasks t v hv
    have hhb₀ : (f ex.shared).heartbeatTask = ex.shared.heartbeatTask := congrArg (fun v => v.2.2) hf
    refine ⟨c, hv', fun hct => (hc hct).imp_right fun hhb => ?_⟩
    rw [← hhb₀]
    exact hhb
  fresh hnext := h.fresh (hnext.trans (congrArg (fun v => v.2.1) hf).symm)
  opened := by
    have hn : (f ex.shared).nextDispatch = ex.shared.nextDispatch := congrArg (fun v => v.2.1) hf
    rcases h.opened with hsame | ⟨hnext, rest⟩
    · exact .inl (hsame.trans hn)
    · exact .inr ⟨hnext.trans (by rw [hn]), by rw [← hn]; exact rest⟩
  heartbeat := by
    have hn : (f ex.shared).nextDispatch = ex.shared.nextDispatch := congrArg (fun v => v.2.1) hf
    have hhb : (f ex.shared).heartbeatTask = ex.shared.heartbeatTask := congrArg (fun v => v.2.2) hf
    rcases h.heartbeat with hsame | hnone | ⟨t, hnew, hfresh, hslot, hnext⟩
    · exact .inl (hsame.trans hhb)
    · exact .inr (.inl hnone)
    · exact .inr (.inr ⟨t, hnew, hfresh, hslot, hnext.trans hn⟩)

/-- A timer takes a fresh number. -/
theorem addTimer (ex : Exec) (d me : Nat) : KeepsDeliveries ex (ex.addTimer d me).1 :=
  of_same rfl rfl rfl (.of_tasks rfl)

/-- The slot a new task takes was empty. -/
theorem look_size (ex : Exec) : ex.look ex.tasks.size = none := by
  unfold look task?
  simp

/-- **A spawned task that is not a dispatcher** is a new task running its job. -/
theorem spawnTask (ex : Exec) (job : Job) (hj : ∀ n hs e, job ≠ .dispatch n hs e) :
    KeepsDeliveries ex (ex.spawnTask job).1 where
  launch := rfl
  ended := .spawnTask ex job
  dispatches := rfl
  tasks t v hv := by
    refine ⟨v.cancelled, ?_, fun hc => .inl hc⟩
    rw [look_spawnTask]
    split
    · rename_i ht
      rw [ht.1, look_size] at hv
      cases hv
    · exact hv
  fresh _ t v h h' := by
    rw [look_spawnTask] at h'
    split at h'
    · cases h'
      exact ⟨job, false, rfl, hj⟩
    · rw [h] at h'
      cases h'
  opened := .inl rfl
  heartbeat := .inl rfl

/-- **A publish on an open bus** takes the next dispatch number and starts its dispatcher. -/
theorem published (ex : Exec) (e : BusEvent) : KeepsDeliveries ex (Delivery.published ex e) where
  launch := rfl
  ended := KeepsEnded.of_tasks_left (.spawnTask _ _) rfl
  dispatches := rfl
  tasks t v hv := by
    refine ⟨v.cancelled, ?_, fun hc => .inl hc⟩
    unfold Delivery.published
    rw [look_spawnTask]
    split
    · rename_i ht
      rw [ht.1, look_size] at hv
      cases hv
    · exact hv
  fresh hnext := by
    change ex.shared.nextDispatch + 1 = ex.shared.nextDispatch at hnext
    omega
  opened := by
    refine .inr ⟨rfl, ex.shared.bus.handlersOf e.topic, e, fun hsize => ?_, fun t v h h' => ?_⟩
    · unfold Delivery.published
      rw [look_spawnTask, if_pos ⟨rfl, hsize⟩]
    · unfold Delivery.published at h'
      rw [look_spawnTask] at h'
      split at h'
      · rename_i ht
        exact ht.1
      · change ex.look t = some v at h'
        rw [h] at h'
        cases h'
  heartbeat := .inl rfl

/-- **The heartbeat's timer loop is started** as a new task, which the deployment remembers. -/
theorem started (ex : Exec) : KeepsDeliveries ex (Heartbeats.started ex) where
  launch := rfl
  ended := (KeepsEnded.spawnTask ex .heartbeat).trans (.of_tasks rfl)
  dispatches := rfl
  tasks := (spawnTask ex .heartbeat fun _ _ _ h => by cases h).tasks
  fresh := (spawnTask ex .heartbeat fun _ _ _ h => by cases h).fresh
  opened := .inl rfl
  heartbeat := by
    cases hh : ex.shared.heartbeat with
    | none =>
      refine .inr (.inl ?_)
      change (Option.map _ ex.shared.heartbeat).bind _ = none
      rw [hh]
      rfl
    | some h =>
      -- The new task takes the first slot past the others, which was empty.
      refine .inr (.inr ⟨ex.tasks.size, ?_, look_size ex, ?_, rfl⟩)
      · change (Option.map _ ex.shared.heartbeat).bind _ = some ex.tasks.size
        rw [hh]
        rfl
      · by_cases hzero : ex.tasks.size = 0
        · exact .inl hzero
        · refine .inr ?_
          change (ex.spawnTask .heartbeat).1.look ex.tasks.size ≠ none
          rw [look_spawnTask, if_pos ⟨rfl, hzero⟩]
          exact Option.some_ne_none _

/-- **The heartbeat's timer loop is stopped:** the deployment forgets it and it is cancelled. -/
theorem stopped (ex : Exec) : KeepsDeliveries ex (Heartbeats.stopped ex) := by
  have hforget : (Heartbeats.forgotten ex).shared.heartbeatTask = none := by
    change (Option.map _ ex.shared.heartbeat).bind _ = none
    cases ex.shared.heartbeat <;> rfl
  unfold Heartbeats.stopped
  split
  · rename_i t ht
    -- The deployment forgets the loop, then the loop is cancelled.
    have hseen := abortTask_seen_eq (Heartbeats.forgotten ex) t
    have hlook (u : Nat) := look_abortTask (Heartbeats.forgotten ex) t u
    have hshared : (abortTask (Heartbeats.forgotten ex) t).shared = (Heartbeats.forgotten ex).shared :=
      congrArg Seen.shared hseen
    exact {
      launch := congrArg Seen.launch hseen
      ended := KeepsEnded.of_tasks_left (KeepsEnded.abortTask (Heartbeats.forgotten ex) t) rfl
      dispatches := by rw [hshared]; rfl
      tasks := fun u v hv => by
        rw [hlook]
        split
        · rename_i hu
          refine ⟨true, ?_, fun _ => .inr (by rw [hu.1]; exact ht)⟩
          change (ex.look u).map _ = _
          rw [hv]
          rfl
        · exact ⟨v.cancelled, hv, fun hc => .inl hc⟩
      fresh := fun _ u v h h' => by
        rw [hlook] at h'
        change (if u = t ∧ (ex.outcome? t).isNone then (ex.look u).map _ else ex.look u) = _ at h'
        rw [h] at h'
        split at h' <;> cases h'
      opened := .inl (by rw [hshared]; rfl)
      heartbeat := .inr (.inl (by rw [hshared]; exact hforget)) }
  · rename_i ht
    refine write ex (fun d => { d with heartbeat := d.heartbeat.map fun h => { h with task := none } })
      ?_
    change (_, _, (Heartbeats.forgotten ex).shared.heartbeatTask) = (_, _, _)
    rw [hforget]
    exact congrArg _ (congrArg _ ht.symm)

/-- A synchronous change of the deployment that keeps the deliveries' view. -/
theorem modify_step (me : Nat) (ex : Exec) {f : Deployment → Deployment}
    (hf : ∀ d, (f d).deliveryView = d.deliveryView) :
    KeepsDeliveries ex (poll me ex (Scheduling.Program.modify f)).1 :=
  write ex f (hf ex.shared)

/-- A synchronous update of the deployment that keeps the deliveries' view. -/
theorem update_step {β : Type} (me : Nat) (ex : Exec) {f : Deployment → Deployment × β}
    (hf : ∀ d, (f d).1.deliveryView = d.deliveryView) :
    KeepsDeliveries ex (poll me ex (Scheduling.Program.update f)).1 :=
  write ex (fun d => (f d).1) (hf ex.shared)

/-! ## What the frame admits -/

/-- **Routine work leaves the deliveries alone;** a publish starts its own dispatcher. -/
theorem routine (me : Nat) : Routine KeepsDeliveries me where
  stay := refl
  timer ex d := addTimer ex d me
  defer ex := of_same rfl rfl rfl (.of_tasks rfl)
  wake ex :=
    have h : (ex.wake me).seen = ex.seen := wake_quiet ex me
    of_same (congrArg Seen.look h) (congrArg Seen.launch h) (congrArg Seen.shared h) (.wake ex me)
  chore ex f hf := write ex f (hf.deliveryView ex.shared)
  spawned ex task label channel chatId := by
    rw [AgentRun.poll_spawnSubagent]
    exact write_then ex (f := fun d => (AgentRun.register task label channel chatId d).1) rfl
      (spawnTask _ _ fun _ _ _ h => by cases h)
  published ex e := by
    rw [Delivery.poll_publish]
    split
    · exact refl ex
    · exact published ex e

/-- **The chat locks leave the deliveries alone.** -/
theorem locking (me : Nat) : Locking KeepsDeliveries me where
  toRoutine := routine me
  acquire ex set key := write ex (fun d => (Handlers.acquire set key d).1) (by
    show (Handlers.acquire set key ex.shared).1.deliveryView = _
    unfold Handlers.acquire
    split <;> rfl)
  lock ex m := by
    obtain ⟨hlook, hlaunch, hshared⟩ := lockAttempt_keeps ex me m
    exact of_same hlook hlaunch hshared (.of_tasks (lockAttempt_tasks ex me m))
  unlock ex m := by
    obtain ⟨hlook, hlaunch, hshared, -⟩ := release_keeps ex m
    exact of_same hlook hlaunch hshared (.release ex m)
  release ex set key := write ex (Handlers.release set key) (by
    show (Handlers.release set key ex.shared).deliveryView = _
    simp only [Handlers.release]
    split <;> rfl)

/-- **Starting and stopping the gateway leave the deliveries alone.** -/
theorem operating (me : Nat) : Operating KeepsDeliveries me where
  toRoutine := routine me
  beginStart ex := write ex (fun d => (Lifecycle.beginStart d).1) (by
    unfold Lifecycle.beginStart
    split
    · rfl
    · split <;> rfl)
  finishStart ex := write ex (fun d => (Lifecycle.finishStart d).1) rfl
  requestStop ex := write ex (fun d => (Lifecycle.requestStop d).1) (by
    unfold Lifecycle.requestStop
    split <;> rfl)
  shutDown ex := write ex Lifecycle.shutDown rfl
  adapterUp ex := modify_step me ex fun d => by
    split
    · rfl
    · rfl
  adapterDown ex := modify_step me ex fun d => by
    split <;> rfl
  routerUp ex := modify_step me ex fun d => by
    split <;> rfl
  routerDown ex := modify_step me ex fun d => by
    split <;> rfl
  channelsCalled ex target status f delay :=
    write ex (fun d => (Lifecycle.channelsCalled target status f delay d).1) rfl
  channelsSettled ex ok incident answers :=
    write ex (fun d => (Lifecycle.channelsSettled ok incident answers d).1) (by
    unfold Lifecycle.channelsSettled
    simp only [Deployment.foldl_observe_deliveryView]
    rfl)
  cronStart ex := write ex (fun d => (Lifecycle.countCronStart d).1) rfl
  cronStop ex := write ex (fun d => (Lifecycle.countCronStop d).1) rfl
  heartbeatStart ex := by
    rw [Heartbeats.poll_start]
    split
    · exact refl ex
    · split
      · exact refl ex
      · exact started ex
  heartbeatStop ex := by
    rw [Heartbeats.poll_stop]
    exact stopped ex
  keepStart ex r := write ex (Deployment.keepStart r) rfl

end KeepsDeliveries

/-- **Every task but a dispatcher leaves the deliveries alone.** -/
theorem KeepsDeliveries.job_within (me : Nat) (j : Job) (hj : ∀ n hs e, j ≠ .dispatch n hs e) :
    Program.Within KeepsDeliveries me true (Job.program j) := by
  cases j with
  | dispatch n handlers e => exact absurd rfl (hj n handlers e)
  | handle h e => exact Handlers.run_within (KeepsDeliveries.locking me) h e
  | subagent id =>
    exact Subagents.run_within (KeepsDeliveries.routine me) id fun ex r =>
      KeepsDeliveries.write ex (fun d => (Subagents.settle id r d).1) (by
        show (Subagents.settle id r ex.shared).1.deliveryView = _
        rw [Subagents.settle_fst]
        rfl)
  | heartbeat => exact Heartbeats.run_within (KeepsDeliveries.routine me)
  | gatewayStart => exact Job.gatewayStart_within (KeepsDeliveries.operating me)
  | gatewayStop => exact Lifecycle.stop_within (KeepsDeliveries.operating me)

end ChatGateway
