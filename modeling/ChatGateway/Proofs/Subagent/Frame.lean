import ChatGateway.Proofs.Delivery.Frame
import ChatGateway.Proofs.Gateway.Jobs

/-! # Work that leaves the sub-agent workers alone

A sub-agent's record is written by two programs only: the spawn that registers it, and its own
worker, which settles it. `KeepsWorkers` is the frame of every other step of the gateway: the
model stays, every task keeps its program and whether it ended and is cancelled only if it is
the heartbeat's timer loop, and a step either keeps the manager and the counter of task ids and
starts tasks of other jobs only, or is a spawn, which registers the next id and starts that id's
worker as its one new task. A worker is treated by hand, from its program, until it has settled;
every other task stays within this frame.

* `Chore.workerView`: no routine write touches the model, the manager, the counter of task ids or
  the remembered heartbeat task.
* `KeepsWorkers.routine`, `.dispatching`, `.locking`, `.operating`: the frame admits routine work,
  a spawn included, the dispatcher's, the chat locks' and the lifecycle's.
* `KeepsWorkers.job_within`: so every task but a worker stays within it.
-/

namespace ChatGateway

open Scheduling Scheduling.Executor

/-- **What the workers depend on in the deployment:** the model, the sub-agent manager with its
table, the counter of task ids and the remembered heartbeat task. -/
def Deployment.workerView (d : Deployment) :
    ProviderScript × Option SubagentManager × Nat × Option Nat :=
  (d.model, d.subagents, d.nextTaskId, d.heartbeatTask)

@[simp] theorem Deployment.observe_workerView (d : Deployment) (i : Incident) :
    (d.observe i).workerView = d.workerView := by
  unfold observe
  split <;> rfl

@[simp] theorem Deployment.foldl_observe_workerView (d : Deployment) (is : List Incident) :
    (is.foldl Deployment.observe d).workerView = d.workerView := by
  induction is generalizing d with
  | nil => rfl
  | cons i is ih => rw [List.foldl_cons, ih, observe_workerView]

/-- **No routine write touches the workers' view.** -/
theorem Chore.workerView {f : Deployment → Deployment} (hf : Chore f) (d : Deployment) :
    (f d).workerView = d.workerView := by
  cases hf with
  | observe g => exact Deployment.observe_workerView d (g d)
  | logEvent entry => rfl
  | see m => rfl
  | logCall messages schemas => rfl
  | route m =>
    unfold Handlers.route
    split
    · exact Deployment.observe_workerView d _
    · split
      dsimp only
      split
      · rfl
      · exact Deployment.observe_workerView _ _
  | report h e r _ =>
    unfold Handlers.report
    split
    · rfl
    · exact Deployment.observe_workerView _ _
    · exact Deployment.observe_workerView _ _

/-! ## The frame -/

/-- **A step that leaves the workers alone.** The launcher and the model stay, no task slot is
dropped, and every task keeps its program and whether it ended, and is cancelled only if it is
the remembered heartbeat task. Either the manager and the counter of task ids stay and new tasks
run jobs that are not workers, or the step registers a task under the next id and its one new
task, in the first slot past the others, is that id's worker. The remembered heartbeat task
stays, is forgotten, or is new in a step that registers nothing (or the main program's slot,
where no task ever is). -/
structure KeepsWorkers (ex ex' : Exec) : Prop where
  launch : ex'.launch = ex.launch
  size : ex.tasks.size ≤ ex'.tasks.size
  model : ex'.shared.model = ex.shared.model
  tasks : ∀ t v, ex.look t = some v → ∃ c, ex'.look t = some { v with cancelled := c } ∧
    (c = true → v.cancelled = true ∨ ex.shared.heartbeatTask = some t)
  fresh : ex'.shared.nextTaskId = ex.shared.nextTaskId → ∀ t v, ex.look t = none →
    ex'.look t = some v → ∃ j c, v = ⟨ex.launch j, false, c⟩ ∧ ∀ id, j ≠ .subagent id
  registered : (ex'.shared.subagents = ex.shared.subagents ∧
      ex'.shared.nextTaskId = ex.shared.nextTaskId) ∨
    ∃ task label channel chatId,
      ex'.shared.subagents = (AgentRun.register task label channel chatId ex.shared).1.subagents ∧
      ex'.shared.nextTaskId = ex.shared.nextTaskId + 1 ∧
      (ex.tasks.size ≠ 0 → ex'.look ex.tasks.size =
        some ⟨ex.launch (.subagent (Deployment.taskId (ex.shared.nextTaskId + 1))), false, false⟩) ∧
      ∀ t v, ex.look t = none → ex'.look t = some v → t = ex.tasks.size
  heartbeat : ex'.shared.heartbeatTask = ex.shared.heartbeatTask ∨
    ex'.shared.heartbeatTask = none ∨
    ∃ t, ex'.shared.heartbeatTask = some t ∧ ex.look t = none ∧ (t = 0 ∨ ex'.look t ≠ none) ∧
      ex'.shared.nextTaskId = ex.shared.nextTaskId

namespace KeepsWorkers

/-- A step the tasks, the launcher and the deployment do not see. -/
theorem of_same {ex ex' : Exec} (hlook : ex'.look = ex.look) (hlaunch : ex'.launch = ex.launch)
    (hshared : ex'.shared = ex.shared) (hsize : ex.tasks.size ≤ ex'.tasks.size) :
    KeepsWorkers ex ex' where
  launch := hlaunch
  size := hsize
  model := by rw [hshared]
  tasks t v hv := ⟨v.cancelled, by rw [hlook]; exact hv, fun hc => .inl hc⟩
  fresh _ t v h h' := by rw [hlook, h] at h'; cases h'
  registered := .inl (by rw [hshared]; exact ⟨rfl, rfl⟩)
  heartbeat := .inl (by rw [hshared])

theorem refl (ex : Exec) : KeepsWorkers ex ex := of_same rfl rfl rfl (Nat.le_refl _)

/-- A change of the shared deployment that keeps the workers' view. -/
theorem write (ex : Exec) (f : Deployment → Deployment)
    (hf : (f ex.shared).workerView = ex.shared.workerView) :
    KeepsWorkers ex { ex with shared := f ex.shared } where
  launch := rfl
  size := Nat.le_refl _
  model := congrArg Prod.fst hf
  tasks t v hv := ⟨v.cancelled, hv, fun hc => .inl hc⟩
  fresh _ t v h h' := by
    change ex.look t = some v at h'
    rw [h] at h'
    cases h'
  registered := .inl ⟨congrArg (fun v => v.2.1) hf, congrArg (fun v => v.2.2.1) hf⟩
  heartbeat := .inl (congrArg (fun v => v.2.2.2) hf)

/-- A timer takes a fresh number. -/
theorem addTimer (ex : Exec) (d me : Nat) : KeepsWorkers ex (ex.addTimer d me).1 :=
  of_same rfl rfl rfl (Nat.le_refl _)

/-- **A spawned task that is not a worker** is a new task running its job. -/
theorem spawnTask (ex : Exec) (job : Job) (hj : ∀ id, job ≠ .subagent id) :
    KeepsWorkers ex (ex.spawnTask job).1 where
  launch := rfl
  size := (KeepsEnded.spawnTask ex job).size
  model := rfl
  tasks t v hv := by
    refine ⟨v.cancelled, ?_, fun hc => .inl hc⟩
    rw [look_spawnTask]
    split
    · rename_i ht
      rw [ht.1, KeepsDeliveries.look_size] at hv
      cases hv
    · exact hv
  fresh _ t v h h' := by
    rw [look_spawnTask] at h'
    split at h'
    · cases h'
      exact ⟨job, false, rfl, hj⟩
    · rw [h] at h'
      cases h'
  registered := .inl ⟨rfl, rfl⟩
  heartbeat := .inl rfl

/-- **A spawn** registers its task under the next id and starts that id's worker. -/
theorem spawned (me : Nat) (ex : Exec) (task : String) (label : Option String)
    (channel chatId : String) :
    KeepsWorkers ex (poll me ex (AgentRun.spawnSubagent task label channel chatId)).1 := by
  rw [AgentRun.poll_spawnSubagent]
  -- The write that registers the task leaves every task where it was.
  have hlook (u : Nat) :
      ({ ex with shared := (AgentRun.register task label channel chatId ex.shared).1 } : Exec).look u =
        ex.look u := rfl
  exact {
    launch := rfl
    size := (KeepsEnded.spawnTask _ _).size
    model := rfl
    tasks := fun t v hv => by
      refine ⟨v.cancelled, ?_, fun hc => .inl hc⟩
      rw [look_spawnTask]
      split
      · rename_i ht
        have hsize : t = ex.tasks.size := ht.1
        rw [hsize, KeepsDeliveries.look_size] at hv
        cases hv
      · rw [hlook]
        exact hv
    fresh := fun hnext => by
      change ex.shared.nextTaskId + 1 = ex.shared.nextTaskId at hnext
      omega
    registered := by
      refine .inr ⟨task, label, channel, chatId, rfl, rfl, fun hsize => ?_, fun t v h h' => ?_⟩
      · rw [look_spawnTask, if_pos ⟨rfl, hsize⟩]
        rfl
      · rw [look_spawnTask] at h'
        split at h'
        · rename_i ht
          exact ht.1
        · rw [hlook, h] at h'
          cases h'
    heartbeat := .inl rfl }

/-- **A publish on an open bus** starts its dispatcher, which is not a worker. -/
theorem published (ex : Exec) (e : BusEvent) : KeepsWorkers ex (Delivery.published ex e) where
  launch := rfl
  size := (KeepsEnded.spawnTask _ _).size
  model := rfl
  tasks t v hv := by
    refine ⟨v.cancelled, ?_, fun hc => .inl hc⟩
    unfold Delivery.published
    rw [look_spawnTask]
    split
    · rename_i ht
      rw [ht.1, KeepsDeliveries.look_size] at hv
      cases hv
    · exact hv
  fresh _ t v h h' := by
    unfold Delivery.published at h'
    rw [look_spawnTask] at h'
    split at h'
    · cases h'
      exact ⟨_, false, rfl, fun _ h => by cases h⟩
    · change ex.look t = some v at h'
      rw [h] at h'
      cases h'
  registered := .inl ⟨rfl, rfl⟩
  heartbeat := .inl rfl

/-- **The heartbeat's timer loop is started** as a new task, which the deployment remembers. -/
theorem started (ex : Exec) : KeepsWorkers ex (Heartbeats.started ex) where
  launch := rfl
  size := (KeepsEnded.spawnTask ex .heartbeat).size
  model := rfl
  tasks := (spawnTask ex .heartbeat fun _ h => by cases h).tasks
  fresh := (spawnTask ex .heartbeat fun _ h => by cases h).fresh
  registered := .inl ⟨rfl, rfl⟩
  heartbeat := by
    cases hh : ex.shared.heartbeat with
    | none =>
      refine .inr (.inl ?_)
      change (Option.map _ ex.shared.heartbeat).bind _ = none
      rw [hh]
      rfl
    | some h =>
      -- The new task takes the first slot past the others, which was empty.
      refine .inr (.inr ⟨ex.tasks.size, ?_, KeepsDeliveries.look_size ex, ?_, rfl⟩)
      · change (Option.map _ ex.shared.heartbeat).bind _ = some ex.tasks.size
        rw [hh]
        rfl
      · by_cases hzero : ex.tasks.size = 0
        · exact .inl hzero
        · refine .inr ?_
          change (ex.spawnTask .heartbeat).1.look ex.tasks.size ≠ none
          rw [look_spawnTask, if_pos ⟨rfl, hzero⟩]
          exact Option.some_ne_none _

/-- **The heartbeat's timer loop is stopped:** the deployment forgets it and it is cancelled. -/
theorem stopped (ex : Exec) : KeepsWorkers ex (Heartbeats.stopped ex) := by
  have hforget : (Heartbeats.forgotten ex).shared.heartbeatTask = none := by
    change (Option.map _ ex.shared.heartbeat).bind _ = none
    cases ex.shared.heartbeat <;> rfl
  unfold Heartbeats.stopped
  split
  · rename_i t ht
    -- The deployment forgets the loop, then the loop is cancelled.
    have hseen := abortTask_seen_eq (Heartbeats.forgotten ex) t
    have hlook (u : Nat) := look_abortTask (Heartbeats.forgotten ex) t u
    have hshared : (abortTask (Heartbeats.forgotten ex) t).shared = (Heartbeats.forgotten ex).shared :=
      congrArg Seen.shared hseen
    exact {
      launch := congrArg Seen.launch hseen
      size := (KeepsEnded.abortTask (Heartbeats.forgotten ex) t).size
      model := by rw [hshared]; rfl
      tasks := fun u v hv => by
        rw [hlook]
        split
        · rename_i hu
          refine ⟨true, ?_, fun _ => .inr (by rw [hu.1]; exact ht)⟩
          change (ex.look u).map _ = _
          rw [hv]
          rfl
        · exact ⟨v.cancelled, hv, fun hc => .inl hc⟩
      fresh := fun _ u v h h' => by
        rw [hlook] at h'
        change (if u = t ∧ (ex.outcome? t).isNone then (ex.look u).map _ else ex.look u) = _ at h'
        rw [h] at h'
        split at h' <;> cases h'
      registered := .inl (by rw [hshared]; exact ⟨rfl, rfl⟩)
      heartbeat := .inr (.inl (by rw [hshared]; exact hforget)) }
  · rename_i ht
    refine write ex (fun d => { d with heartbeat := d.heartbeat.map fun h => { h with task := none } })
      ?_
    change (_, _, _, (Heartbeats.forgotten ex).shared.heartbeatTask) = (_, _, _, _)
    rw [hforget]
    exact congrArg _ (congrArg _ (congrArg _ ht.symm))

/-- A synchronous change of the deployment that keeps the workers' view. -/
theorem modify_step (me : Nat) (ex : Exec) {f : Deployment → Deployment}
    (hf : ∀ d, (f d).workerView = d.workerView) :
    KeepsWorkers ex (poll me ex (Scheduling.Program.modify f)).1 :=
  write ex f (hf ex.shared)

/-- A synchronous update of the deployment that keeps the workers' view. -/
theorem update_step {β : Type} (me : Nat) (ex : Exec) {f : Deployment → Deployment × β}
    (hf : ∀ d, (f d).1.workerView = d.workerView) :
    KeepsWorkers ex (poll me ex (Scheduling.Program.update f)).1 :=
  write ex (fun d => (f d).1) (hf ex.shared)

/-! ## What the frame admits -/

/-- **Routine work leaves the workers alone;** a spawn starts its own worker. -/
theorem routine (me : Nat) : Routine KeepsWorkers me where
  stay := refl
  timer ex d := addTimer ex d me
  defer ex := of_same rfl rfl rfl (Nat.le_refl _)
  wake ex :=
    have h : (ex.wake me).seen = ex.seen := wake_quiet ex me
    of_same (congrArg Seen.look h) (congrArg Seen.launch h) (congrArg Seen.shared h)
      (KeepsEnded.wake ex me).size
  chore ex f hf := write ex f (hf.workerView ex.shared)
  spawned ex task label channel chatId := spawned me ex task label channel chatId
  published ex e := by
    rw [Delivery.poll_publish]
    split
    · exact refl ex
    · exact published ex e

/-- **The dispatcher leaves the workers alone.** -/
theorem dispatching (me : Nat) : Dispatching KeepsWorkers me where
  toRoutine := routine me
  spawnHandler ex _ _ := spawnTask ex _ fun _ h => by cases h
  record ex _ _ := write ex _ rfl

/-- **The chat locks leave the workers alone.** -/
theorem locking (me : Nat) : Locking KeepsWorkers me where
  toRoutine := routine me
  acquire ex set key := write ex (fun d => (Handlers.acquire set key d).1) (by
    show (Handlers.acquire set key ex.shared).1.workerView = _
    unfold Handlers.acquire
    split <;> rfl)
  lock ex m := by
    obtain ⟨hlook, hlaunch, hshared⟩ := lockAttempt_keeps ex me m
    exact of_same hlook hlaunch hshared (Nat.le_of_eq (by rw [lockAttempt_tasks]))
  unlock ex m := by
    obtain ⟨hlook, hlaunch, hshared, -⟩ := release_keeps ex m
    exact of_same hlook hlaunch hshared (KeepsEnded.release ex m).size
  release ex set key := write ex (Handlers.release set key) (by
    show (Handlers.release set key ex.shared).workerView = _
    simp only [Handlers.release]
    split <;> rfl)

/-- **Starting and stopping the gateway leave the workers alone.** -/
theorem operating (me : Nat) : Operating KeepsWorkers me where
  toRoutine := routine me
  beginStart ex := write ex (fun d => (Lifecycle.beginStart d).1) (by
    unfold Lifecycle.beginStart
    split
    · rfl
    · split <;> rfl)
  finishStart ex := write ex (fun d => (Lifecycle.finishStart d).1) rfl
  requestStop ex := write ex (fun d => (Lifecycle.requestStop d).1) (by
    unfold Lifecycle.requestStop
    split <;> rfl)
  shutDown ex := write ex Lifecycle.shutDown rfl
  adapterUp ex := modify_step me ex fun d => by
    split
    · rfl
    · rfl
  adapterDown ex := modify_step me ex fun d => by
    split <;> rfl
  routerUp ex := modify_step me ex fun d => by
    split <;> rfl
  routerDown ex := modify_step me ex fun d => by
    split <;> rfl
  channelsCalled ex target status f delay :=
    write ex (fun d => (Lifecycle.channelsCalled target status f delay d).1) rfl
  channelsSettled ex ok incident answers :=
    write ex (fun d => (Lifecycle.channelsSettled ok incident answers d).1) (by
    unfold Lifecycle.channelsSettled
    simp only [Deployment.foldl_observe_workerView]
    rfl)
  cronStart ex := write ex (fun d => (Lifecycle.countCronStart d).1) rfl
  cronStop ex := write ex (fun d => (Lifecycle.countCronStop d).1) rfl
  heartbeatStart ex := by
    rw [Heartbeats.poll_start]
    split
    · exact refl ex
    · split
      · exact refl ex
      · exact started ex
  heartbeatStop ex := by
    rw [Heartbeats.poll_stop]
    exact stopped ex
  keepStart ex r := write ex (Deployment.keepStart r) rfl

end KeepsWorkers

/-- **Every task but a worker leaves the workers alone.** -/
theorem KeepsWorkers.job_within (me : Nat) (j : Job) (hj : ∀ id, j ≠ .subagent id) :
    Program.Within KeepsWorkers me true (Job.program j) := by
  cases j with
  | dispatch n handlers e => exact Delivery.dispatch_within (KeepsWorkers.dispatching me) n handlers e
  | handle h e => exact Handlers.run_within (KeepsWorkers.locking me) h e
  | subagent id => exact absurd rfl (hj id)
  | heartbeat => exact Heartbeats.run_within (KeepsWorkers.routine me)
  | gatewayStart => exact Job.gatewayStart_within (KeepsWorkers.operating me)
  | gatewayStop => exact Lifecycle.stop_within (KeepsWorkers.operating me)

end ChatGateway
