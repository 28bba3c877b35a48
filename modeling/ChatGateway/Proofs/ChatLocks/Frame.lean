import ChatGateway.Proofs.ChatLocks.Shapes

/-! # Work that leaves the chat locks alone

Outside the responders of chats in order, no program of the gateway touches the chat locks: the
lock table, the next mutex number and the executor's mutexes. `KeepsLocks` is that frame, with
what the invariant of the locks also needs of every step: tasks keep their programs, new tasks
run jobs, and the only task ever cancelled is the heartbeat's timer loop, which the deployment
remembers.

* `Chore.lockView`, and the same for the lifecycle's writes: no write but the responder's
  touches the chat locks or the remembered heartbeat task.
* `KeepsLocks.routine`, `KeepsLocks.dispatching`, `KeepsLocks.operating`: the frame admits all
  routine work, the dispatcher's and the lifecycle's.
* `KeepsLocks.job_within`: so every task that is not a responder of chats in order stays within it.
-/

namespace ChatGateway

open Scheduling Scheduling.Executor

/-- The timer loop the deployment remembers, if any. -/
def Deployment.heartbeatTask (d : Deployment) : Option Nat := d.heartbeat.bind (·.task)

/-- **What the chat locks depend on in the deployment:** the lock table, the next mutex number
and the remembered heartbeat task. -/
def Deployment.lockView (d : Deployment) : List ChatLock × Nat × Option Nat :=
  (d.chatLocks, d.nextMutex, d.heartbeatTask)

@[simp] theorem Deployment.observe_lockView (d : Deployment) (i : Incident) :
    (d.observe i).lockView = d.lockView := by
  unfold observe
  split <;> rfl

@[simp] theorem Deployment.foldl_observe_lockView (d : Deployment) (is : List Incident) :
    (is.foldl Deployment.observe d).lockView = d.lockView := by
  induction is generalizing d with
  | nil => rfl
  | cons i is ih => rw [List.foldl_cons, ih, observe_lockView]

/-- **No routine write touches the chat locks** or the remembered heartbeat task. -/
theorem Chore.lockView {f : Deployment → Deployment} (hf : Chore f) (d : Deployment) :
    (f d).lockView = d.lockView := by
  cases hf with
  | observe g => exact Deployment.observe_lockView d (g d)
  | logEvent entry => rfl
  | see m => rfl
  | logCall messages schemas => rfl
  | route m =>
    unfold Handlers.route
    split
    · exact Deployment.observe_lockView d _
    · split
      dsimp only
      split
      · rfl
      · exact Deployment.observe_lockView _ _
  | report h e r _ =>
    unfold Handlers.report
    split
    · rfl
    · exact Deployment.observe_lockView _ _
    · exact Deployment.observe_lockView _ _

/-! ## The frame -/

/-- **A step that leaves the chat locks alone.** The lock table, the next mutex number, the
executor's mutexes and the launcher stay, and fresh numbers only grow; every task keeps its
program and whether it ended, and is cancelled only if it is the remembered heartbeat task; new
tasks run jobs; the remembered heartbeat task stays, is forgotten, or is a new heartbeat task
(or the main program's slot, where no task ever is). -/
structure KeepsLocks (ex ex' : Exec) : Prop where
  launch : ex'.launch = ex.launch
  chatLocks : ex'.shared.chatLocks = ex.shared.chatLocks
  nextMutex : ex'.shared.nextMutex = ex.shared.nextMutex
  mutexes : ex'.mutexes = ex.mutexes
  nextId : ex.nextId ≤ ex'.nextId
  tasks : ∀ t v, ex.look t = some v → ∃ c, ex'.look t = some { v with cancelled := c } ∧
    (c = true → v.cancelled = true ∨ ex.shared.heartbeatTask = some t)
  fresh : ∀ t v, ex.look t = none → ex'.look t = some v → ∃ j c, v = ⟨ex.launch j, false, c⟩
  heartbeat : ex'.shared.heartbeatTask = ex.shared.heartbeatTask ∨
    ex'.shared.heartbeatTask = none ∨
    ∃ t c, ex'.shared.heartbeatTask = some t ∧ ex.look t = none ∧
      (t = 0 ∨ ex'.look t = some ⟨ex.launch .heartbeat, false, c⟩)

namespace KeepsLocks

theorem refl (ex : Exec) : KeepsLocks ex ex where
  launch := rfl
  chatLocks := rfl
  nextMutex := rfl
  mutexes := rfl
  nextId := Nat.le_refl _
  tasks t v hv := ⟨v.cancelled, by rw [hv], fun hc => .inl hc⟩
  fresh t v h h' := by rw [h] at h'; cases h'
  heartbeat := .inl rfl

/-- **Steps that leave the chat locks alone compose.** -/
theorem trans {ex₁ ex₂ ex₃ : Exec} (h₁ : KeepsLocks ex₁ ex₂) (h₂ : KeepsLocks ex₂ ex₃) :
    KeepsLocks ex₁ ex₃ where
  launch := h₂.launch.trans h₁.launch
  chatLocks := h₂.chatLocks.trans h₁.chatLocks
  nextMutex := h₂.nextMutex.trans h₁.nextMutex
  mutexes := h₂.mutexes.trans h₁.mutexes
  nextId := Nat.le_trans h₁.nextId h₂.nextId
  tasks t v hv := by
    obtain ⟨c₁, hv₁, hc₁⟩ := h₁.tasks t v hv
    obtain ⟨c₂, hv₂, hc₂⟩ := h₂.tasks t _ hv₁
    refine ⟨c₂, hv₂, fun hc => ?_⟩
    rcases hc₂ hc with hc' | hhb
    · exact hc₁ hc'
    · -- A task cancelled as the heartbeat task of the middle step was already that task,
      -- since a new heartbeat task did not exist before.
      rcases h₁.heartbeat with hsame | hnone | ⟨t', c', hnew, hnone', -⟩
      · exact .inr (hsame ▸ hhb)
      · rw [hnone] at hhb; cases hhb
      · rw [hnew] at hhb
        cases hhb
        rw [hnone'] at hv
        cases hv
  fresh t v hnone hv := by
    cases hmid : ex₂.look t with
    | none =>
      obtain ⟨j, c, rfl⟩ := h₂.fresh t v hmid hv
      exact ⟨j, c, by rw [h₁.launch]⟩
    | some v₂ =>
      obtain ⟨j, c, rfl⟩ := h₁.fresh t v₂ hnone hmid
      obtain ⟨c₂, hv₂, -⟩ := h₂.tasks t _ hmid
      rw [hv] at hv₂
      cases hv₂
      exact ⟨j, c₂, rfl⟩
  heartbeat := by
    rcases h₂.heartbeat with hsame | hnone | ⟨t, c, hnew, hfresh, hlook⟩
    · rcases h₁.heartbeat with hsame₁ | hnone₁ | ⟨t, c, hnew₁, hfresh₁, hlook₁⟩
      · exact .inl (hsame.trans hsame₁)
      · exact .inr (.inl (hsame.trans hnone₁))
      · refine .inr (.inr ⟨t, ?_⟩)
        rcases hlook₁ with hzero | hlook₁
        · exact ⟨c, hsame.trans hnew₁, hfresh₁, .inl hzero⟩
        · obtain ⟨c₂, hv₂, -⟩ := h₂.tasks t _ hlook₁
          exact ⟨c₂, hsame.trans hnew₁, hfresh₁, .inr hv₂⟩
    · exact .inr (.inl hnone)
    · -- A heartbeat task new in the last step did not exist at the start either.
      have hfresh₁ : ex₁.look t = none := by
        cases h : ex₁.look t with
        | none => rfl
        | some v =>
          obtain ⟨c₁, hv₁, -⟩ := h₁.tasks t v h
          rw [hfresh] at hv₁
          cases hv₁
      exact .inr (.inr ⟨t, c, hnew, hfresh₁, by rwa [← h₁.launch]⟩)

/-- **A run of such steps is one such step.** -/
theorem of_reach {ex ex' : Exec} (h : Relation.ReflTransGen KeepsLocks ex ex') :
    KeepsLocks ex ex' := by
  induction h with
  | refl => exact refl ex
  | tail _ hstep ih => exact ih.trans hstep

/-- A change of the shared deployment that keeps the chat locks' view. -/
theorem write (ex : Exec) (f : Deployment → Deployment)
    (hf : (f ex.shared).lockView = ex.shared.lockView) :
    KeepsLocks ex { ex with shared := f ex.shared } where
  launch := rfl
  chatLocks := congrArg Prod.fst hf
  nextMutex := congrArg (fun v => v.2.1) hf
  mutexes := rfl
  nextId := Nat.le_refl _
  tasks t v hv := ⟨v.cancelled, hv, fun hc => .inl hc⟩
  fresh t v h h' := by
    change ex.look t = some v at h'
    rw [h] at h'
    cases h'
  heartbeat := .inl (congrArg (fun v => v.2.2) hf)

/-- A timer takes a fresh number. -/
theorem addTimer (ex : Exec) (d me : Nat) : KeepsLocks ex (ex.addTimer d me).1 where
  launch := rfl
  chatLocks := rfl
  nextMutex := rfl
  mutexes := rfl
  nextId := Nat.le_succ _
  tasks t v hv := ⟨v.cancelled, hv, fun hc => .inl hc⟩
  fresh t v h h' := by
    change ex.look t = some v at h'
    rw [h] at h'
    cases h'
  heartbeat := .inl rfl

/-- **Housekeeping leaves the chat locks alone.** -/
theorem of_quiet {ex ex' : Exec} (h : Quiet ex ex') : KeepsLocks ex ex' := by
  have hseen : ex'.seen = ex.seen := h
  have hlook : ex'.look = ex.look := congrArg Seen.look hseen
  have hshared : ex'.shared = ex.shared := congrArg Seen.shared hseen
  exact {
    launch := congrArg Seen.launch hseen
    chatLocks := by rw [hshared]
    nextMutex := by rw [hshared]
    mutexes := congrArg Seen.mutexes hseen
    nextId := Nat.le_of_eq (congrArg Seen.nextId hseen).symm
    tasks := fun t v hv => ⟨v.cancelled, by rw [hlook]; exact hv, fun hc => .inl hc⟩
    fresh := fun t v h h' => by rw [hlook, h] at h'; cases h'
    heartbeat := .inl (by rw [hshared]) }

/-- A yield. -/
theorem defer (ex : Exec) (me : Nat) : KeepsLocks ex (ex.defer me) := of_quiet (defer_quiet ex me)

/-- **A spawned task** is a new task running its job. -/
theorem spawnTask (ex : Exec) (job : Job) : KeepsLocks ex (ex.spawnTask job).1 where
  launch := rfl
  chatLocks := rfl
  nextMutex := rfl
  mutexes := rfl
  nextId := Nat.le_refl _
  tasks t v hv := by
    refine ⟨v.cancelled, ?_, fun hc => .inl hc⟩
    rw [look_spawnTask]
    split
    · rename_i ht
      -- The slot a new task takes was empty.
      have hnone : ex.look t = none := by
        unfold look task?
        simp [ht.1]
      rw [hnone] at hv
      cases hv
    · exact hv
  fresh t v h h' := by
    rw [look_spawnTask] at h'
    split at h'
    · cases h'
      exact ⟨job, false, rfl⟩
    · rw [h] at h'
      cases h'
  heartbeat := .inl rfl

/-- A synchronous change of the deployment that keeps the chat locks' view. -/
theorem modify_step (me : Nat) (ex : Exec) {f : Deployment → Deployment}
    (hf : ∀ d, (f d).lockView = d.lockView) :
    KeepsLocks ex (poll me ex (Scheduling.Program.modify f)).1 :=
  write ex f (hf ex.shared)

/-- A synchronous update of the deployment that keeps the chat locks' view. -/
theorem update_step {β : Type} (me : Nat) (ex : Exec) {f : Deployment → Deployment × β}
    (hf : ∀ d, (f d).1.lockView = d.lockView) :
    KeepsLocks ex (poll me ex (Scheduling.Program.update f)).1 :=
  write ex (fun d => (f d).1) (hf ex.shared)

/-- **The heartbeat's timer loop is started** as a new task, which the deployment remembers. -/
theorem started (ex : Exec) : KeepsLocks ex (Heartbeats.started ex) where
  launch := rfl
  chatLocks := rfl
  nextMutex := rfl
  mutexes := rfl
  nextId := Nat.le_refl _
  tasks := (spawnTask ex .heartbeat).tasks
  fresh := (spawnTask ex .heartbeat).fresh
  heartbeat := by
    cases hh : ex.shared.heartbeat with
    | none =>
      refine .inr (.inl ?_)
      change (Option.map _ ex.shared.heartbeat).bind _ = none
      rw [hh]
      rfl
    | some h =>
      -- The new task takes the first slot past the others, which was empty.
      refine .inr (.inr ⟨ex.tasks.size, false, ?_, ?_, ?_⟩)
      · change (Option.map _ ex.shared.heartbeat).bind _ = some ex.tasks.size
        rw [hh]
        rfl
      · simp [look, task?]
      · by_cases hzero : ex.tasks.size = 0
        · exact .inl hzero
        · refine .inr ?_
          change (ex.spawnTask .heartbeat).1.look ex.tasks.size = _
          rw [look_spawnTask, if_pos ⟨rfl, hzero⟩]

/-- **The heartbeat's timer loop is stopped:** the deployment forgets it and it is cancelled. -/
theorem stopped (ex : Exec) : KeepsLocks ex (Heartbeats.stopped ex) := by
  have hforget : (Heartbeats.forgotten ex).shared.heartbeatTask = none := by
    change (Option.map _ ex.shared.heartbeat).bind _ = none
    cases ex.shared.heartbeat <;> rfl
  unfold Heartbeats.stopped
  split
  · rename_i t ht
    -- The deployment forgets the loop, then the loop is cancelled.
    have hseen := abortTask_seen_eq (Heartbeats.forgotten ex) t
    have hlook (u : Nat) := look_abortTask (Heartbeats.forgotten ex) t u
    exact {
      launch := congrArg Seen.launch hseen
      chatLocks := congrArg (fun s => s.shared.chatLocks) hseen
      nextMutex := congrArg (fun s => s.shared.nextMutex) hseen
      mutexes := congrArg Seen.mutexes hseen
      nextId := Nat.le_of_eq (congrArg Seen.nextId hseen).symm
      tasks := fun u v hv => by
        rw [hlook]
        split
        · rename_i hu
          refine ⟨true, ?_, fun _ => .inr (by rw [hu.1]; exact ht)⟩
          change (ex.look u).map _ = _
          rw [hv]
          rfl
        · exact ⟨v.cancelled, hv, fun hc => .inl hc⟩
      fresh := fun u v h h' => by
        rw [hlook] at h'
        change (if u = t ∧ (ex.outcome? t).isNone then (ex.look u).map _ else ex.look u) = _ at h'
        rw [h] at h'
        split at h' <;> cases h'
      heartbeat := .inr (.inl (by
        have hshared : (abortTask (Heartbeats.forgotten ex) t).shared =
            (Heartbeats.forgotten ex).shared := congrArg Seen.shared hseen
        rw [hshared]
        exact hforget)) }
  · rename_i ht
    refine write ex (fun d => { d with heartbeat := d.heartbeat.map fun h => { h with task := none } })
      ?_
    change (_, _, (Heartbeats.forgotten ex).shared.heartbeatTask) = (_, _, _)
    rw [hforget]
    exact congrArg _ (congrArg _ ht.symm)

/-! ## What the frame admits -/

/-- **Routine work leaves the chat locks alone.** -/
theorem routine (me : Nat) : Routine KeepsLocks me where
  stay := refl
  timer ex d := addTimer ex d me
  defer ex := defer ex me
  wake ex := of_quiet (wake_quiet ex me)
  chore ex f hf := write ex f (hf.lockView ex.shared)
  spawned ex task label channel chatId := by
    rw [AgentRun.poll_spawnSubagent]
    exact (write ex (fun d => (AgentRun.register task label channel chatId d).1) rfl).trans
      (spawnTask _ _)
  published ex e := by
    rw [Delivery.poll_publish]
    split
    · exact refl ex
    · exact (write ex (fun d => { d with nextDispatch := d.nextDispatch + 1 }) rfl).trans
        (spawnTask _ _)

/-- **The dispatcher leaves the chat locks alone.** -/
theorem dispatching (me : Nat) : Dispatching KeepsLocks me where
  toRoutine := routine me
  spawnHandler ex _ _ := spawnTask ex _
  record ex _ _ := write ex _ rfl

/-- **Starting and stopping the gateway leave the chat locks alone.** -/
theorem operating (me : Nat) : Operating KeepsLocks me where
  toRoutine := routine me
  beginStart ex := write ex (fun d => (Lifecycle.beginStart d).1) (by
    unfold Lifecycle.beginStart
    split
    · rfl
    · split <;> rfl)
  finishStart ex := write ex (fun d => (Lifecycle.finishStart d).1) rfl
  requestStop ex := write ex (fun d => (Lifecycle.requestStop d).1) (by
    unfold Lifecycle.requestStop
    split <;> rfl)
  shutDown ex := write ex Lifecycle.shutDown rfl
  adapterUp ex := modify_step me ex fun d => by
    split
    · rfl
    · rfl
  adapterDown ex := modify_step me ex fun d => by
    split <;> rfl
  routerUp ex := modify_step me ex fun d => by
    split <;> rfl
  routerDown ex := modify_step me ex fun d => by
    split <;> rfl
  channelsCalled ex target status f delay :=
    write ex (fun d => (Lifecycle.channelsCalled target status f delay d).1) rfl
  channelsSettled ex ok incident answers :=
    write ex (fun d => (Lifecycle.channelsSettled ok incident answers d).1) (by
    unfold Lifecycle.channelsSettled
    simp only [Deployment.foldl_observe_lockView]
    rfl)
  cronStart ex := write ex (fun d => (Lifecycle.countCronStart d).1) rfl
  cronStop ex := write ex (fun d => (Lifecycle.countCronStop d).1) rfl
  heartbeatStart ex := by
    rw [Heartbeats.poll_start]
    split
    · exact refl ex
    · split
      · exact refl ex
      · exact started ex
  heartbeatStop ex := by
    rw [Heartbeats.poll_stop]
    exact stopped ex
  keepStart ex r := write ex (Deployment.keepStart r) rfl

end KeepsLocks

/-- **Every task but a responder of chats in order on an inbound message leaves the chat locks
alone.** -/
theorem KeepsLocks.job_within (me : Nat) (j : Job)
    (hj : ∀ h e, j = .handle h e → Handlers.locking h.subscriber e = false) :
    Program.Within KeepsLocks me true (Job.program j) := by
  cases j with
  | dispatch n handlers e => exact Delivery.dispatch_within (KeepsLocks.dispatching me) n handlers e
  | handle h e =>
    exact Handlers.run_within_of_handle (KeepsLocks.routine me) h e
      (Handlers.handle_within (KeepsLocks.routine me) h.subscriber e (hj h e rfl))
  | subagent id =>
    exact Subagents.run_within (KeepsLocks.routine me) id fun ex r =>
      KeepsLocks.write ex (fun d => (Subagents.settle id r d).1) (by
        show (Subagents.settle id r ex.shared).1.lockView = _
        rw [Subagents.settle_fst]
        rfl)
  | heartbeat => exact Heartbeats.run_within (KeepsLocks.routine me)
  | gatewayStart => exact Job.gatewayStart_within (KeepsLocks.operating me)
  | gatewayStop => exact Lifecycle.stop_within (KeepsLocks.operating me)

end ChatGateway
