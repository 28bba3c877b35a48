import ChatGateway.Proofs.Subagent.Worker
import ChatGateway.Proofs.Subagent.Table
import ChatGateway.Proofs.ChatLocks.Runs
import ChatGateway.Proofs.Scheduling.Residual

/-! # The ledger of the sub-agents

Every task registered with the sub-agent manager has a worker, and between two moves of the
executor the worker is in one of three phases (`Workers.Phase`): started and not yet polled,
racing its run against the time limit, or settled. The ledger (`Workers.Book`) says what each
phase keeps true of what the invariants see of the executor: the task's record, the worker's
program, and that nothing but the worker can end the race, since the worker is not cancelled.
It also keeps the bookkeeping that makes ids fresh: every registered id is one of the generated
ids since the start, and every generated id is registered.

* `Workers.Book.step`, `Workers.Book.reach`: steps of the frame `KeepsWorkers` keep the ledger;
  a spawn adds a fresh worker, provided generated ids are distinct (`Deployment.DistinctIds`).
* `Workers.Book.settle`: a worker's settlement of its own record, with the result of its race,
  moves its task to the settled phase; the eviction that follows drops settled records only.
* `Workers.Book.setLook`: the task that ran shows its new program, which fits its phase.
-/

namespace ChatGateway

open Scheduling Scheduling.Executor

/-! ## (1) The manager's writes -/

/-- **A worker's settlement** settles the record in the manager's table, then evicts. -/
theorem Subagents.settle_of_manager {d : Deployment} {m : SubagentManager}
    (hm : d.subagents = some m) (id : String) (r : Except String (Option (Except String RunResult))) :
    Subagents.settle id r d =
      ({ d with subagents := some { m with table :=
          (m.table.settle id (Subagents.outcomeOf r)).1.evict m.budget.maxRetained } },
        (m.table.settle id (Subagents.outcomeOf r)).2) := by
  unfold Subagents.settle
  rw [hm]

/-- **Generated ids are distinct up to the `N`-th.** -/
def Deployment.DistinctIds (N : Nat) : Prop :=
  ∀ j k, 1 ≤ j → j < k → k ≤ N → Deployment.taskId j ≠ Deployment.taskId k

/-! ## (2) What the frame keeps of a task -/

namespace KeepsWorkers

variable {ex ex' : Exec}

/-- A task stays a task. -/
theorem look_ne_none (hk : KeepsWorkers ex ex') {t : Nat} (h : ex.look t ≠ none) :
    ex'.look t ≠ none := by
  obtain ⟨v, hv⟩ := Option.ne_none_iff_exists'.1 h
  obtain ⟨c, hv', -⟩ := hk.tasks t v hv
  rw [hv']
  exact Option.some_ne_none _

/-- Through steps of the frame, a task stays a task. -/
theorem look_ne_none_of_reach (hr : Relation.ReflTransGen KeepsWorkers ex ex') {t : Nat}
    (h : ex.look t ≠ none) : ex'.look t ≠ none := by
  induction hr with
  | refl => exact h
  | tail _ hk ih => exact hk.look_ne_none ih

/-- The count of generated ids only grows. -/
theorem nextTaskId_le (hk : KeepsWorkers ex ex') :
    ex.shared.nextTaskId ≤ ex'.shared.nextTaskId := by
  rcases hk.registered with ⟨-, h⟩ | ⟨-, -, -, -, -, h, -⟩ <;> omega

theorem size_le_of_reach (hr : Relation.ReflTransGen KeepsWorkers ex ex') :
    ex.tasks.size ≤ ex'.tasks.size := by
  induction hr with
  | refl => exact Nat.le_refl _
  | tail _ hk ih => exact Nat.le_trans ih hk.size

theorem nextTaskId_le_of_reach (hr : Relation.ReflTransGen KeepsWorkers ex ex') :
    ex.shared.nextTaskId ≤ ex'.shared.nextTaskId := by
  induction hr with
  | refl => exact Nat.le_refl _
  | tail _ hk ih => exact Nat.le_trans ih hk.nextTaskId_le

/-- A task that is not the heartbeat's does not become it. -/
theorem heartbeat_ne (hk : KeepsWorkers ex ex') {t : Nat} (hhb : ex.shared.heartbeatTask ≠ some t)
    (ht : ex.look t ≠ none) : ex'.shared.heartbeatTask ≠ some t := by
  intro h'
  rcases hk.heartbeat with hsame | hnone | ⟨t', hnew, hfresh, -, -⟩
  · exact hhb (hsame ▸ h')
  · rw [hnone] at h'
    cases h'
  · rw [hnew] at h'
    cases h'
    exact ht hfresh

/-- The remembered heartbeat task stays a task. -/
theorem heartbeat_task (hk : KeepsWorkers ex ex')
    (h : ∀ t, ex.shared.heartbeatTask = some t → t = 0 ∨ ex.look t ≠ none) :
    ∀ t, ex'.shared.heartbeatTask = some t → t = 0 ∨ ex'.look t ≠ none := by
  intro t ht
  rcases hk.heartbeat with hsame | hnone | ⟨t', hnew, -, hslot, -⟩
  · exact (h t (hsame ▸ ht)).imp_right hk.look_ne_none
  · rw [hnone] at ht
    cases ht
  · rw [hnew] at ht
    cases ht
    exact hslot

/-- **An uncancelled task that is not the heartbeat's** keeps its view, and stays so. -/
theorem look_uncancelled (hk : KeepsWorkers ex ex') {t : Nat} {v : TaskView Job Deployment}
    (hv : ex.look t = some v) (hc : v.cancelled = false) (hhb : ex.shared.heartbeatTask ≠ some t) :
    ex'.look t = some v ∧ ex'.shared.heartbeatTask ≠ some t := by
  obtain ⟨c, hv', hcan⟩ := hk.tasks t v hv
  -- The frame cancels no task but the heartbeat's.
  have hc' : c = false := by
    cases c
    · rfl
    · rcases hcan rfl with h | h
      · rw [hc] at h
        cases h
      · exact absurd h hhb
  subst hc'
  refine ⟨?_, hk.heartbeat_ne hhb (by simp [hv])⟩
  rw [hv', ← hc]

/-- Through steps of the frame, an uncancelled task that is not the heartbeat's keeps its view. -/
theorem look_uncancelled_of_reach (hr : Relation.ReflTransGen KeepsWorkers ex ex') {t : Nat}
    {v : TaskView Job Deployment} (hv : ex.look t = some v) (hc : v.cancelled = false)
    (hhb : ex.shared.heartbeatTask ≠ some t) :
    ex'.look t = some v ∧ ex'.shared.heartbeatTask ≠ some t := by
  induction hr with
  | refl => exact ⟨hv, hhb⟩
  | tail _ hk ih => exact hk.look_uncancelled ih.1 hc ih.2

/-- **A task's view after a step of the frame:** an old task's view but for its cancellation,
or a new task that has not run. -/
theorem look_cases (hk : KeepsWorkers ex ex') {t : Nat} {v : TaskView Job Deployment}
    (hv : ex'.look t = some v) :
    (∃ v₀ c, ex.look t = some v₀ ∧ v = { v₀ with cancelled := c }) ∨
      (ex.look t = none ∧ v.done = false) := by
  cases hlook : ex.look t with
  | some v₀ =>
    obtain ⟨c, hv₀, -⟩ := hk.tasks t v₀ hlook
    exact .inl ⟨v₀, c, rfl, Option.some.inj (hv.symm.trans hv₀)⟩
  | none =>
    refine .inr ⟨rfl, ?_⟩
    rcases hk.registered with ⟨-, hnext⟩ | ⟨-, -, -, -, -, -, hnew, honly⟩
    · obtain ⟨j, c, rfl, -⟩ := hk.fresh hnext t v hlook hv
      rfl
    · -- The one new task is the one in the next slot, which is no slot of the main program.
      obtain rfl := honly t v hlook hv
      have hsize : ex.tasks.size ≠ 0 := by
        intro h0
        rw [h0] at hv
        cases hv
      rw [hnew hsize] at hv
      cases hv
      rfl

end KeepsWorkers

/-! ## (3) The phases of a worker -/

namespace Workers

/-- **Where a registered task's worker is between two moves.** -/
inductive Phase where
  /-- Started, and not yet polled. -/
  | fresh
  /-- Racing its run, with `inner` left of it, against the time limit's timer `timer`. -/
  | racing (inner : Act (Except String RunResult)) (timer : Nat)
  /-- The record is settled; the worker tells the callback, or has ended. -/
  | settled

/-- The phases before the settlement. -/
def Phase.IsSettled : Phase → Prop
  | .settled => True
  | _ => False

/-- **The ghost of the ledger:** the spawn and the phase of each registered id. -/
abbrev Ghost := String → Option (Spawn × Phase)

variable (M : ProviderScript) (cfg : SubagentManager)

/-- **The manager as the ledger keeps it:** `cfg` with the table that a log of changes leaves,
where the log spawns distinct ids, each with an entry. -/
def Logged (Φ : Ghost) (sub : Option SubagentManager) : Prop :=
  ∃ cs, sub = some { cfg with table := TaskTable.replay cfg.budget.maxRetained cs } ∧
    (TaskTable.Change.spawned cs).Nodup ∧ ∀ id ∈ TaskTable.Change.spawned cs, Φ id ≠ none

/-- **The record of a task at its phase:** as registered until it settles; then the settled
record, or nothing once evicted. -/
def RecordAt (d : Deployment) (id : String) (sp : Spawn) : Phase → Prop
  | .settled => d.record? id = some (sp.settled M cfg) ∨ d.record? id = none
  | _ => d.record? id = some sp.record

/-- **The worker of a task at its phase, as the invariants see it.** Before it settles, it runs
its program uncancelled and is not the heartbeat's task, and what is left of the run stays within
the frame; once settled, it tells the callback about the settled record, unless it has ended. -/
def LookAt (s : Seen Job Deployment) (id : String) (sp : Spawn) : Phase → Prop
  | .fresh => s.look sp.worker = some ⟨Subagents.run id, false, false⟩ ∧
      s.shared.heartbeatTask ≠ some sp.worker
  | .racing inner tm =>
      s.look sp.worker =
        some ⟨Subagents.racing id cfg.callback (sp.deadline cfg) tm inner, false, false⟩ ∧
      s.shared.heartbeatTask ≠ some sp.worker ∧ Program.Within KeepsWorkers sp.worker true inner
  | .settled => ∃ v, s.look sp.worker = some v ∧ (v.done = false →
      Program.Runs sp.worker (Subagents.notify id (some (sp.settled M cfg)) cfg.callback) v.program)

/-- **The ledger of the sub-agents,** with every task but `u`, the one that runs now, at its
phase. The manager is `cfg` with the table of a log of distinct spawns, all registered; the registered ids
are exactly those generated since `base`; each has a running record as registered and its own
worker task; the tasks that are no worker stay within the frame; the remembered heartbeat task is
a task; a task that has ended has nothing left to run. -/
structure Book (base : Nat) (Φ : Ghost) (u : Nat) (s : Seen Job Deployment) : Prop where
  launch : s.launch = Job.program
  base_le : base ≤ s.shared.nextTaskId
  model : s.shared.model = M
  manager : Logged cfg Φ s.shared.subagents
  issued : ∀ id e, Φ id = some e → ∃ j, base < j ∧ j ≤ s.shared.nextTaskId ∧ id = Deployment.taskId j
  complete : ∀ j, base < j → j ≤ s.shared.nextTaskId → Φ (Deployment.taskId j) ≠ none
  running : ∀ id sp φ, Φ id = some (sp, φ) → sp.record.status = .running
  worker : ∀ id sp φ, Φ id = some (sp, φ) → sp.worker ≠ 0 ∧ s.look sp.worker ≠ none
  distinct : ∀ id id' sp sp' φ φ', Φ id = some (sp, φ) → Φ id' = some (sp', φ') →
    sp.worker = sp'.worker → id = id'
  records : ∀ id sp φ, Φ id = some (sp, φ) → RecordAt M cfg s.shared id sp φ
  looks : ∀ id sp φ, Φ id = some (sp, φ) → sp.worker ≠ u → LookAt M cfg s id sp φ
  others : ∀ t v, t ≠ u → s.look t = some v → v.done = false →
    (∀ id sp φ, Φ id = some (sp, φ) → sp.worker ≠ t) → Program.Within KeepsWorkers t true v.program
  finished : ∀ t v, t ≠ u → s.look t = some v → v.done = true → v.program = .pure ()
  heartbeat : ∀ t, s.shared.heartbeatTask = some t → t = 0 ∨ s.look t ≠ none

/-! ## (4) Entries of the ghost -/

/-- **The ledger grows:** every entry stays as it is. -/
def Grows (Φ Φ' : Ghost) : Prop := ∀ id e, Φ id = some e → Φ' id = some e

/-- **The new entries are fresh,** spawned at `T` by tasks that `s` did not have. -/
def FreshSince (Φ Φ' : Ghost) (T : Nat) (s : Seen Job Deployment) : Prop :=
  ∀ id sp φ, Φ' id = some (sp, φ) → Φ id = none → φ = .fresh ∧ sp.start = T ∧ s.look sp.worker = none

theorem Grows.refl (Φ : Ghost) : Grows Φ Φ := fun _ _ => id

theorem Grows.trans {Φ₁ Φ₂ Φ₃ : Ghost} (h₁ : Grows Φ₁ Φ₂) (h₂ : Grows Φ₂ Φ₃) : Grows Φ₁ Φ₃ :=
  fun id e h => h₂ id e (h₁ id e h)

theorem FreshSince.refl (Φ : Ghost) (T : Nat) (s : Seen Job Deployment) : FreshSince Φ Φ T s := by
  intro id sp φ hΦ hnone
  rw [hΦ] at hnone
  cases hnone

theorem update_eq_some {Φ : Ghost} {id₀ id : String} {sp₀ sp : Spawn} {φ₀ φ : Phase} :
    Function.update Φ id₀ (some (sp₀, φ₀)) id = some (sp, φ) ↔
      (id = id₀ ∧ sp = sp₀ ∧ φ = φ₀) ∨ (id ≠ id₀ ∧ Φ id = some (sp, φ)) := by
  rw [Function.update_apply]
  by_cases h : id = id₀
  · simp [h, eq_comm]
  · simp [h]

theorem update_ne_none {Φ : Ghost} {id₀ id : String} {e : Spawn × Phase}
    (h : Φ id ≠ none ∨ id = id₀) : Function.update Φ id₀ (some e) id ≠ none := by
  rw [Function.update_apply]
  split
  · exact Option.some_ne_none _
  · rename_i hne
    exact h.resolve_right hne

/-- An entry added under a fresh id leaves the others. -/
theorem grows_update {Φ : Ghost} {id₀ : String} (h : Φ id₀ = none) (e : Spawn × Phase) :
    Grows Φ (Function.update Φ id₀ (some e)) := by
  intro id e' hΦ
  have hne : id ≠ id₀ := by
    rintro rfl
    rw [h] at hΦ
    cases hΦ
  rw [Function.update_of_ne hne]
  exact hΦ

/-- An entry of a ghost where one entry changed phase had that spawn before. -/
theorem rephase_some {Φ : Ghost} {id id' : String} {sp sp' : Spawn} {φ₀ φ φ' : Phase}
    (hΦ : Φ id = some (sp, φ₀)) (h : Function.update Φ id (some (sp, φ)) id' = some (sp', φ')) :
    ∃ φ'', Φ id' = some (sp', φ'') := by
  rcases update_eq_some.1 h with ⟨rfl, rfl, -⟩ | ⟨-, h'⟩
  · exact ⟨φ₀, hΦ⟩
  · exact ⟨φ', h'⟩

/-- An entry of a ghost keeps its spawn when one entry changes phase. -/
theorem some_rephase {Φ : Ghost} {id id' : String} {sp sp' : Spawn} {φ₀ φ φ' : Phase}
    (hΦ : Φ id = some (sp, φ₀)) (h : Φ id' = some (sp', φ')) :
    ∃ φ'', Function.update Φ id (some (sp, φ)) id' = some (sp', φ'') := by
  by_cases hid : id' = id
  · subst hid
    rw [hΦ] at h
    obtain ⟨rfl, -⟩ := Prod.mk.inj (Option.some.inj h)
    exact ⟨φ, Function.update_self _ _ _⟩
  · exact ⟨φ', by rw [Function.update_of_ne hid]; exact h⟩

/-! ## (5) Steps of the frame keep the ledger -/

section Frame

variable {M cfg} {base : Nat} {Φ : Ghost} {u : Nat}

/-- A ghost that keeps every entry keeps the manager logged. -/
theorem Logged.mono {Φ' : Ghost} {sub : Option SubagentManager} (h : Logged cfg Φ sub)
    (hΦ : ∀ id, Φ id ≠ none → Φ' id ≠ none) : Logged cfg Φ' sub := by
  obtain ⟨cs, hsub, hnd, htracked⟩ := h
  exact ⟨cs, hsub, hnd, fun id hid => hΦ id (htracked id hid)⟩

/-- **A record of a logged manager is filed under its own id.** -/
theorem Logged.id_of_record? {d : Deployment} (h : Logged cfg Φ d.subagents) {id : String}
    {r : SubagentTask} (hr : d.record? id = some r) : r.id = id := by
  obtain ⟨cs, hsub, hnd, -⟩ := h
  rw [Deployment.record?, hsub, Option.bind_some] at hr
  exact (TaskTable.invariant_replay _ cs hnd).lockstep.keyed id r hr

/-- The record at a phase before the settlement is the registered one. -/
theorem recordAt_of_unsettled {d : Deployment} {id : String} {sp : Spawn} {φ : Phase}
    (hφ : ¬φ.IsSettled) : RecordAt M cfg d id sp φ ↔ d.record? id = some sp.record := by
  cases φ with
  | fresh => rfl
  | racing => rfl
  | settled => exact absurd trivial hφ

theorem RecordAt.congr {d d' : Deployment} {id : String} (h : d'.record? id = d.record? id)
    {sp : Spawn} {φ : Phase} (hr : RecordAt M cfg d id sp φ) : RecordAt M cfg d' id sp φ := by
  cases φ <;> simpa only [RecordAt, h] using hr

/-- A worker's look reads its view and whether it is the heartbeat's task. -/
theorem LookAt.congr {s s' : Seen Job Deployment} {id : String} {sp : Spawn} {φ : Phase}
    (hl : LookAt M cfg s id sp φ) (hlook : s'.look sp.worker = s.look sp.worker)
    (hhb : s'.shared.heartbeatTask = s.shared.heartbeatTask) : LookAt M cfg s' id sp φ := by
  cases φ <;> simpa only [LookAt, hlook, hhb] using hl

/-- **A worker's look through a step of the frame.** -/
theorem LookAt.step {ex ex' : Exec} (hk : KeepsWorkers ex ex') {id : String} {sp : Spawn}
    {φ : Phase} (hl : LookAt M cfg ex.seen id sp φ) : LookAt M cfg ex'.seen id sp φ := by
  cases φ with
  | fresh =>
    obtain ⟨hv, hhb⟩ := hl
    exact hk.look_uncancelled hv rfl hhb
  | racing inner tm =>
    obtain ⟨hv, hhb, hin⟩ := hl
    obtain ⟨hv', hhb'⟩ := hk.look_uncancelled hv rfl hhb
    exact ⟨hv', hhb', hin⟩
  | settled =>
    obtain ⟨v, hv, hruns⟩ := hl
    obtain ⟨c, hv', -⟩ := hk.tasks _ _ hv
    exact ⟨_, hv', hruns⟩

/-- **A step of the frame that registers nothing keeps the ledger.** -/
theorem Book.keep {ex ex' : Exec} (h : Book M cfg base Φ u ex.seen) (hk : KeepsWorkers ex ex')
    (hsub : ex'.shared.subagents = ex.shared.subagents)
    (hnext : ex'.shared.nextTaskId = ex.shared.nextTaskId) : Book M cfg base Φ u ex'.seen where
  launch := hk.launch.trans h.launch
  base_le := by
    show base ≤ ex'.shared.nextTaskId
    rw [hnext]
    exact h.base_le
  model := hk.model.trans h.model
  manager := by
    show Logged cfg Φ ex'.shared.subagents
    rw [hsub]
    exact h.manager
  issued := by
    show ∀ id e, Φ id = some e → ∃ j, base < j ∧ j ≤ ex'.shared.nextTaskId ∧ _
    rw [hnext]
    exact h.issued
  complete := by
    show ∀ j, base < j → j ≤ ex'.shared.nextTaskId → _
    rw [hnext]
    exact h.complete
  running := h.running
  worker id sp φ hΦ := ⟨(h.worker id sp φ hΦ).1, hk.look_ne_none (h.worker id sp φ hΦ).2⟩
  distinct := h.distinct
  records id sp φ hΦ := (h.records id sp φ hΦ).congr (Deployment.record?_congr hsub id)
  looks id sp φ hΦ hu := (h.looks id sp φ hΦ hu).step hk
  others t v ht hv hdone hw := by
    cases hlook : ex.look t with
    | some v₀ =>
      obtain ⟨c, hv₀, -⟩ := hk.tasks t v₀ hlook
      obtain rfl : v = { v₀ with cancelled := c } := Option.some.inj (hv.symm.trans hv₀)
      exact h.others t v₀ ht hlook hdone hw
    | none =>
      -- A task the step started runs a job that is no sub-agent's.
      obtain ⟨j, c, rfl, hj⟩ := hk.fresh hnext t v hlook hv
      have hlaunch : ex.launch = Job.program := h.launch
      rw [hlaunch]
      exact KeepsWorkers.job_within t j hj
  finished t v ht hv hd := by
    rcases hk.look_cases hv with ⟨v₀, c, hv₀, rfl⟩ | ⟨-, hnd⟩
    · exact h.finished t v₀ ht hv₀ hd
    · rw [hd] at hnd
      cases hnd
  heartbeat := hk.heartbeat_task h.heartbeat

/-- **An id generated later is no entry's yet,** as generated ids are distinct. -/
theorem Book.none_of_lt {s : Seen Job Deployment} (h : Book M cfg base Φ u s) {N j : Nat}
    (hids : Deployment.DistinctIds N) (hj : s.shared.nextTaskId < j) (hjN : j ≤ N) :
    Φ (Deployment.taskId j) = none := by
  cases hΦ : Φ (Deployment.taskId j) with
  | none => rfl
  | some e =>
    obtain ⟨i, hi, hile, hid⟩ := h.issued _ e hΦ
    exact absurd hid (hids i j (by omega) (by omega) hjN).symm

/-- The id a registration generates is no entry's yet. -/
theorem Book.fresh_id {s : Seen Job Deployment} (h : Book M cfg base Φ u s) {N : Nat}
    (hids : Deployment.DistinctIds N) (hN : s.shared.nextTaskId + 1 ≤ N) :
    Φ (Deployment.taskId (s.shared.nextTaskId + 1)) = none :=
  h.none_of_lt hids (Nat.lt_succ_self _) hN

/-- **A registration adds a fresh entry** for the task the step started, under the id it
generated. -/
theorem Book.register {ex ex' : Exec} (h : Book M cfg base Φ u ex.seen) (hsize : ex.tasks.size ≠ 0)
    (hk : KeepsWorkers ex ex') {N : Nat} (hids : Deployment.DistinctIds N)
    (hN : ex'.shared.nextTaskId ≤ N) {task : String} {label : Option String} {channel chatId : String}
    (hsub : ex'.shared.subagents = (AgentRun.register task label channel chatId ex.shared).1.subagents)
    (hnext : ex'.shared.nextTaskId = ex.shared.nextTaskId + 1)
    (hlook : ex'.look ex.tasks.size =
      some ⟨ex.launch (.subagent (Deployment.taskId (ex.shared.nextTaskId + 1))), false, false⟩)
    (honly : ∀ t v, ex.look t = none → ex'.look t = some v → t = ex.tasks.size) (T : Nat) :
    Book M cfg base (Function.update Φ (Deployment.taskId (ex.shared.nextTaskId + 1))
      (some (⟨TaskTable.spawnRecord (Deployment.taskId (ex.shared.nextTaskId + 1)) task label
        channel chatId, T, ex.tasks.size⟩, .fresh))) u ex'.seen := by
  have hfresh := h.fresh_id hids (show ex.shared.nextTaskId + 1 ≤ N by omega)
  set id₀ := Deployment.taskId (ex.shared.nextTaskId + 1) with hid₀
  set rec₀ := TaskTable.spawnRecord id₀ task label channel chatId with hrec₀
  have hlaunch : ex.launch = Job.program := h.launch
  have hbase : base ≤ ex.shared.nextTaskId := h.base_le
  obtain ⟨cs, hm, hnd, htracked⟩ := h.manager
  have hm : ex.shared.subagents =
      some { cfg with table := TaskTable.replay cfg.budget.maxRetained cs } := hm
  have hnotin : id₀ ∉ TaskTable.Change.spawned cs := fun hmem => htracked _ hmem hfresh
  -- The log of the manager's table gains the spawn.
  set cs' := cs ++ [.spawn id₀ task label channel chatId] with hcs'
  have hsub' : ex'.shared.subagents =
      some { cfg with table := TaskTable.replay cfg.budget.maxRetained cs' } := by
    rw [hsub, AgentRun.register_subagents, hm, hcs', TaskTable.replay_append]
    rfl
  have hrecord : ∀ id, ex'.shared.record? id = if id = id₀ then some rec₀ else ex.shared.record? id := by
    intro id
    simp only [Deployment.record?, hsub', hm, Option.bind_some, hcs', TaskTable.replay_append,
      TaskTable.Change.apply]
    exact TaskTable.get?_insert _ _ _
  -- The new worker was no task before the step.
  have hold : ∀ id sp φ, Φ id = some (sp, φ) → sp.worker ≠ ex.tasks.size := by
    intro id sp φ hΦ hw
    have hnone := KeepsDeliveries.look_size ex
    rw [← hw] at hnone
    exact (h.worker id sp φ hΦ).2 hnone
  refine
    { launch := hk.launch.trans h.launch
      base_le := ?base_le
      model := hk.model.trans h.model
      manager := ⟨cs', hsub', ?nodup, ?tracked⟩
      issued := ?issued
      complete := ?complete
      running := ?running
      worker := ?worker
      distinct := ?distinct
      records := ?records
      looks := ?looks
      others := ?others
      finished := ?finished
      heartbeat := hk.heartbeat_task h.heartbeat }
  case base_le =>
    show base ≤ ex'.shared.nextTaskId
    omega
  case nodup =>
    rw [hcs', TaskTable.spawned_append_spawn, ← List.concat_eq_append]
    exact List.Nodup.concat hnotin hnd
  case tracked =>
    intro id hid
    rw [hcs', TaskTable.spawned_append_spawn, List.mem_append, List.mem_singleton] at hid
    exact update_ne_none (hid.imp_left (htracked id))
  case issued =>
    intro id e hΦ'
    show ∃ j, base < j ∧ j ≤ ex'.shared.nextTaskId ∧ _
    rw [hnext]
    rw [Function.update_apply] at hΦ'
    split at hΦ'
    · rename_i hid
      exact ⟨ex.shared.nextTaskId + 1, by omega, Nat.le_refl _, hid⟩
    · obtain ⟨j, hj, hjle, hid⟩ := h.issued id e hΦ'
      exact ⟨j, hj, Nat.le_succ_of_le hjle, hid⟩
  case complete =>
    intro j hj hjle
    change j ≤ ex'.shared.nextTaskId at hjle
    rw [hnext] at hjle
    apply update_ne_none
    rcases Nat.lt_or_ge j (ex.shared.nextTaskId + 1) with hlt | hge
    · exact .inl (h.complete j hj (Nat.le_of_lt_succ hlt))
    · obtain rfl : j = ex.shared.nextTaskId + 1 := by omega
      exact .inr rfl
  case running =>
    intro id sp φ hΦ'
    rcases update_eq_some.1 hΦ' with ⟨-, rfl, -⟩ | ⟨-, hΦ⟩
    · rfl
    · exact h.running id sp φ hΦ
  case worker =>
    intro id sp φ hΦ'
    rcases update_eq_some.1 hΦ' with ⟨-, rfl, -⟩ | ⟨-, hΦ⟩
    · refine ⟨hsize, ?_⟩
      change ex'.look ex.tasks.size ≠ none
      rw [hlook]
      exact Option.some_ne_none _
    · exact ⟨(h.worker id sp φ hΦ).1, hk.look_ne_none (h.worker id sp φ hΦ).2⟩
  case distinct =>
    intro id id' sp sp' φ φ' hΦ hΦ' hw
    rcases update_eq_some.1 hΦ with ⟨rfl, rfl, -⟩ | ⟨-, hΦ₀⟩ <;>
      rcases update_eq_some.1 hΦ' with ⟨rfl, rfl, -⟩ | ⟨-, hΦ₀'⟩
    · rfl
    · exact absurd hw.symm (hold id' sp' φ' hΦ₀')
    · exact absurd hw (hold id sp φ hΦ₀)
    · exact h.distinct id id' sp sp' φ φ' hΦ₀ hΦ₀' hw
  case records =>
    intro id sp φ hΦ'
    rcases update_eq_some.1 hΦ' with ⟨rfl, rfl, rfl⟩ | ⟨hid, hΦ⟩
    · show ex'.shared.record? id₀ = some rec₀
      rw [hrecord, if_pos rfl]
    · exact (h.records id sp φ hΦ).congr ((hrecord id).trans (if_neg hid))
  case looks =>
    intro id sp φ hΦ' hu
    rcases update_eq_some.1 hΦ' with ⟨rfl, rfl, rfl⟩ | ⟨-, hΦ⟩
    · -- The new worker runs its task, and is not the heartbeat's task.
      refine ⟨?_, ?_⟩
      · change ex'.look ex.tasks.size = some ⟨Subagents.run id₀, false, false⟩
        rw [hlook, hlaunch]
        rfl
      · intro hhb
        change ex'.shared.heartbeatTask = some ex.tasks.size at hhb
        rcases hk.heartbeat with hsame | hnone | ⟨t, -, -, -, hn⟩
        · rw [hsame] at hhb
          rcases h.heartbeat _ hhb with h0 | hne
          · exact hsize h0
          · exact hne (KeepsDeliveries.look_size ex)
        · rw [hnone] at hhb
          cases hhb
        · omega
    · exact (h.looks id sp φ hΦ hu).step hk
  case others =>
    intro t v ht hv hdone hw
    cases hlook₀ : ex.look t with
    | some v₀ =>
      obtain ⟨c, hv₀, -⟩ := hk.tasks t v₀ hlook₀
      obtain rfl : v = { v₀ with cancelled := c } := Option.some.inj (hv.symm.trans hv₀)
      exact h.others t v₀ ht hlook₀ hdone fun id sp φ hΦ =>
        hw id sp φ (grows_update hfresh _ id _ hΦ)
    | none =>
      -- The only task the step started is the new worker.
      exact absurd (honly t v hlook₀ hv).symm (hw id₀ _ _ (Function.update_self _ _ _))
  case finished =>
    intro t v ht hv hd
    rcases hk.look_cases hv with ⟨v₀, c, hv₀, rfl⟩ | ⟨-, hnd⟩
    · exact h.finished t v₀ ht hv₀ hd
    · rw [hd] at hnd
      cases hnd

/-- **A step of the frame keeps the ledger,** with a fresh entry for a registration. -/
theorem Book.step {ex ex' : Exec} (h : Book M cfg base Φ u ex.seen) (hsize : ex.tasks.size ≠ 0)
    (hk : KeepsWorkers ex ex') {N : Nat} (hids : Deployment.DistinctIds N)
    (hN : ex'.shared.nextTaskId ≤ N) (T : Nat) :
    ∃ Φ', Grows Φ Φ' ∧ Book M cfg base Φ' u ex'.seen ∧ FreshSince Φ Φ' T ex.seen := by
  rcases hk.registered with ⟨hsub, hnext⟩ |
    ⟨task, label, channel, chatId, hsub, hnext, hlook, honly⟩
  · exact ⟨Φ, .refl Φ, h.keep hk hsub hnext, .refl Φ T _⟩
  · have hfresh := h.fresh_id hids (show ex.shared.nextTaskId + 1 ≤ N by omega)
    refine ⟨_, grows_update hfresh _, h.register hsize hk hids hN hsub hnext (hlook hsize) honly T, ?_⟩
    intro id sp φ hΦ' hnone
    rcases update_eq_some.1 hΦ' with ⟨-, rfl, rfl⟩ | ⟨-, hΦ⟩
    · exact ⟨rfl, rfl, KeepsDeliveries.look_size ex⟩
    · rw [hΦ] at hnone
      cases hnone

/-- **Steps of the frame keep the ledger;** the entries they add are fresh, spawned by tasks
that were none at the start. -/
theorem Book.reach {ex ex' : Exec} (h : Book M cfg base Φ u ex.seen) (hsize : ex.tasks.size ≠ 0)
    (hr : Relation.ReflTransGen KeepsWorkers ex ex') {N : Nat} (hids : Deployment.DistinctIds N)
    (hN : ex'.shared.nextTaskId ≤ N) (T : Nat) :
    ∃ Φ', Grows Φ Φ' ∧ Book M cfg base Φ' u ex'.seen ∧ FreshSince Φ Φ' T ex.seen := by
  induction hr with
  | refl => exact ⟨Φ, .refl Φ, h, .refl Φ T _⟩
  | @tail ex₁ ex₂ hr hk ih =>
    obtain ⟨Φ₁, hg₁, h₁, hf₁⟩ := ih (Nat.le_trans hk.nextTaskId_le hN)
    have hsize₁ : ex₁.tasks.size ≠ 0 := by
      have := KeepsWorkers.size_le_of_reach hr
      omega
    obtain ⟨Φ₂, hg₂, h₂, hf₂⟩ := h₁.step hsize₁ hk hids hN T
    refine ⟨Φ₂, hg₁.trans hg₂, h₂, ?_⟩
    intro id sp φ hΦ₂ hnone
    cases hΦ₁ : Φ₁ id with
    | none =>
      -- Added by the last step: its worker was no task then, so none at the start.
      obtain ⟨hφ, hT, hl⟩ := hf₂ id sp φ hΦ₂ hΦ₁
      refine ⟨hφ, hT, ?_⟩
      by_contra hne
      exact KeepsWorkers.look_ne_none_of_reach hr hne hl
    | some e =>
      rw [hg₂ id e hΦ₁] at hΦ₂
      rw [hΦ₂] at hΦ₁
      exact hf₁ id sp φ hΦ₁ hnone

end Frame

/-! ## (6) A worker's own steps -/

section Own

variable {M cfg} {base : Nat} {Φ : Ghost} {u : Nat}

/-- **The record at a phase survives a new table** that keeps every running record, and every
settled one unless it drops it. -/
theorem RecordAt.of_get? {d d' : Deployment} {id : String} {sp : Spawn} {φ : Phase}
    (hr : RecordAt M cfg d id sp φ) (hrun : sp.record.status = .running)
    (hkeep : ∀ r, d.record? id = some r →
      d'.record? id = some r ∨ (d'.record? id = none ∧ r.status.isTerminal = true))
    (hnone : d.record? id = none → d'.record? id = none) : RecordAt M cfg d' id sp φ := by
  by_cases hφ : φ.IsSettled
  · cases φ with
    | settled =>
      rcases hr with hr | hr
      · exact (hkeep _ hr).imp_right And.left
      · exact .inr (hnone hr)
    | fresh => exact (hφ : False).elim
    | racing => exact (hφ : False).elim
  · rw [recordAt_of_unsettled hφ] at hr ⊢
    rcases hkeep _ hr with hkept | ⟨-, hterm⟩
    · exact hkept
    · rw [hrun] at hterm
      cases hterm

/-- **One entry changes phase while its worker runs,** and the manager's table changes as the
ledger says: the rest of the ledger stays. -/
theorem Book.rephase {s : Seen Job Deployment} {id : String} {sp : Spawn} {φ φ' : Phase}
    (h : Book M cfg base Φ sp.worker s) (hΦ : Φ id = some (sp, φ)) (sub : Option SubagentManager)
    (hmanager : Logged cfg Φ sub)
    (hrecord : RecordAt M cfg { s.shared with subagents := sub } id sp φ')
    (hrecords : ∀ id' sp' φ'', id' ≠ id → Φ id' = some (sp', φ'') →
      RecordAt M cfg { s.shared with subagents := sub } id' sp' φ'') :
    Book M cfg base (Function.update Φ id (some (sp, φ'))) sp.worker
      { s with shared := { s.shared with subagents := sub } } where
  launch := h.launch
  base_le := h.base_le
  model := h.model
  manager := hmanager.mono fun _ hid => update_ne_none (.inl hid)
  issued id' e hΦ' := by
    obtain ⟨sp', φ''⟩ := e
    obtain ⟨φ₀, hΦ₀⟩ := rephase_some hΦ hΦ'
    exact h.issued id' _ hΦ₀
  complete j hj hjle := update_ne_none (.inl (h.complete j hj hjle))
  running id' sp' φ'' hΦ' := by
    obtain ⟨φ₀, hΦ₀⟩ := rephase_some hΦ hΦ'
    exact h.running id' sp' φ₀ hΦ₀
  worker id' sp' φ'' hΦ' := by
    obtain ⟨φ₀, hΦ₀⟩ := rephase_some hΦ hΦ'
    exact h.worker id' sp' φ₀ hΦ₀
  distinct id₁ id₂ sp₁ sp₂ φ₁ φ₂ hΦ₁ hΦ₂ hw := by
    obtain ⟨φ₁', hΦ₁'⟩ := rephase_some hΦ hΦ₁
    obtain ⟨φ₂', hΦ₂'⟩ := rephase_some hΦ hΦ₂
    exact h.distinct id₁ id₂ sp₁ sp₂ φ₁' φ₂' hΦ₁' hΦ₂' hw
  records id' sp' φ'' hΦ' := by
    rcases update_eq_some.1 hΦ' with ⟨rfl, rfl, rfl⟩ | ⟨hid, hΦ₀⟩
    · exact hrecord
    · exact hrecords id' sp' φ'' hid hΦ₀
  looks id' sp' φ'' hΦ' hu := by
    rcases update_eq_some.1 hΦ' with ⟨-, rfl, -⟩ | ⟨-, hΦ₀⟩
    · exact absurd rfl hu
    · exact (h.looks id' sp' φ'' hΦ₀ hu).congr rfl rfl
  others t v ht hv hdone hw := h.others t v ht hv hdone fun id' sp' φ₀ hΦ₀ => by
    obtain ⟨φ'', hΦ''⟩ := some_rephase (φ := φ') hΦ hΦ₀
    exact hw id' sp' φ'' hΦ''
  finished := h.finished
  heartbeat := h.heartbeat

/-- **A worker's entry moves on before its settlement,** with nothing else changed. -/
theorem Book.advance {s : Seen Job Deployment} {id : String} {sp : Spawn} {φ φ' : Phase}
    (h : Book M cfg base Φ sp.worker s) (hΦ : Φ id = some (sp, φ)) (hφ : ¬φ.IsSettled)
    (hφ' : ¬φ'.IsSettled) : Book M cfg base (Function.update Φ id (some (sp, φ'))) sp.worker s :=
  h.rephase hΦ s.shared.subagents h.manager
    ((recordAt_of_unsettled hφ').2 ((recordAt_of_unsettled hφ).1 (h.records id sp φ hΦ)))
    fun id' sp' φ'' _ hΦ' => h.records id' sp' φ'' hΦ'

/-- **A worker settling its own record moves its entry to the settled phase,** and returns the
settled record; the eviction that follows drops settled records only. -/
theorem Book.settle {s : Seen Job Deployment} {id : String} {sp : Spawn} {φ : Phase}
    (h : Book M cfg base Φ sp.worker s) (hΦ : Φ id = some (sp, φ)) (hφ : ¬φ.IsSettled) :
    Book M cfg base (Function.update Φ id (some (sp, .settled))) sp.worker
        { s with shared := (Subagents.settle id (sp.settlement M cfg).2 s.shared).1 } ∧
      (Subagents.settle id (sp.settlement M cfg).2 s.shared).2 = some (sp.settled M cfg) := by
  obtain ⟨cs, hm, hnd, htracked⟩ := h.manager
  set tb := TaskTable.replay cfg.budget.maxRetained cs with htb
  set o := Subagents.outcomeOf (sp.settlement M cfg).2 with ho
  have hlock : (tb.settle id o).1.Lockstep := (TaskTable.invariant_replay _ cs hnd).lockstep.settle id o
  have hrec : tb.get? id = some sp.record := by
    have hr := (recordAt_of_unsettled hφ).1 (h.records id sp φ hΦ)
    simpa only [Deployment.record?, hm, Option.bind_some] using hr
  have hrun := h.running id sp φ hΦ
  -- The settlement is one more change of the log.
  set tb' := TaskTable.replay cfg.budget.maxRetained (cs ++ [.settle id o]) with htb'
  have hstep : tb' = (tb.settle id o).1.evict cfg.budget.maxRetained := TaskTable.replay_append _ _ _
  have hsettle : Subagents.settle id (sp.settlement M cfg).2 s.shared =
      ({ s.shared with subagents := some { cfg with table := tb' } }, (tb.settle id o).2) := by
    rw [hstep]
    exact Subagents.settle_of_manager hm _ _
  have hsettled : (tb.settle id o).2 = some (sp.record.settleWith o) := by
    rw [TaskTable.settle_of_running hrec hrun]
  have hlogged : Logged cfg Φ (some { cfg with table := tb' }) := by
    refine ⟨_, rfl, ?_, ?_⟩ <;> rw [TaskTable.spawned_append_settle]
    · exact hnd
    · exact htracked
  have hnew : ∀ id', ({ s.shared with subagents := some { cfg with table := tb' } } : Deployment).record?
      id' = ((tb.settle id o).1.evict cfg.budget.maxRetained).get? id' := by
    intro id'
    simp only [Deployment.record?, Option.bind_some, hstep]
  rw [hsettle]
  refine ⟨h.rephase hΦ _ hlogged ?self ?others, hsettled⟩
  case self =>
    show _ = some (sp.record.settleWith o) ∨ _ = none
    rw [hnew]
    rcases hlock.get?_evict (TaskTable.get?_settle_self hrec hrun o) cfg.budget.maxRetained with
      hkept | ⟨hgone, -⟩
    · exact .inl hkept
    · exact .inr hgone
  case others =>
    intro id' sp' φ' hid hΦ'
    have hsame : (tb.settle id o).1.get? id' = tb.get? id' := TaskTable.get?_settle_of_ne hid o
    have hold : s.shared.record? id' = tb.get? id' := by
      simp only [Deployment.record?, hm, Option.bind_some]
    refine (h.records id' sp' φ' hΦ').of_get? (h.running id' sp' φ' hΦ') (fun r hr => ?_)
      fun hr => ?_
    · rw [hold, ← hsame] at hr
      rw [hnew]
      exact hlock.get?_evict hr _
    · rw [hold, ← hsame] at hr
      rw [hnew]
      exact hlock.get?_evict_of_none hr _

/-- **The task that ran shows its new view:** the ledger holds of every task but the next to run,
when the view fits the task's entry, or, for a task that is no worker, stays within the frame; an
ended view has nothing left to run. -/
theorem Book.setLook {s : Seen Job Deployment} (h : Book M cfg base Φ u s)
    {v : TaskView Job Deployment}
    (hfit : ∀ id sp φ, Φ id = some (sp, φ) → sp.worker = u →
      LookAt M cfg (s.setLook u (some v)) id sp φ)
    (hother : v.done = false → (∀ id sp φ, Φ id = some (sp, φ) → sp.worker ≠ u) →
      Program.Within KeepsWorkers u true v.program)
    (hdone : v.done = true → v.program = .pure ()) (u' : Nat) :
    Book M cfg base Φ u' (s.setLook u (some v)) := by
  have hl : ∀ t, t ≠ u → (s.setLook u (some v)).look t = s.look t :=
    fun t ht => Function.update_of_ne ht _ _
  have hu : (s.setLook u (some v)).look u = some v := Function.update_self _ _ _
  have hsome : ∀ t, s.look t ≠ none → (s.setLook u (some v)).look t ≠ none := by
    intro t ht
    by_cases htu : t = u
    · rw [htu, hu]
      exact Option.some_ne_none _
    · rw [hl t htu]
      exact ht
  exact
    { launch := h.launch
      base_le := h.base_le
      model := h.model
      manager := h.manager
      issued := h.issued
      complete := h.complete
      running := h.running
      worker := fun id sp φ hΦ => ⟨(h.worker id sp φ hΦ).1, hsome _ (h.worker id sp φ hΦ).2⟩
      distinct := h.distinct
      records := h.records
      looks := fun id sp φ hΦ _ => by
        by_cases hw : sp.worker = u
        · exact hfit id sp φ hΦ hw
        · exact (h.looks id sp φ hΦ hw).congr (hl _ hw) rfl
      others := fun t w _ hw hd hnw => by
        by_cases htu : t = u
        · subst htu
          rw [hu] at hw
          cases hw
          exact hother hd hnw
        · rw [hl t htu] at hw
          exact h.others t w htu hw hd hnw
      finished := fun t w _ hw hd => by
        by_cases htu : t = u
        · subst htu
          rw [hu] at hw
          cases hw
          exact hdone hd
        · rw [hl t htu] at hw
          exact h.finished t w htu hw hd
      heartbeat := fun t ht => (h.heartbeat t ht).imp_right (hsome t) }

/-- **The ledger of every task holds of every task but one,** as the main program is no task. -/
theorem Book.but {s : Seen Job Deployment} (h : Book M cfg base Φ 0 s) (h0 : s.look 0 = none)
    (u : Nat) : Book M cfg base Φ u s := by
  -- The main program's slot shows no task, and no worker sits in it.
  have hne : ∀ t v, s.look t = some v → t ≠ 0 := by
    rintro t v hv rfl
    rw [h0] at hv
    cases hv
  exact
    { h with
      looks := fun id sp φ hΦ _ => h.looks id sp φ hΦ (h.worker id sp φ hΦ).1
      others := fun t v _ hv => h.others t v (hne t v hv) hv
      finished := fun t v _ hv => h.finished t v (hne t v hv) hv }

end Own

end Workers

end ChatGateway
