import ChatGateway.Proofs.Subagent.Ledger

/-! # The counter of task ids never goes back

Sub-agent task ids are generated from a counter in the deployment, which a spawn moves one on.
Nothing else writes it, not even a worker's settlement of its own record: `KeepsCounter` is the
frame of every step of every task. Every task runs a job from the launcher, so every move of the
executor keeps every task within the frame (`CounterKept`), and along any run the counter only
grows. The ledger of the sub-agents needs this to see that a bound on the ids generated by the end
of a run bounds those generated at every step before.

* `KeepsCounter.job_within`: every job's program stays within the frame, a worker's too.
* `CounterKept.move`, `CounterKept.reaches`: every move keeps every task within the frame and
  does not move the counter back; `CounterKept.of_start`: so from the start of a deployment.
-/

namespace ChatGateway

open Scheduling Scheduling.Executor

/-- **A larger frame admits all routine work.** -/
theorem Routine.mono {A B : Exec → Exec → Prop} {me : Nat} (hA : Routine A me)
    (hAB : ∀ ex ex', A ex ex' → B ex ex') : Routine B me where
  stay ex := hAB _ _ (hA.stay ex)
  timer ex d := hAB _ _ (hA.timer ex d)
  defer ex := hAB _ _ (hA.defer ex)
  wake ex := hAB _ _ (hA.wake ex)
  chore ex f hf := hAB _ _ (hA.chore ex f hf)
  spawned ex task label channel chatId := hAB _ _ (hA.spawned ex task label channel chatId)
  published ex e := hAB _ _ (hA.published ex e)

/-- A settlement leaves the counter of task ids alone. -/
theorem Subagents.settle_nextTaskId (id : String)
    (r : Except String (Option (Except String RunResult))) (d : Deployment) :
    (Subagents.settle id r d).1.nextTaskId = d.nextTaskId := by
  unfold Subagents.settle
  split <;> rfl

/-- What is left of a program within a frame, as a task shows it, is within the frame. -/
theorem Scheduling.TaskView.program_after_within {A : Exec → Exec → Prop} {me : Nat}
    {p : Program Job Deployment Unit} (hp : Program.Within A me true p) (c : Bool) :
    Program.Within A me true (TaskView.after p c).program := by
  unfold TaskView.after
  split
  · exact .pure ()
  · exact hp

/-! ## (1) The frame -/

/-- **A step as the counter of task ids sees it:** the launcher stays, no slot is dropped, the
counter does not go back, every task keeps its program and whether it ended, and a new task runs
a job from the launcher. -/
structure KeepsCounter (ex ex' : Exec) : Prop where
  launch : ex'.launch = ex.launch
  size : ex.tasks.size ≤ ex'.tasks.size
  next : ex.shared.nextTaskId ≤ ex'.shared.nextTaskId
  tasks : ∀ t v, ex.look t = some v → ∃ c, ex'.look t = some { v with cancelled := c }
  fresh : ex.tasks.size ≠ 0 → ∀ t v, ex.look t = none → ex'.look t = some v →
    ∃ j c, v = ⟨ex.launch j, false, c⟩

namespace KeepsCounter

/-- **Work that leaves the workers alone keeps the counter:** it keeps it, or is a spawn, whose
worker runs a job. -/
theorem of_keepsWorkers {ex ex' : Exec} (h : KeepsWorkers ex ex') : KeepsCounter ex ex' where
  launch := h.launch
  size := h.size
  next := KeepsWorkers.nextTaskId_le h
  tasks t v hv := (h.tasks t v hv).imp fun _ hc => hc.1
  fresh hsize t v hn hv := by
    rcases h.registered with ⟨-, hnext⟩ | ⟨_, _, _, _, -, -, hlook, honly⟩
    · obtain ⟨j, c, rfl, -⟩ := h.fresh hnext t v hn hv
      exact ⟨j, c, rfl⟩
    · obtain rfl := honly t v hn hv
      rw [hlook hsize] at hv
      exact ⟨_, false, (Option.some.inj hv).symm⟩

/-- A worker's settlement of its own record keeps the counter. -/
theorem settle (ex : Exec) (id : String) (r : Except String (Option (Except String RunResult))) :
    KeepsCounter ex { ex with shared := (Subagents.settle id r ex.shared).1 } where
  launch := rfl
  size := Nat.le_refl _
  next := Nat.le_of_eq (Subagents.settle_nextTaskId id r ex.shared).symm
  tasks t v hv := ⟨v.cancelled, hv⟩
  fresh _ t v h h' := by
    change ex.look t = some v at h'
    rw [h] at h'
    cases h'

/-- **Routine work keeps the counter.** -/
theorem routine (me : Nat) : Routine KeepsCounter me :=
  (KeepsWorkers.routine me).mono fun _ _ => of_keepsWorkers

/-- **Every job's program keeps the counter,** a worker's too. -/
theorem job_within (me : Nat) (j : Job) : Program.Within KeepsCounter me true (Job.program j) := by
  by_cases hj : ∃ id, j = .subagent id
  · obtain ⟨id, rfl⟩ := hj
    exact Subagents.run_within (routine me) id (settle · id)
  · exact (KeepsWorkers.job_within me j fun id h => hj ⟨id, h⟩).mono fun _ _ => of_keepsWorkers

end KeepsCounter

/-! ## (2) Every task keeps the counter -/

/-- **Every task keeps the counter:** the launcher runs jobs, and every task runs a program within
the frame. -/
structure CounterKept (s : Seen Job Deployment) : Prop where
  launch : s.launch = Job.program
  tasks : ∀ t v, s.look t = some v → Program.Within KeepsCounter t true v.program

namespace CounterKept

variable {ex ex' : Exec}

theorem start (d : Deployment) : CounterKept (Executor.start Job.program d).seen where
  launch := rfl
  tasks t v hv := by
    rw [show (Executor.start Job.program d).seen.look t = none from ChatLocks.look_start d t] at hv
    cases hv

/-- One task shows a program within the frame, or none. -/
theorem setLook {s : Seen Job Deployment} (h : CounterKept s) {u : Nat}
    {o : Option (TaskView Job Deployment)}
    (ho : ∀ v, o = some v → Program.Within KeepsCounter u true v.program) :
    CounterKept (s.setLook u o) where
  launch := h.launch
  tasks t v hv := by
    by_cases htu : t = u
    · subst htu
      exact ho v (by simpa only [Seen.setLook, Function.update_self] using hv)
    · exact h.tasks t v (by simpa only [Seen.setLook, Function.update_of_ne htu] using hv)

/-- **A step of the frame keeps every task within it:** a task keeps its program, and a new one
runs a job. -/
theorem step (h : CounterKept ex.seen) (hsize : ex.tasks.size ≠ 0) (hk : KeepsCounter ex ex') :
    CounterKept ex'.seen where
  launch := hk.launch.trans h.launch
  tasks t v hv := by
    have hv : ex'.look t = some v := hv
    cases hv₀ : ex.look t with
    | some v₀ =>
      obtain ⟨c, hc⟩ := hk.tasks t v₀ hv₀
      rw [hc] at hv
      cases hv
      exact h.tasks t v₀ hv₀
    | none =>
      obtain ⟨j, c, rfl⟩ := hk.fresh hsize t v hv₀ hv
      have hl : ex.launch = Job.program := h.launch
      show Program.Within KeepsCounter t true (ex.launch j)
      rw [hl]
      exact KeepsCounter.job_within t j

/-- Steps of the frame keep every task within it, and move the counter on only. -/
theorem reach (h : CounterKept ex.seen) (hsize : ex.tasks.size ≠ 0)
    (hr : Relation.ReflTransGen KeepsCounter ex ex') :
    CounterKept ex'.seen ∧ ex'.tasks.size ≠ 0 ∧ ex.shared.nextTaskId ≤ ex'.shared.nextTaskId := by
  induction hr with
  | refl => exact ⟨h, hsize, Nat.le_refl _⟩
  | tail _ hstep ih =>
    obtain ⟨h₁, hsize₁, hnext₁⟩ := ih
    have := hstep.size
    exact ⟨h₁.step hsize₁ hstep, by omega, Nat.le_trans hnext₁ hstep.next⟩

/-- **A run of any task keeps every task within the frame,** and the counter does not go back. -/
theorem runTask (h : CounterKept ex.seen) (hsize : ex.tasks.size ≠ 0) (main : MainView) (u : Nat) :
    CounterKept (ex.runTask main u).seen ∧ (ex.runTask main u).tasks.size ≠ 0 ∧
      ex.shared.nextTaskId ≤ (ex.runTask main u).shared.nextTaskId := by
  have hsize' : (ex.runTask main u).tasks.size ≠ 0 := by
    have := (runTask_keepsEndedBut ex main u).size
    omega
  cases hk : ex.task? u with
  | none =>
    have hex : ex.runTask main u = ex := by
      unfold Executor.runTask
      rw [hk]
    rw [hex]
    exact ⟨h, hsize, Nat.le_refl _⟩
  | some k =>
    cases hc : k.cancelled with
    | true =>
      -- A cancelled task ends, with nothing left to run.
      have hseen := runTask_seen_of_cancelled ex main hk hc
      refine ⟨?_, hsize', Nat.le_of_eq (congrArg (fun s => s.shared.nextTaskId) hseen).symm⟩
      rw [hseen]
      exact h.setLook fun v hv => by
        cases hv
        exact .pure ()
    | false =>
      -- Marked running, the task keeps its program; its poll stays within the frame.
      have hwithin : Program.Within KeepsCounter u true k.program :=
        h.tasks u k.view (by simp only [seen, look, hk, Option.map_some])
      obtain ⟨ex₁, hex₁⟩ : ∃ ex₁, ex.markRunning u = ex₁ := ⟨_, rfl⟩
      have h₁ : CounterKept ex₁.seen := by
        rw [← hex₁]
        unfold markRunning
        rw [seen_modifyTask, hk]
        exact h.setLook fun v hv => by
          cases hv
          exact hwithin
      have hsize₁ : ex₁.tasks.size ≠ 0 := by
        rw [← hex₁]
        simpa only [markRunning, modifyTask, Array.size_modify] using hsize
      have hshared₁ : ex₁.shared = ex.shared := by
        rw [← hex₁]
        rfl
      obtain ⟨hreach, hres⟩ := hwithin.poll_spec ex₁
      obtain ⟨h₂, -, hnext₂⟩ := h₁.reach hsize₁ hreach
      have hseen := runTask_seen ex main hk hc
      rw [hex₁] at hseen
      have hshared : (ex.runTask main u).shared = (poll u ex₁ k.program).1.shared :=
        congrArg Seen.shared hseen
      refine ⟨?_, hsize', ?_⟩
      · rw [hseen]
        refine h₂.setLook fun v hv => ?_
        obtain ⟨k', -, rfl⟩ := Option.map_eq_some_iff.1 hv
        exact TaskView.program_after_within hres _
      · rw [hshared, ← hshared₁]
        exact hnext₂

/-- **Every move keeps every task and the main program within the frame,** and the counter does
not go back. -/
theorem move {α : Type} {c c' : Exec × Program Job Deployment α} (h : CounterKept c.1.seen)
    (hsize : c.1.tasks.size ≠ 0) (hmain : Program.Within KeepsCounter 0 true c.2) (hm : Move c c') :
    CounterKept c'.1.seen ∧ c'.1.tasks.size ≠ 0 ∧ Program.Within KeepsCounter 0 true c'.2 ∧
      c.1.shared.nextTaskId ≤ c'.1.shared.nextTaskId := by
  cases hm with
  | @main ex main _ =>
    obtain ⟨hreach, hres⟩ := hmain.poll_spec { ex with mainWoken := false }
    obtain ⟨h', hsize', hnext⟩ := @reach { ex with mainWoken := false } _ h hsize hreach
    exact ⟨h', hsize', hres, hnext⟩
  | @task ex main u _ =>
    obtain ⟨h', hsize', hnext⟩ :=
      @runTask { ex with queue := ex.queue.erase u } h hsize (viewOf main) u
    exact ⟨h', hsize', hmain, hnext⟩
  | @park ex ex' _ hp =>
    have hq := park_quiet hp
    have hsize' : ex'.tasks.size ≠ 0 := by
      have := (KeepsEnded.park hp).size
      have : ex.tasks.size ≠ 0 := hsize
      omega
    exact ⟨hq ▸ h, hsize', hmain,
      Nat.le_of_eq (congrArg (fun s => s.shared.nextTaskId) hq).symm⟩
  | @yield ex _ =>
    have hq := parkYield_quiet ex
    have hsize' : ex.parkYield.tasks.size ≠ 0 := by
      have := (KeepsEnded.parkYield ex).size
      have : ex.tasks.size ≠ 0 := hsize
      omega
    exact ⟨hq ▸ h, hsize', hmain,
      Nat.le_of_eq (congrArg (fun s => s.shared.nextTaskId) hq).symm⟩

/-- **Along any run the counter of task ids only grows,** every task and the main program
staying within the frame. -/
theorem reaches {α : Type} {c c' : Exec × Program Job Deployment α} (h : CounterKept c.1.seen)
    (hsize : c.1.tasks.size ≠ 0) (hmain : Program.Within KeepsCounter 0 true c.2)
    (hr : Reaches c c') :
    CounterKept c'.1.seen ∧ c'.1.tasks.size ≠ 0 ∧ Program.Within KeepsCounter 0 true c'.2 ∧
      c.1.shared.nextTaskId ≤ c'.1.shared.nextTaskId := by
  induction hr with
  | refl => exact ⟨h, hsize, hmain, Nat.le_refl _⟩
  | tail _ hstep ih =>
    obtain ⟨h₁, hsize₁, hmain₁, hnext₁⟩ := ih
    obtain ⟨h₂, hsize₂, hmain₂, hnext₂⟩ := h₁.move hsize₁ hmain₁ hstep
    exact ⟨h₂, hsize₂, hmain₂, Nat.le_trans hnext₁ hnext₂⟩

/-- **From the start of a deployment every task keeps the counter** along any run whose main
program keeps it, so the counter only grows from there. -/
theorem of_start {α : Type} {d : Deployment} {main : Act α}
    (hmain : Program.Within KeepsCounter 0 true main) {c : Exec × Act α}
    (h : Reaches (Executor.start Job.program d, main) c) :
    CounterKept c.1.seen ∧ c.1.tasks.size ≠ 0 ∧ Program.Within KeepsCounter 0 true c.2 := by
  obtain ⟨hC, hsize, hm, -⟩ := (start d).reaches (by simp [Executor.start]) hmain h
  exact ⟨hC, hsize, hm⟩

end CounterKept

end ChatGateway
