import ChatGateway.Proofs.Scheduling.Moves
import Mathlib.Logic.Function.Basic

/-! # What the invariants of the executor see

An invariant of the gateway is stated over a few parts of the executor only (`Executor.seen`):
the task launcher, the shared state, the mutexes, the counter of fresh numbers, and for each
task its program, whether it has ended and whether it was cancelled (`Executor.look`). The run
queue, the timers, the clock and the scheduling flags are the executor's own business.

* `Executor.Quiet`: the executor's housekeeping (waking, queueing, firing timers, moving the
  clock, marking a task running or polled) leaves what the invariants see unchanged, so every
  invariant read through `seen` is kept by `Move.park` and `Move.yield`.
* `Executor.runTask_seen`: running a task shows the invariants exactly its poll, and then the
  task's new program or its end (`TaskView.after`).
-/

namespace ChatGateway

namespace Scheduling

variable {ι σ : Type}

/-- Whether a task has ended. -/
def TaskState.isDone : TaskState → Bool
  | .done _ => true
  | _ => false

/-- **What an invariant sees of a task:** its program, whether it has ended, whether it was
cancelled. -/
structure TaskView (ι σ : Type) where
  program : Program ι σ Unit
  done : Bool
  cancelled : Bool

/-- The view of a task. -/
def Task.view (k : Task ι σ) : TaskView ι σ := ⟨k.program, k.state.isDone, k.cancelled⟩

/-- **A task after a poll** that left `p`: ended when `p` has, otherwise waiting in `p`. -/
def TaskView.after (p : Program ι σ Unit) (cancelled : Bool) : TaskView ι σ :=
  if p.isDone then ⟨.pure (), true, cancelled⟩ else ⟨p, false, cancelled⟩

/-- **What the invariants see of an executor.** -/
structure Seen (ι σ : Type) where
  launch : ι → Program ι σ Unit
  shared : σ
  mutexes : List (Nat × MutexState)
  nextId : Nat
  look : Nat → Option (TaskView ι σ)

/-- What the invariants see once task `t`'s view is `v`. -/
def Seen.setLook (s : Seen ι σ) (t : Nat) (v : Option (TaskView ι σ)) : Seen ι σ :=
  { s with look := Function.update s.look t v }

namespace Executor

/-- The view of task `t`, if it exists; the main program has none. -/
def look (ex : Executor ι σ) (t : Nat) : Option (TaskView ι σ) := (ex.task? t).map Task.view

/-- **What the invariants see of the executor.** -/
def seen (ex : Executor ι σ) : Seen ι σ := ⟨ex.launch, ex.shared, ex.mutexes, ex.nextId, ex.look⟩

/-- **Housekeeping:** a change of the executor that its invariants do not see. -/
def Quiet (ex ex' : Executor ι σ) : Prop := ex'.seen = ex.seen

theorem Quiet.refl (ex : Executor ι σ) : Quiet ex ex := rfl

theorem Quiet.trans {ex₁ ex₂ ex₃ : Executor ι σ} (h₁ : Quiet ex₁ ex₂) (h₂ : Quiet ex₂ ex₃) :
    Quiet ex₁ ex₃ := Eq.trans h₂ h₁

/-! ## Changing one task -/

theorem task?_modifyTask (ex : Executor ι σ) (t u : Nat) (f : Task ι σ → Task ι σ) :
    (ex.modifyTask t f).task? u = if u = t then (ex.task? u).map f else ex.task? u := by
  unfold task? modifyTask
  by_cases hu : u = 0
  · simp [hu]
  · simp only [hu, if_false, Array.getElem?_modify]
    by_cases ht : t = u
    · subst ht; simp
    · simp [ht, Ne.symm ht]

/-- Changing a task by `f` shows the invariants `f`'s change of its view. -/
theorem look_modifyTask (ex : Executor ι σ) (t u : Nat) (f : Task ι σ → Task ι σ) :
    (ex.modifyTask t f).look u = if u = t then (ex.task? u).map (Task.view ∘ f) else ex.look u := by
  unfold look
  rw [task?_modifyTask]
  split <;> simp [Option.map_map]

/-- **A change of a task's flags is housekeeping.** -/
theorem modifyTask_quiet (ex : Executor ι σ) (t : Nat) (f : Task ι σ → Task ι σ)
    (hf : ∀ k, ex.task? t = some k → (f k).view = k.view) : Quiet ex (ex.modifyTask t f) := by
  have hlook : (ex.modifyTask t f).look = ex.look := by
    funext u
    rw [look_modifyTask]
    split
    · rename_i hu
      subst hu
      unfold look
      cases hk : ex.task? u with
      | none => rfl
      | some k => simp only [Option.map_some, Function.comp_apply, hf k hk]
    · rfl
  simp only [Quiet, seen, hlook]
  rfl

/-- **Waking a task is housekeeping.** -/
theorem wake_quiet (ex : Executor ι σ) (t : Nat) : Quiet ex (ex.wake t) := by
  unfold wake
  split
  · rfl
  · split
    · rename_i k hk
      split
      · rename_i hidle
        exact modifyTask_quiet ex t _ fun k' hk' => by
          rw [hk] at hk'
          cases hk'
          simp only [Task.view, hidle, TaskState.isDone]
      · exact modifyTask_quiet ex t _ fun _ _ => rfl
      · rfl
    · rfl

/-- Waking several tasks is housekeeping. -/
theorem wakeAll_quiet (ex : Executor ι σ) (ts : List Nat) : Quiet ex (ex.wakeAll ts) := by
  induction ts generalizing ex with
  | nil => rfl
  | cons t ts ih => exact (wake_quiet ex t).trans (ih (ex.wake t))

/-- Dropping timers is housekeeping. -/
theorem pruneTimers_quiet (ex : Executor ι σ) (t : Nat) (live : List Nat) :
    Quiet ex (ex.pruneTimers t live) := rfl

/-- **Firing the due timers and waking the tasks that yielded is housekeeping.** -/
theorem parkYield_quiet (ex : Executor ι σ) : Quiet ex ex.parkYield := by
  unfold parkYield fireDue
  have fired := wakeAll_quiet { ex with timers := ex.timers.filter (·.deadline > ex.now) }
    ((ex.timers.filter (·.deadline ≤ ex.now)).map (·.owner))
  exact fired.trans (wakeAll_quiet _ _)

/-- **Waiting for something to happen is housekeeping.** -/
theorem park_quiet {ex ex' : Executor ι σ} (h : ex.park = some ex') : Quiet ex ex' := by
  unfold park at h
  split at h
  · cases h
    exact parkYield_quiet ex
  · split at h
    · cases h
    · split at h
      · cases h
      · cases h
        exact parkYield_quiet { ex with now := _ }

/-- Changing a task shows the invariants only that task's new view. -/
theorem seen_modifyTask (ex : Executor ι σ) (t : Nat) (f : Task ι σ → Task ι σ) :
    (ex.modifyTask t f).seen = ex.seen.setLook t ((ex.task? t).map (Task.view ∘ f)) := by
  have hlook : (ex.modifyTask t f).look = Function.update ex.look t ((ex.task? t).map (Task.view ∘ f)) := by
    funext u
    rw [look_modifyTask, Function.update_apply]
    split
    · rename_i hu
      subst hu
      rfl
    · rfl
  simp only [seen, Seen.setLook, hlook]
  rfl

/-! ## Running a task -/

/-- **Ending a task** shows the invariants that it ended; nothing else changes for them. -/
theorem finish_seen (ex : Executor ι σ) (main : MainView) (t : Nat) (ok : Bool) :
    (ex.finish main t ok).seen =
      ex.seen.setLook t ((ex.task? t).map fun k => ⟨.pure (), true, k.cancelled⟩) := by
  unfold finish
  rw [wakeAll_quiet, pruneTimers_quiet, seen_modifyTask]
  rfl

/-- **Running a cancelled task ends it.** -/
theorem runTask_seen_of_cancelled (ex : Executor ι σ) (main : MainView) {t : Nat}
    {k : Task ι σ} (hk : ex.task? t = some k) (hc : k.cancelled = true) :
    (ex.runTask main t).seen = ex.seen.setLook t (some ⟨.pure (), true, true⟩) := by
  unfold runTask
  rw [hk]
  simp only [hc, if_true]
  rw [wakeAll_quiet, finish_seen, hk]
  simp only [Option.map_some, hc]

/-- The executor while task `t` runs. -/
def markRunning (ex : Executor ι σ) (t : Nat) : Executor ι σ :=
  ex.modifyTask t fun k => { k with state := .running, rewake := false }

/-- The task marked running is the same task, running. -/
theorem task?_markRunning (ex : Executor ι σ) {t : Nat} {k : Task ι σ} (hk : ex.task? t = some k) :
    (ex.markRunning t).task? t = some { k with state := .running, rewake := false } := by
  unfold markRunning
  rw [task?_modifyTask, if_pos rfl, hk]
  rfl

/-- After its poll a task is marked polled, its timers pruned. -/
theorem task?_markPolled (ex : Executor ι σ) (t : Nat) (l : List Nat) :
    ((ex.pruneTimers t l).modifyTask t fun k => { k with polled := true }).task? t =
      (ex.task? t).map fun k => { k with polled := true } := by
  rw [task?_modifyTask, if_pos rfl]
  rfl

/-- Marking a live task running is housekeeping. -/
theorem markRunning_quiet (ex : Executor ι σ) {t : Nat} {k : Task ι σ}
    (hk : ex.task? t = some k) (hlive : k.state.isDone = false) :
    Quiet ex (ex.markRunning t) :=
  modifyTask_quiet ex t _ fun k' hk' => by
    rw [hk] at hk'
    cases hk'
    simp only [Task.view]
    rw [hlive]
    rfl

/-- **Running a task that is not cancelled:** the invariants see its poll, from the executor
that marks it running, and then its new view. -/
theorem runTask_seen (ex : Executor ι σ) (main : MainView) {t : Nat} {k : Task ι σ}
    (hk : ex.task? t = some k) (hc : k.cancelled = false) :
    (ex.runTask main t).seen =
      let r := poll t (ex.markRunning t) k.program
      r.1.seen.setLook t ((r.1.task? t).map fun k' => TaskView.after r.2 k'.cancelled) := by
  unfold runTask
  rw [hk]
  simp only [hc, Bool.false_eq_true, if_false]
  unfold markRunning
  generalize poll t (ex.modifyTask t fun k => { k with state := .running, rewake := false })
    k.program = r
  obtain ⟨ex₁, p⟩ := r
  dsimp only
  -- Whatever `polled` says, the tasks waiting for the first poll are only woken.
  have hafter : ∀ ex₂ : Executor ι σ, (if k.polled = true then ex₂
      else ex₂.wakeAll (ex₂.waitingOn main.starts startTargets t)).seen = ex₂.seen := by
    intro ex₂
    split
    · rfl
    · exact wakeAll_quiet _ _
  rw [hafter]
  -- Marking the task polled and dropping its timers is housekeeping.
  have hquiet : ∀ l, Quiet ex₁ ((ex₁.pruneTimers t l).modifyTask t fun k => { k with polled := true }) :=
    fun l => modifyTask_quiet _ t _ fun _ _ => rfl
  -- A task that ended shows its end; one that blocked shows its new program.
  have hblocked : ∀ (l : List Nat) (q : Program ι σ Unit), q.isDone = false →
      (let ex₂ := (ex₁.pruneTimers t l).modifyTask t fun k => { k with polled := true }
       let ex₃ := ex₂.modifyTask t fun k => { k with program := q, state := .idle, rewake := false }
       if ((ex₂.task? t).any (·.rewake)) = true then ex₃.wake t else ex₃).seen =
        ex₁.seen.setLook t ((ex₁.task? t).map fun k' => TaskView.after q k'.cancelled) := by
    intro l q hq
    dsimp only
    have hset : ∀ ex₃ : Executor ι σ, (if ((((ex₁.pruneTimers t l).modifyTask t
        fun k => { k with polled := true }).task? t).any (·.rewake)) = true then ex₃.wake t
        else ex₃).seen = ex₃.seen := by
      intro ex₃
      split
      · exact wake_quiet _ _
      · rfl
    rw [hset, seen_modifyTask, hquiet, task?_markPolled, Option.map_map]
    congr 2
    funext k'
    simp only [Function.comp_apply, Task.view, TaskView.after, hq]
    rfl
  cases p with
  | pure u =>
    rw [finish_seen, hquiet, task?_markPolled, Option.map_map]
    rfl
  | panic m =>
    rw [finish_seen, hquiet, task?_markPolled, Option.map_map]
    rfl
  | _ => exact hblocked _ _ rfl

/-- **Polling the main program** shows the invariants only its poll. -/
theorem pollMain_seen {α : Type} (ex : Executor ι σ) (main : Program ι σ α) :
    (ex.pollMain main).1.seen = (poll 0 { ex with mainWoken := false } main).1.seen := rfl

/-! ## The effects of a poll -/

/-- A timer takes a fresh number. -/
theorem addTimer_seen (ex : Executor ι σ) (d me : Nat) :
    (ex.addTimer d me).1.seen = { ex.seen with nextId := ex.nextId + 1 } := rfl

/-- A yield is housekeeping. -/
theorem defer_quiet (ex : Executor ι σ) (me : Nat) : Quiet ex (ex.defer me) := rfl

/-- **A spawned task** shows the invariants a new task, not ended nor cancelled, that runs its
job; it takes the first slot past the others. -/
theorem look_spawnTask (ex : Executor ι σ) (job : ι) (u : Nat) :
    (ex.spawnTask job).1.look u =
      if u = ex.tasks.size ∧ u ≠ 0 then some ⟨ex.launch job, false, false⟩ else ex.look u := by
  unfold spawnTask look task?
  by_cases hu : u = 0
  · simp [hu]
  · simp only [hu, if_false, Array.getElem?_push, ne_eq, not_false_eq_true, and_true]
    split
    · rfl
    · rfl

/-- The slot a spawned task takes. -/
theorem spawnTask_id (ex : Executor ι σ) (job : ι) : (ex.spawnTask job).2 = ex.tasks.size := rfl

/-- Spawning changes nothing else the invariants see. -/
theorem spawnTask_seen (ex : Executor ι σ) (job : ι) :
    (ex.spawnTask job).1.seen = { ex.seen with look := (ex.spawnTask job).1.look } := rfl

/-- **Cancelling a task** marks it cancelled unless it has ended; nothing else changes for the
invariants. -/
theorem abortTask_seen (ex : Executor ι σ) (t : Nat) :
    (ex.abortTask t).seen =
      if (ex.outcome? t).isSome then ex.seen
      else ex.seen.setLook t ((ex.task? t).map fun k => { k.view with cancelled := true }) := by
  unfold abortTask
  split
  · rename_i ok hok
    simp [hok]
  · rename_i hnone
    simp only [hnone, Option.isSome_none, Bool.false_eq_true, if_false]
    rw [wake_quiet, seen_modifyTask]
    rfl

/-- Cancelling a task changes only what the invariants see of the tasks. -/
theorem abortTask_seen_eq (ex : Executor ι σ) (t : Nat) :
    (ex.abortTask t).seen = { ex.seen with look := (ex.abortTask t).look } := by
  have hlook : (ex.abortTask t).look = (ex.abortTask t).seen.look := rfl
  rw [hlook, abortTask_seen]
  split <;> rfl

/-- **What cancelling shows of each task:** the task, if it has not ended, is marked
cancelled. -/
theorem look_abortTask (ex : Executor ι σ) (t u : Nat) :
    (ex.abortTask t).look u =
      if u = t ∧ (ex.outcome? t).isNone then (ex.look u).map fun v => { v with cancelled := true }
      else ex.look u := by
  have h : (ex.abortTask t).look u = (ex.abortTask t).seen.look u := rfl
  rw [h, abortTask_seen]
  by_cases hdone : (ex.outcome? t).isSome
  · have hnone : (ex.outcome? t).isNone = false := by
      rw [← Option.not_isSome, hdone, Bool.not_true]
    simp only [hdone, hnone, if_true, Bool.false_eq_true, and_false, if_false]
    rfl
  · have hnone : (ex.outcome? t).isNone = true := by simpa using hdone
    simp only [hdone, hnone, Bool.false_eq_true, if_false, and_true, Seen.setLook]
    by_cases hu : u = t
    · subst hu
      simp only [Function.update_self, if_true, look, Option.map_map]
      rfl
    · simp only [Function.update_of_ne hu, hu, if_false]
      rfl

/-- Setting a mutex changes only the mutexes. -/
theorem setMutex_seen (ex : Executor ι σ) (m : Nat) (s : MutexState) :
    (ex.setMutex m s).seen = { ex.seen with mutexes := (m, s) :: ex.mutexes.filter (·.1 != m) } :=
  rfl

end Executor

end Scheduling

end ChatGateway
