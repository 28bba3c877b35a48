import ChatGateway.Proofs.Scheduling.Within
import ChatGateway.Proofs.Scheduling.Seen

/-! # Tasks that have ended

The executor leaves a task alone unless it runs it: waking and cancelling change only a task's
flags, so no effect of any program ends a task, changes the record of one that has ended, or
forgets that a task was polled. Running a task changes only its own record: afterwards it has
been polled, and it has ended as a success if its poll finished with a value.

* `Executor.TaskKept`: how a task's record may change while the task is not run;
  `Executor.KeepsEnded`: every record is kept so, and `Program.within_keepsEnded` says that the
  effects of every program are such changes.
* `Executor.afterPoll`: what a run does once the task's poll is over (`Executor.runTask_eq`);
  `Executor.runTask_keepsEndedBut`, `Executor.runTask_polled`: what running a task does to the
  other tasks and to itself.
-/

namespace ChatGateway

namespace Scheduling

variable {ι σ : Type}

namespace Executor

/-- How a task's record says it ended, if it has. -/
theorem outcome?_of_task? {ex : Executor ι σ} {t : Nat} {k : Task ι σ} (hk : ex.task? t = some k) :
    ex.outcome? t = match k.state with
      | .done ok => some ok
      | _ => none := by
  unfold outcome?
  rw [hk]
  cases k with
  | mk program state polled cancelled rewake => cases state <;> rfl

/-- A task that has not ended has no outcome. -/
theorem isDone_of_outcome?_none {ex : Executor ι σ} {t : Nat} (h : ex.outcome? t = none) :
    ∃ k, ex.task? t = some k ∧ k.state.isDone = false := by
  cases hk : ex.task? t with
  | none =>
    unfold outcome? at h
    rw [hk] at h
    cases h
  | some k =>
    rw [outcome?_of_task? hk] at h
    refine ⟨k, rfl, ?_⟩
    cases hs : k.state with
    | done ok => rw [hs] at h; cases h
    | idle => rfl
    | queued => rfl
    | running => rfl

/-- A spawned task takes the first slot past the others, queued to run its job. -/
theorem task?_spawnTask (ex : Executor ι σ) (job : ι) (u : Nat) :
    (ex.spawnTask job).1.task? u =
      if u = ex.tasks.size ∧ u ≠ 0 then some { program := ex.launch job, state := .queued }
      else ex.task? u := by
  unfold spawnTask task?
  by_cases hu : u = 0
  · simp [hu]
  · simp only [hu, if_false, Array.getElem?_push, ne_eq, not_false_eq_true, and_true]

/-- **How a task's record may change while the task itself is not run:** a task that has ended
keeps its record, no task ends, and a task stays, polled or not as it was. -/
structure TaskKept (r r' : Option (Task ι σ)) : Prop where
  ended : ∀ k, r = some k → k.state.isDone = true → r' = some k
  none_new : ∀ k, r' = some k → k.state.isDone = true → r = some k
  polled : ∀ k, r = some k → ∃ k', r' = some k' ∧ k'.polled = k.polled

namespace TaskKept

theorem refl (r : Option (Task ι σ)) : TaskKept r r :=
  ⟨fun _ h _ => h, fun _ h _ => h, fun k h => ⟨k, h, rfl⟩⟩

theorem trans {r₁ r₂ r₃ : Option (Task ι σ)} (h₁ : TaskKept r₁ r₂) (h₂ : TaskKept r₂ r₃) :
    TaskKept r₁ r₃ where
  ended k hk hd := h₂.ended k (h₁.ended k hk hd) hd
  none_new k hk hd := h₁.none_new k (h₂.none_new k hk hd) hd
  polled k hk := by
    obtain ⟨k₂, hk₂, hp₂⟩ := h₁.polled k hk
    obtain ⟨k₃, hk₃, hp₃⟩ := h₂.polled k₂ hk₂
    exact ⟨k₃, hk₃, hp₃.trans hp₂⟩

/-- Changing a task that has not ended into one that has not ended, as polled as it was. -/
theorem map {r : Option (Task ι σ)} (f : Task ι σ → Task ι σ)
    (hf : ∀ k, r = some k → k.state.isDone = false ∧ (f k).state.isDone = false ∧
      (f k).polled = k.polled) :
    TaskKept r (r.map f) where
  ended k hk hd := by
    rw [(hf k hk).1] at hd
    cases hd
  none_new k hk hd := by
    cases r with
    | none => cases hk
    | some k₀ =>
      cases hk
      rw [(hf k₀ rfl).2.1] at hd
      cases hd
  polled k hk := ⟨f k, by rw [hk]; rfl, (hf k hk).2.2⟩

end TaskKept

/-- **A change that keeps the ended tasks:** no slot is dropped, and every task's record is
kept in the sense of `TaskKept`. -/
structure KeepsEnded (ex ex' : Executor ι σ) : Prop where
  size : ex.tasks.size ≤ ex'.tasks.size
  task : ∀ t, TaskKept (ex.task? t) (ex'.task? t)

/-- The same for every task but `t`, the one that runs. -/
structure KeepsEndedBut (t : Nat) (ex ex' : Executor ι σ) : Prop where
  size : ex.tasks.size ≤ ex'.tasks.size
  task : ∀ u, u ≠ t → TaskKept (ex.task? u) (ex'.task? u)

namespace KeepsEnded

theorem refl (ex : Executor ι σ) : KeepsEnded ex ex := ⟨Nat.le_refl _, fun _ => .refl _⟩

theorem trans {ex₁ ex₂ ex₃ : Executor ι σ} (h₁ : KeepsEnded ex₁ ex₂) (h₂ : KeepsEnded ex₂ ex₃) :
    KeepsEnded ex₁ ex₃ :=
  ⟨Nat.le_trans h₁.size h₂.size, fun t => (h₁.task t).trans (h₂.task t)⟩

theorem of_reach {ex ex' : Executor ι σ} (h : Relation.ReflTransGen KeepsEnded ex ex') :
    KeepsEnded ex ex' := by
  induction h with
  | refl => exact refl ex
  | tail _ hstep ih => exact ih.trans hstep

theorem but {ex ex' : Executor ι σ} (h : KeepsEnded ex ex') (t : Nat) : KeepsEndedBut t ex ex' :=
  ⟨h.size, fun u _ => h.task u⟩

/-- Only the tasks matter. -/
theorem of_tasks {ex ex' : Executor ι σ} (h : ex'.tasks = ex.tasks) : KeepsEnded ex ex' := by
  refine ⟨Nat.le_of_eq (by rw [h]), fun t => ?_⟩
  have htask : ex'.task? t = ex.task? t := by simp only [task?, h]
  rw [htask]
  exact .refl _

theorem of_tasks_left {ex ex₁ ex₂ : Executor ι σ} (h₂ : KeepsEnded ex₁ ex₂) (h : ex₁.tasks = ex.tasks) :
    KeepsEnded ex ex₂ :=
  (of_tasks h).trans h₂

/-- Changing a task that has not ended into one that has not ended, as polled as it was. -/
theorem modifyTask (ex : Executor ι σ) (t : Nat) (f : Task ι σ → Task ι σ)
    (hf : ∀ k, ex.task? t = some k → k.state.isDone = false ∧ (f k).state.isDone = false ∧
      (f k).polled = k.polled) :
    KeepsEnded ex (ex.modifyTask t f) := by
  refine ⟨by simp [Executor.modifyTask], fun u => ?_⟩
  rw [task?_modifyTask]
  split
  · rename_i hu
    subst hu
    exact .map f hf
  · exact .refl _

/-- **Waking a task** leaves the ended ones alone. -/
theorem wake (ex : Executor ι σ) (t : Nat) : KeepsEnded ex (ex.wake t) := by
  unfold Executor.wake
  split
  · exact of_tasks rfl
  · split
    · rename_i k hk
      split
      · rename_i hidle
        have hmod := modifyTask ex t (fun k => { k with state := .queued }) fun k' hk' => by
          rw [hk] at hk'
          cases hk'
          simp [hidle, TaskState.isDone]
        exact hmod.trans (of_tasks rfl)
      · rename_i hrun
        refine modifyTask ex t _ fun k' hk' => ?_
        rw [hk] at hk'
        cases hk'
        simp [hrun, TaskState.isDone]
      · exact refl ex
    · exact refl ex

theorem wakeAll (ex : Executor ι σ) (ts : List Nat) : KeepsEnded ex (ex.wakeAll ts) := by
  induction ts generalizing ex with
  | nil => exact refl ex
  | cons t ts ih => exact (wake ex t).trans (ih (ex.wake t))

theorem spawnTask (ex : Executor ι σ) (job : ι) : KeepsEnded ex (ex.spawnTask job).1 := by
  refine ⟨by simp [Executor.spawnTask], fun u => ?_⟩
  rw [task?_spawnTask]
  split
  · rename_i hu
    -- The new slot held no task, and the new task has not ended.
    have hnone : ex.task? u = none := by simp [task?, hu.1]
    rw [hnone]
    refine ⟨fun _ h => ?_, fun _ h hd => ?_, fun _ h => ?_⟩
    · cases h
    · cases h
      cases hd
    · cases h
  · exact .refl _

/-- **Cancelling a task** leaves the ended ones alone: an ended task is not touched. -/
theorem abortTask (ex : Executor ι σ) (t : Nat) : KeepsEnded ex (ex.abortTask t) := by
  unfold Executor.abortTask
  split
  · exact refl ex
  · rename_i hnone
    obtain ⟨k, hk, hlive⟩ := isDone_of_outcome?_none hnone
    refine (modifyTask ex t _ fun k' hk' => ?_).trans (wake _ t)
    rw [hk] at hk'
    cases hk'
    exact ⟨hlive, hlive, rfl⟩

theorem release (ex : Executor ι σ) (m : Nat) : KeepsEnded ex (ex.release m) := by
  unfold Executor.release
  split
  · exact of_tasks rfl
  · exact of_tasks_left (wake _ _) rfl

theorem pruneTimers (ex : Executor ι σ) (t : Nat) (live : List Nat) :
    KeepsEnded ex (ex.pruneTimers t live) := of_tasks rfl

theorem fireDue (ex : Executor ι σ) : KeepsEnded ex ex.fireDue := of_tasks_left (wakeAll _ _) rfl

theorem parkYield (ex : Executor ι σ) : KeepsEnded ex ex.parkYield :=
  (fireDue ex).trans (of_tasks_left (wakeAll _ _) rfl)

theorem park {ex ex' : Executor ι σ} (h : ex.park = some ex') : KeepsEnded ex ex' := by
  unfold Executor.park at h
  split at h
  · cases h
    exact parkYield ex
  · split at h
    · cases h
    · split at h
      · cases h
      · cases h
        exact of_tasks_left (parkYield _) rfl

end KeepsEnded

namespace KeepsEndedBut

theorem trans {t : Nat} {ex₁ ex₂ ex₃ : Executor ι σ} (h₁ : KeepsEndedBut t ex₁ ex₂)
    (h₂ : KeepsEndedBut t ex₂ ex₃) : KeepsEndedBut t ex₁ ex₃ :=
  ⟨Nat.le_trans h₁.size h₂.size, fun u hu => (h₁.task u hu).trans (h₂.task u hu)⟩

/-- Changing the running task is not seen by the others. -/
theorem modifyTask (ex : Executor ι σ) (t : Nat) (f : Task ι σ → Task ι σ) :
    KeepsEndedBut t ex (ex.modifyTask t f) := by
  refine ⟨by simp [Executor.modifyTask], fun u hu => ?_⟩
  rw [task?_modifyTask, if_neg hu]
  exact .refl _

/-- Ending the running task and waking those that wait for it. -/
theorem finish (ex : Executor ι σ) (main : MainView) (t : Nat) (ok : Bool) :
    KeepsEndedBut t ex (ex.finish main t ok) := by
  unfold Executor.finish
  dsimp only
  exact (modifyTask ex t _).trans (((KeepsEnded.pruneTimers _ t []).trans (KeepsEnded.wakeAll _ _)).but t)

end KeepsEndedBut

theorem lockAttempt_tasks (ex : Executor ι σ) (me m : Nat) : (ex.lockAttempt me m).tasks = ex.tasks := by
  unfold lockAttempt
  dsimp only
  split <;> rfl

end Executor

open Executor

/-- **Every program's effects keep the ended tasks.** -/
theorem Program.within_keepsEnded (me : Nat) {α : Type} (p : Program ι σ α) :
    Program.Within KeepsEnded me true p := by
  induction p with
  | pure a => exact .pure a
  | panic m => exact .panic m
  | step f k ih => exact .step f k (fun _ => .of_tasks rfl) ih
  | clock k ih => exact .clock k ih
  | sleepUntil d t k ih => exact .sleepUntil d t k (fun _ => .of_tasks rfl) ih
  | pending => exact .pending
  | spawn j k ih => exact .spawn j k (fun ex => .spawnTask ex j) ih
  | join t k ih => exact .join t k ih
  | started t k ih => exact .started t k ih
  | finished t k ih => exact .finished t k ih
  | abort t k ih => exact .abort t k (fun ex => .abortTask ex t) ih
  | lock m t k ih => exact .lock m t k (fun ex => .of_tasks (lockAttempt_tasks ex me m)) ih
  | unlock m k ih => exact .unlock m k (fun ex => .release ex m) ih
  | yieldNow y k ih => exact .yieldNow y k (fun _ => .of_tasks rfl) ih
  | guard inner k ihInner ih => exact .guard inner k ihInner ih
  | timeout d t inner k ihInner ih => exact .timeout d t inner k (fun _ => .of_tasks rfl) ihInner ih
  | both p q k ihP ihQ ih => exact .both p q k ihP ihQ ih
  | loop body c k ihB ihC ih => exact .loop body c k (fun ex => .wake ex me) ihB ihC ih

namespace Executor

/-- **A poll keeps the ended tasks,** whatever the program. -/
theorem poll_keepsEnded {α : Type} (me : Nat) (ex : Executor ι σ) (p : Program ι σ α) :
    KeepsEnded ex (poll me ex p).1 :=
  KeepsEnded.of_reach ((Program.within_keepsEnded me p).poll_spec ex).1

/-! ## Running a task -/

/-- **Ending a task** leaves it ended with the finished program. -/
theorem task?_finish (ex : Executor ι σ) (main : MainView) {t : Nat} {k : Task ι σ}
    (hk : ex.task? t = some k) (ok : Bool) :
    (ex.finish main t ok).task? t = some { k with program := .pure (), state := .done ok } := by
  unfold finish
  have hmod : (ex.modifyTask t fun k => { k with program := .pure (), state := .done ok }).task? t =
      some { k with program := .pure (), state := .done ok } := by
    rw [task?_modifyTask, if_pos rfl, hk]
    rfl
  exact ((KeepsEnded.wakeAll _ _).task t).ended _ hmod rfl

/-- **What running task `t` does after its poll,** from the executor `ex` the poll left and the
program `p` it left: the task is marked polled, and ends or waits in `p`; if it had not been polled
before, the tasks waiting for its first poll are woken. -/
def afterPoll (ex : Executor ι σ) (main : MainView) (t : Nat) (polledBefore : Bool)
    (p : Program ι σ Unit) : Executor ι σ :=
  let ex := (ex.pruneTimers t p.timerIds).modifyTask t fun k => { k with polled := true }
  let ex := match p with
    | .pure () => ex.finish main t true
    | .panic _ => ex.finish main t false
    | p =>
      let again := (ex.task? t).any (·.rewake)
      let ex := ex.modifyTask t fun k =>
        { k with program := p, state := .idle, rewake := false }
      if again then ex.wake t else ex
  if polledBefore then ex else ex.wakeAll (ex.waitingOn main.starts startTargets t)

/-- **Running a task that is not cancelled** polls it, marked running, and goes on after the
poll. -/
theorem runTask_eq (ex : Executor ι σ) (main : MainView) {t : Nat} {k : Task ι σ}
    (hk : ex.task? t = some k) (hc : k.cancelled = false) :
    ex.runTask main t =
      afterPoll (poll t (ex.markRunning t) k.program).1 main t k.polled
        (poll t (ex.markRunning t) k.program).2 := by
  unfold runTask afterPoll
  rw [hk]
  simp only [hc, Bool.false_eq_true, if_false]
  rfl

/-- A task that blocked takes its new program, and may be woken; it stays as polled as it was. -/
theorem task?_blocked (ex : Executor ι σ) {t : Nat} {k : Task ι σ} (hk : ex.task? t = some k)
    (q : Program ι σ Unit) :
    ∃ k', (let again := (ex.task? t).any (·.rewake)
      let ex := ex.modifyTask t fun k => { k with program := q, state := .idle, rewake := false }
      if again then ex.wake t else ex).task? t = some k' ∧ k'.polled = k.polled := by
  have hm : (ex.modifyTask t fun k => { k with program := q, state := .idle, rewake := false }).task? t =
      some { k with program := q, state := .idle, rewake := false } := by
    rw [task?_modifyTask, if_pos rfl, hk]
    rfl
  dsimp only
  split
  · obtain ⟨k', hk', hp'⟩ := ((KeepsEnded.wake _ t).task t).polled _ hm
    exact ⟨k', hk', hp'⟩
  · exact ⟨_, hm, rfl⟩

/-- **After its poll, only the running task's record changes.** -/
theorem afterPoll_keepsEndedBut (ex : Executor ι σ) (main : MainView) (t : Nat) (b : Bool)
    (p : Program ι σ Unit) : KeepsEndedBut t ex (afterPoll ex main t b p) := by
  unfold afterPoll
  have hpolled := ((KeepsEnded.pruneTimers ex t p.timerIds).but t).trans
    (KeepsEndedBut.modifyTask (ex.pruneTimers t p.timerIds) t fun k => { k with polled := true })
  generalize (ex.pruneTimers t p.timerIds).modifyTask t (fun k => { k with polled := true }) = ex₂ at hpolled ⊢
  -- Whatever `polled` said, the tasks waiting for the first poll are only woken.
  have hafter : ∀ ex₃ : Executor ι σ, KeepsEndedBut t ex ex₃ →
      KeepsEndedBut t ex (if b = true then ex₃ else ex₃.wakeAll (ex₃.waitingOn main.starts startTargets t)) := by
    intro ex₃ h
    split
    · exact h
    · exact h.trans ((KeepsEnded.wakeAll _ _).but t)
  refine hafter _ ?_
  cases p with
  | pure u => exact hpolled.trans (KeepsEndedBut.finish _ main t true)
  | panic m => exact hpolled.trans (KeepsEndedBut.finish _ main t false)
  | _ =>
    dsimp only
    split
    · exact (hpolled.trans (KeepsEndedBut.modifyTask _ t _)).trans ((KeepsEnded.wake _ t).but t)
    · exact hpolled.trans (KeepsEndedBut.modifyTask _ t _)

/-- **After its poll the task has been polled,** and has ended as a success if its poll ended
with a value. -/
theorem afterPoll_polled (ex : Executor ι σ) (main : MainView) {t : Nat} {k : Task ι σ}
    (hk : ex.task? t = some k) (b : Bool) (p : Program ι σ Unit) :
    ∃ k', (afterPoll ex main t b p).task? t = some k' ∧ k'.polled = true ∧
      (p = .pure () → k'.state = .done true) := by
  unfold afterPoll
  have hk₂ : ((ex.pruneTimers t p.timerIds).modifyTask t fun k => { k with polled := true }).task? t =
      some { k with polled := true } := by
    rw [task?_markPolled, hk]
    rfl
  generalize (ex.pruneTimers t p.timerIds).modifyTask t (fun k => { k with polled := true }) = ex₂ at hk₂ ⊢
  -- Whatever `polled` said, the tasks waiting for the first poll are only woken.
  have hafter : ∀ ex₃ : Executor ι σ, ∀ k₃, ex₃.task? t = some k₃ → k₃.polled = true →
      ∃ k', (if b = true then ex₃
        else ex₃.wakeAll (ex₃.waitingOn main.starts startTargets t)).task? t = some k' ∧
        k'.polled = true ∧ (k₃.state.isDone = true → k' = k₃) := by
    intro ex₃ k₃ h₃ hp₃
    split
    · exact ⟨k₃, h₃, hp₃, fun _ => rfl⟩
    · obtain ⟨k', hk', hp'⟩ := ((KeepsEnded.wakeAll ex₃ _).task t).polled _ h₃
      refine ⟨k', hk', hp'.trans hp₃, fun hd => ?_⟩
      rw [((KeepsEnded.wakeAll ex₃ _).task t).ended _ h₃ hd] at hk'
      exact (Option.some.inj hk').symm
  cases p with
  | pure u =>
    obtain ⟨k', hk', hp', heq⟩ := hafter _ _ (task?_finish ex₂ main hk₂ true) rfl
    exact ⟨k', hk', hp', fun _ => by rw [heq rfl]⟩
  | panic m =>
    obtain ⟨k', hk', hp', -⟩ := hafter _ _ (task?_finish ex₂ main hk₂ false) rfl
    exact ⟨k', hk', hp', fun h => by cases h⟩
  | _ =>
    -- A blocked task takes its new program and may be woken; it stays polled.
    obtain ⟨k₃, hk₃, hp₃⟩ := task?_blocked ex₂ hk₂ _
    obtain ⟨k', hk', hp', -⟩ := hafter _ k₃ hk₃ hp₃
    exact ⟨k', hk', hp', fun h => by cases h⟩

/-- **Running a task leaves every other task's record kept.** -/
theorem runTask_keepsEndedBut (ex : Executor ι σ) (main : MainView) (t : Nat) :
    KeepsEndedBut t ex (ex.runTask main t) := by
  cases hk : ex.task? t with
  | none =>
    unfold runTask
    rw [hk]
    exact (KeepsEnded.refl ex).but t
  | some k =>
    cases hc : k.cancelled with
    | true =>
      unfold runTask
      rw [hk]
      simp only [hc, if_true]
      exact (KeepsEndedBut.finish ex main t false).trans ((KeepsEnded.wakeAll _ _).but t)
    | false =>
      -- The task is marked running, polled, and gone on with.
      rw [runTask_eq ex main hk hc]
      exact ((KeepsEndedBut.modifyTask ex t _).trans
        ((poll_keepsEnded t (ex.markRunning t) k.program).but t)).trans
        (afterPoll_keepsEndedBut _ main t _ _)

/-- **A task that runs and is not cancelled has been polled afterwards,** and has ended as a
success if its poll ended with a value. -/
theorem runTask_polled (ex : Executor ι σ) (main : MainView) {t : Nat} {k : Task ι σ}
    (hk : ex.task? t = some k) (hc : k.cancelled = false) :
    ∃ k', (ex.runTask main t).task? t = some k' ∧ k'.polled = true ∧
      ((poll t (ex.markRunning t) k.program).2 = .pure () → k'.state = .done true) := by
  rw [runTask_eq ex main hk hc]
  -- The task is there while it runs, and stays there through its poll.
  obtain ⟨k₁, hk₁, -⟩ := ((poll_keepsEnded t (ex.markRunning t) k.program).task t).polled _
    (task?_markRunning ex hk)
  exact afterPoll_polled _ main hk₁ _ _

end Executor

end Scheduling

end ChatGateway
