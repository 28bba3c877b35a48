import ChatGateway.Proofs.Scheduling.Moves
import ChatGateway.Proofs.Scheduling.Ended
import ChatGateway.Proofs.Scheduling.Seen

/-! # The executor's clock

The clock of `Scheduling.Executor` moves only in `Executor.park`, and only to the earliest timer.
The executor's own loop parks only once its run queue has run empty, so a task that a timer wakes
is polled before the clock moves again. Everything a task's poll does leaves the clock, the
timers and the run queue's tasks where they were.

* `Executor.Tidy`: timers kept in order of deadline, every queued task in the run queue, and no
  task marked running between two moves. Every move keeps it (`Executor.Tidy.move`).
* `Executor.Steady`: what a poll does to the executor: the clock and every timer stay, and each
  task keeps its program, and its state but for being woken. `Executor.poll_steady` says every
  poll is such a change, whatever the program.
* `Executor.Paced`: the moves of the executor's own loop, where the clock moves only from an empty
  run queue; `Executor.blockOn_paced` says the loop makes only such moves.
* `Executor.OnTime`: a task asleep until a deadline is kept to it: the clock has not passed the
  deadline, the task's timer is pending before it, and the task is queued at it. Running another
  task, firing timers and a paced park keep this (`Executor.OnTime.steadyBut`,
  `Executor.OnTime.parkYield`, `Executor.OnTime.park`).
* `Executor.Halted`: a task cancelled with a program left, or ended. No move runs a step of it
  (`Executor.Halted.reaches`), and cancelling a live task halts it (`Executor.abortTask_halted`).
-/

namespace ChatGateway

namespace Scheduling

namespace Executor

variable {ι σ : Type}

/-! ## (1) Timers in order of deadline -/

/-- Timers kept in order of deadline. -/
def TimersSorted (ex : Executor ι σ) : Prop :=
  ex.timers.Pairwise fun a b => a.deadline ≤ b.deadline

theorem mem_insertTimer {x tm : Timer} {l : List Timer} :
    tm ∈ insertTimer x l ↔ tm = x ∨ tm ∈ l := by
  induction l with
  | nil => simp [insertTimer]
  | cons a l ih =>
    unfold insertTimer
    split
    · simp
    · simp only [List.mem_cons, ih]
      exact or_left_comm

/-- **Inserting a timer keeps the order of deadlines.** -/
theorem pairwise_insertTimer (x : Timer) {l : List Timer}
    (h : l.Pairwise fun a b => a.deadline ≤ b.deadline) :
    (insertTimer x l).Pairwise fun a b => a.deadline ≤ b.deadline := by
  induction l with
  | nil => simp [insertTimer]
  | cons a l ih =>
    rw [List.pairwise_cons] at h
    unfold insertTimer
    split
    · rename_i hlt
      -- The new timer goes first: it is due before `a`, and so before all after `a`.
      refine List.Pairwise.cons (fun b hb => ?_) (List.Pairwise.cons h.1 h.2)
      rcases List.mem_cons.1 hb with rfl | hb
      · exact Nat.le_of_lt hlt
      · exact Nat.le_trans (Nat.le_of_lt hlt) (h.1 b hb)
    · rename_i hge
      refine List.Pairwise.cons (fun b hb => ?_) (ih h.2)
      rcases mem_insertTimer.1 hb with rfl | hb
      · exact Nat.le_of_not_lt hge
      · exact h.1 b hb

/-- The first timer is due no later than any other. -/
theorem head_deadline_le {tm : Timer} {rest : List Timer}
    (h : (tm :: rest).Pairwise fun a b => a.deadline ≤ b.deadline) {x : Timer}
    (hx : x ∈ tm :: rest) : tm.deadline ≤ x.deadline := by
  rcases List.mem_cons.1 hx with rfl | hx
  · exact Nat.le_refl _
  · exact (List.pairwise_cons.1 h).1 x hx

/-! ## (2) Tidy executors -/

/-- Every queued task waits in the run queue. -/
def QueuedListed (ex : Executor ι σ) : Prop :=
  ∀ t k, ex.task? t = some k → k.state = .queued → t ∈ ex.queue

/-- **An executor between two moves:** its timers are in order of deadline, every queued task is
in the run queue, and no task is marked running. -/
structure Tidy (ex : Executor ι σ) : Prop where
  sorted : TimersSorted ex
  listed : QueuedListed ex
  idle : ∀ t k, ex.task? t = some k → k.state ≠ .running

/-- How waking may change a task's state: an idle task may become queued. -/
def Woken (s s' : TaskState) : Prop := s' = s ∨ (s = .idle ∧ s' = .queued)

theorem Woken.refl (s : TaskState) : Woken s s := .inl rfl

theorem Woken.trans {s₁ s₂ s₃ : TaskState} (h₁ : Woken s₁ s₂) (h₂ : Woken s₂ s₃) :
    Woken s₁ s₃ := by
  rcases h₁ with rfl | ⟨rfl, rfl⟩ <;> rcases h₂ with rfl | ⟨h, rfl⟩
  · exact .refl _
  · exact .inr ⟨h, rfl⟩
  · exact .inr ⟨rfl, rfl⟩
  · cases h

/-- A queued task stays queued when woken. -/
theorem Woken.queued {s s' : TaskState} (h : Woken s s') (hs : s = .queued) : s' = .queued := by
  rcases h with rfl | ⟨rfl, -⟩
  · exact hs
  · cases hs

/-- An ended task stays as it ended when woken. -/
theorem Woken.isDone {s s' : TaskState} (h : Woken s s') : s'.isDone = s.isDone := by
  rcases h with rfl | ⟨rfl, rfl⟩ <;> rfl

/-- **How a task's record may change while another task is polled:** it keeps its program, its
state but for being woken, and a cancellation. -/
def Undisturbed (r r' : Option (Task ι σ)) : Prop :=
  ∀ k, r = some k → ∃ k', r' = some k' ∧ k'.program = k.program ∧ Woken k.state k'.state ∧
    (k.cancelled = true → k'.cancelled = true)

theorem Undisturbed.refl (r : Option (Task ι σ)) : Undisturbed r r :=
  fun k hk => ⟨k, hk, rfl, .refl _, id⟩

theorem Undisturbed.trans {r₁ r₂ r₃ : Option (Task ι σ)} (h₁ : Undisturbed r₁ r₂)
    (h₂ : Undisturbed r₂ r₃) : Undisturbed r₁ r₃ := by
  intro k hk
  obtain ⟨k₂, hk₂, hp₂, hs₂, hc₂⟩ := h₁ k hk
  obtain ⟨k₃, hk₃, hp₃, hs₃, hc₃⟩ := h₂ k₂ hk₂
  exact ⟨k₃, hk₃, hp₃.trans hp₂, hs₂.trans hs₃, hc₃ ∘ hc₂⟩

/-- **What a poll does to the executor:** the clock and every timer stay, the timers stay in
order and the queued tasks in the run queue, every task stays undisturbed, and a task that is
started is queued. -/
structure Steady (ex ex' : Executor ι σ) : Prop where
  now : ex'.now = ex.now
  timers : ∀ tm ∈ ex.timers, tm ∈ ex'.timers
  sorted : TimersSorted ex → TimersSorted ex'
  listed : QueuedListed ex → QueuedListed ex'
  task : ∀ t, Undisturbed (ex.task? t) (ex'.task? t)
  fresh : ∀ t k, ex.task? t = none → ex'.task? t = some k → k.state = .queued

namespace Steady

theorem refl (ex : Executor ι σ) : Steady ex ex :=
  ⟨rfl, fun _ h => h, id, id, fun _ => .refl _, fun _ _ h h' => by rw [h] at h'; cases h'⟩

theorem trans {ex₁ ex₂ ex₃ : Executor ι σ} (h₁ : Steady ex₁ ex₂) (h₂ : Steady ex₂ ex₃) :
    Steady ex₁ ex₃ where
  now := h₂.now.trans h₁.now
  timers tm h := h₂.timers tm (h₁.timers tm h)
  sorted h := h₂.sorted (h₁.sorted h)
  listed h := h₂.listed (h₁.listed h)
  task t := (h₁.task t).trans (h₂.task t)
  fresh t k hnone hk := by
    cases hmid : ex₂.task? t with
    | none => exact h₂.fresh t k hmid hk
    | some k₂ =>
      obtain ⟨k', hk', -, hs, -⟩ := h₂.task t k₂ hmid
      rw [hk] at hk'
      cases hk'
      exact hs.queued (h₁.fresh t k₂ hnone hmid)

theorem of_reach {ex ex' : Executor ι σ} (h : Relation.ReflTransGen Steady ex ex') :
    Steady ex ex' := by
  induction h with
  | refl => exact refl ex
  | tail _ hstep ih => exact ih.trans hstep

/-- A change of parts that neither the clock, the timers, the queue nor the tasks are. -/
theorem of_eq {ex ex' : Executor ι σ} (hn : ex'.now = ex.now) (ht : ex'.timers = ex.timers)
    (hq : ex'.queue = ex.queue) (hk : ex'.tasks = ex.tasks) : Steady ex ex' := by
  have htask : ∀ t, ex'.task? t = ex.task? t := fun t => by simp only [task?, hk]
  refine ⟨hn, fun tm h => ht ▸ h, fun h => ?_, fun h => ?_, fun t => ?_, fun t k h h' => ?_⟩
  · unfold TimersSorted
    rw [ht]
    exact h
  · intro t k hk' hq'
    rw [hq]
    exact h t k (by rw [← htask]; exact hk') hq'
  · rw [htask]
    exact .refl _
  · rw [htask, h] at h'
    cases h'

/-- Changing one task's flags: its program, its state but for being queued, and a cancellation
stay. -/
theorem modifyTask (ex : Executor ι σ) (t : Nat) (f : Task ι σ → Task ι σ)
    (hf : ∀ k, ex.task? t = some k → (f k).program = k.program ∧ (f k).state = k.state ∧
      (k.cancelled = true → (f k).cancelled = true)) :
    Steady ex (ex.modifyTask t f) := by
  have htask : ∀ u, (ex.modifyTask t f).task? u = if u = t then (ex.task? u).map f else ex.task? u :=
    fun u => task?_modifyTask ex t u f
  refine ⟨rfl, fun _ h => h, id, fun h u k hk hq => ?_, fun u => ?_, fun u k h h' => ?_⟩
  · rw [htask] at hk
    split at hk
    · rename_i hu
      subst hu
      cases hold : ex.task? u with
      | none => rw [hold] at hk; cases hk
      | some k₀ =>
        rw [hold] at hk
        cases hk
        exact h u k₀ hold ((hf k₀ hold).2.1 ▸ hq)
    · exact h u k hk hq
  · rw [htask]
    split
    · rename_i hu
      subst hu
      intro k hk
      obtain ⟨hp, hs, hc⟩ := hf k hk
      exact ⟨f k, by rw [hk]; rfl, hp, hs ▸ .refl _, hc⟩
    · exact .refl _
  · rw [htask] at h'
    split at h'
    · rw [h] at h'
      cases h'
    · rw [h] at h'
      cases h'

/-- **Queueing an idle task.** -/
theorem enqueue (ex : Executor ι σ) {t : Nat} {k : Task ι σ} (hk : ex.task? t = some k)
    (hidle : k.state = .idle) :
    Steady ex { ex.modifyTask t (fun k => { k with state := .queued }) with
      queue := ex.queue ++ [t] } := by
  have htask : ∀ u, (ex.modifyTask t fun k => { k with state := .queued }).task? u =
      if u = t then (ex.task? u).map fun k => { k with state := .queued } else ex.task? u :=
    fun u => task?_modifyTask ex t u _
  refine ⟨rfl, fun _ h => h, id, fun h u k' hk' hq => ?_, fun u => ?_, fun u k' h h' => ?_⟩
  · -- The task is queued at the end of the run queue; the others were listed already.
    change (ex.modifyTask t fun k => { k with state := .queued }).task? u = some k' at hk'
    rw [htask] at hk'
    split at hk'
    · rename_i hu
      subst hu
      exact List.mem_append_right _ (List.mem_singleton_self _)
    · exact List.mem_append_left _ (h u k' hk' hq)
  · change Undisturbed (ex.task? u) ((ex.modifyTask t fun k => { k with state := .queued }).task? u)
    rw [htask]
    split
    · rename_i hu
      subst hu
      intro k₀ hk₀
      rw [hk] at hk₀
      cases hk₀
      exact ⟨{ k with state := .queued }, by rw [hk]; rfl, rfl, .inr ⟨hidle, rfl⟩, id⟩
    · exact .refl _
  · change (ex.modifyTask t fun k => { k with state := .queued }).task? u = some k' at h'
    rw [htask] at h'
    split at h'
    · rw [h] at h'
      cases h'
    · rw [h] at h'
      cases h'

/-- **Waking a task** queues it if it is idle, and changes nothing else that matters here. -/
theorem wake (ex : Executor ι σ) (t : Nat) : Steady ex (ex.wake t) := by
  unfold Executor.wake
  split
  · exact of_eq rfl rfl rfl rfl
  · split
    · rename_i k hk
      split
      · rename_i hidle
        exact enqueue ex hk hidle
      · exact modifyTask ex t _ fun _ _ => ⟨rfl, rfl, id⟩
      · exact refl ex
    · exact refl ex

theorem wakeAll (ex : Executor ι σ) (ts : List Nat) : Steady ex (ex.wakeAll ts) := by
  induction ts generalizing ex with
  | nil => exact refl ex
  | cons t ts ih => exact (wake ex t).trans (ih (ex.wake t))

/-- Waking the tasks that wait for a task's first poll is steady, whether it had been polled or
not. -/
theorem firstPoll (ex : Executor ι σ) (main : MainView) (t : Nat) (b : Bool) :
    Steady ex (if b = true then ex else ex.wakeAll (ex.waitingOn main.starts startTargets t)) := by
  split
  · exact refl ex
  · exact wakeAll ex _

/-- A queued task stays queued. -/
theorem queued {ex ex' : Executor ι σ} (hs : Steady ex ex') {t : Nat} {k : Task ι σ}
    (hk : ex.task? t = some k) (hq : k.state = .queued) :
    ∃ k', ex'.task? t = some k' ∧ k'.state = .queued := by
  obtain ⟨k', hk', -, hw, -⟩ := hs.task t k hk
  exact ⟨k', hk', hw.queued hq⟩

/-- **Registering a timer** keeps the others, in order of deadline. -/
theorem addTimer (ex : Executor ι σ) (d me : Nat) : Steady ex (ex.addTimer d me).1 where
  now := rfl
  timers _ h := mem_insertTimer.2 (.inr h)
  sorted h := pairwise_insertTimer _ h
  listed h := h
  task _ := .refl _
  fresh _ _ h h' := by
    change ex.task? _ = some _ at h'
    rw [h] at h'
    cases h'

/-- **Starting a task** queues it at the end of the run queue. -/
theorem spawnTask (ex : Executor ι σ) (job : ι) : Steady ex (ex.spawnTask job).1 := by
  have htask := task?_spawnTask ex job
  refine ⟨rfl, fun _ h => h, id, fun h u k hk hq => ?_, fun u => ?_, fun u k h h' => ?_⟩
  · rw [htask] at hk
    split at hk
    · rename_i hu
      rw [hu.1]
      exact List.mem_append_right _ (List.mem_singleton_self _)
    · exact List.mem_append_left _ (h u k hk hq)
  · rw [htask]
    split
    · rename_i hu
      -- The new slot held no task.
      have hnone : ex.task? u = none := by simp [task?, hu.1]
      rw [hnone]
      intro k hk
      cases hk
    · exact .refl _
  · rw [htask] at h'
    split at h'
    · cases h'
      rfl
    · rw [h] at h'
      cases h'

/-- **Cancelling a task** marks it cancelled and wakes it. -/
theorem abortTask (ex : Executor ι σ) (t : Nat) : Steady ex (ex.abortTask t) := by
  unfold Executor.abortTask
  split
  · exact refl ex
  · exact (modifyTask ex t (fun k => { k with cancelled := true })
      fun _ _ => ⟨rfl, rfl, fun _ => rfl⟩).trans (wake _ t)

theorem lockAttempt (ex : Executor ι σ) (me m : Nat) : Steady ex (ex.lockAttempt me m) := by
  unfold Executor.lockAttempt
  dsimp only
  split <;> exact of_eq rfl rfl rfl rfl

theorem release (ex : Executor ι σ) (m : Nat) : Steady ex (ex.release m) := by
  unfold Executor.release
  split
  · exact of_eq rfl rfl rfl rfl
  · rename_i task ticket rest _
    have handOver : Steady ex (ex.setMutex m { holder := some ticket, waiters := rest }) :=
      of_eq rfl rfl rfl rfl
    exact handOver.trans (wake _ task)

end Steady

end Executor

open Executor

/-- **Every program's effects are steady.** -/
theorem Program.within_steady (me : Nat) {α : Type} (p : Program ι σ α) :
    Program.Within Steady me true p := by
  induction p with
  | pure a => exact .pure a
  | panic m => exact .panic m
  | step f k ih => exact .step f k (fun _ => .of_eq rfl rfl rfl rfl) ih
  | clock k ih => exact .clock k ih
  | sleepUntil d t k ih => exact .sleepUntil d t k (fun ex => .addTimer ex d me) ih
  | pending => exact .pending
  | spawn j k ih => exact .spawn j k (fun ex => .spawnTask ex j) ih
  | join t k ih => exact .join t k ih
  | started t k ih => exact .started t k ih
  | finished t k ih => exact .finished t k ih
  | abort t k ih => exact .abort t k (fun ex => .abortTask ex t) ih
  | lock m t k ih => exact .lock m t k (fun ex => .lockAttempt ex me m) ih
  | unlock m k ih => exact .unlock m k (fun ex => .release ex m) ih
  | yieldNow y k ih => exact .yieldNow y k (fun _ => .of_eq rfl rfl rfl rfl) ih
  | guard inner k ihInner ih => exact .guard inner k ihInner ih
  | timeout d t inner k ihInner ih =>
    exact .timeout d t inner k (fun ex => .addTimer ex d me) ihInner ih
  | both p q k ihP ihQ ih => exact .both p q k ihP ihQ ih
  | loop body c k ihB ihC ih => exact .loop body c k (fun ex => .wake ex me) ihB ihC ih

namespace Executor

/-- **A poll is steady,** whatever the program. -/
theorem poll_steady {α : Type} (me : Nat) (ex : Executor ι σ) (p : Program ι σ α) :
    Steady ex (poll me ex p).1 :=
  Steady.of_reach ((Program.within_steady me p).poll_spec ex).1

/-! ## (3) Running a task, seen from the others -/

/-- **What running task `u` does to the rest of the executor:** the clock stays, every timer of
another task stays, and every other task stays undisturbed. -/
structure SteadyBut (u : Nat) (ex ex' : Executor ι σ) : Prop where
  now : ex'.now = ex.now
  timers : ∀ tm ∈ ex.timers, tm.owner ≠ u → tm ∈ ex'.timers
  task : ∀ t, t ≠ u → Undisturbed (ex.task? t) (ex'.task? t)

namespace SteadyBut

theorem refl (u : Nat) (ex : Executor ι σ) : SteadyBut u ex ex :=
  ⟨rfl, fun _ h _ => h, fun _ _ => .refl _⟩

theorem trans {u : Nat} {ex₁ ex₂ ex₃ : Executor ι σ} (h₁ : SteadyBut u ex₁ ex₂)
    (h₂ : SteadyBut u ex₂ ex₃) : SteadyBut u ex₁ ex₃ :=
  ⟨h₂.now.trans h₁.now, fun tm h ho => h₂.timers tm (h₁.timers tm h ho) ho,
    fun t ht => (h₁.task t ht).trans (h₂.task t ht)⟩

theorem of_steady {ex ex' : Executor ι σ} (h : Steady ex ex') (u : Nat) : SteadyBut u ex ex' :=
  ⟨h.now, fun tm htm _ => h.timers tm htm, fun t _ => h.task t⟩

theorem modifyTask (ex : Executor ι σ) (u : Nat) (f : Task ι σ → Task ι σ) :
    SteadyBut u ex (ex.modifyTask u f) := by
  refine ⟨rfl, fun _ h _ => h, fun t ht => ?_⟩
  rw [task?_modifyTask, if_neg ht]
  exact .refl _

/-- Dropping the timers of task `u` keeps every other task's. -/
theorem pruneTimers (ex : Executor ι σ) (u : Nat) (live : List Nat) :
    SteadyBut u ex (ex.pruneTimers u live) := by
  refine ⟨rfl, fun tm h ho => List.mem_filter.2 ⟨h, by simp [ho]⟩, fun _ _ => .refl _⟩

theorem finish (ex : Executor ι σ) (main : MainView) (u : Nat) (ok : Bool) :
    SteadyBut u ex (ex.finish main u ok) := by
  unfold Executor.finish
  exact ((modifyTask ex u _).trans (pruneTimers _ u [])).trans (of_steady (Steady.wakeAll _ _) u)

theorem afterPoll (ex : Executor ι σ) (main : MainView) (u : Nat) (b : Bool)
    (p : Program ι σ Unit) : SteadyBut u ex (Executor.afterPoll ex main u b p) := by
  unfold Executor.afterPoll
  have hpolled := (pruneTimers ex u p.timerIds).trans
    (modifyTask (ex.pruneTimers u p.timerIds) u fun k => { k with polled := true })
  generalize (ex.pruneTimers u p.timerIds).modifyTask u (fun k => { k with polled := true }) = ex₂
    at hpolled ⊢
  -- Whatever `polled` said, the tasks waiting for the first poll are only woken.
  refine SteadyBut.trans ?_ (of_steady (Steady.firstPoll _ main u b) u)
  cases p with
  | pure _ => exact hpolled.trans (finish _ main u true)
  | panic _ => exact hpolled.trans (finish _ main u false)
  | _ =>
    dsimp only
    split
    · exact (hpolled.trans (modifyTask _ u _)).trans (of_steady (Steady.wake _ u) u)
    · exact hpolled.trans (modifyTask _ u _)

/-- **Running task `u` leaves the clock, the other tasks and their timers alone.** -/
theorem runTask (ex : Executor ι σ) (main : MainView) (u : Nat) :
    SteadyBut u ex (ex.runTask main u) := by
  cases hk : ex.task? u with
  | none =>
    unfold Executor.runTask
    rw [hk]
    exact refl u ex
  | some k =>
    cases hc : k.cancelled with
    | true =>
      unfold Executor.runTask
      rw [hk]
      simp only [hc, if_true]
      exact (finish ex main u false).trans (of_steady (Steady.wakeAll _ _) u)
    | false =>
      rw [runTask_eq ex main hk hc]
      exact ((modifyTask ex u _).trans (of_steady (poll_steady u _ k.program) u)).trans
        (afterPoll _ main u _ _)

/-- **Polling the main program** leaves the clock, the tasks and their timers alone. -/
theorem pollMain {α : Type} (ex : Executor ι σ) (main : Program ι σ α) :
    SteadyBut 0 ex (ex.pollMain main).1 := by
  have hoff : Steady ex { ex with mainWoken := false } := Steady.of_eq rfl rfl rfl rfl
  have hpoll := hoff.trans (poll_steady 0 { ex with mainWoken := false } main)
  unfold Executor.pollMain
  generalize poll 0 { ex with mainWoken := false } main = r at hpoll ⊢
  obtain ⟨ex₁, p⟩ := r
  exact (of_steady hpoll 0).trans (pruneTimers ex₁ 0 _)

end SteadyBut

/-! ### What running a task leaves of it -/

/-- Task `t` has not ended and has `p` left to run. -/
def LiveAs (ex : Executor ι σ) (t : Nat) (p : Program ι σ Unit) : Prop :=
  ∃ k, ex.task? t = some k ∧ k.program = p ∧ k.state.isDone = false

/-- Task `t` is queued to run, with `p` left to run. -/
def QueuedAs (ex : Executor ι σ) (t : Nat) (p : Program ι σ Unit) : Prop :=
  ∃ k, ex.task? t = some k ∧ k.program = p ∧ k.state = .queued

/-- Task `t` has ended, with nothing left of its program. -/
def Over (ex : Executor ι σ) (t : Nat) : Prop :=
  ∃ k, ex.task? t = some k ∧ k.state.isDone = true ∧ k.program = .pure ()

/-- **Task `t` will not run a step of `p`:** it is cancelled with `p` left, or has ended. -/
def Halted (ex : Executor ι σ) (t : Nat) (p : Program ι σ Unit) : Prop :=
  Over ex t ∨ ∃ k, ex.task? t = some k ∧ k.cancelled = true ∧ k.program = p

theorem LiveAs.undisturbed {ex ex' : Executor ι σ} {t : Nat} {p : Program ι σ Unit}
    (h : LiveAs ex t p) (hu : Undisturbed (ex.task? t) (ex'.task? t)) : LiveAs ex' t p := by
  obtain ⟨k, hk, hp, hd⟩ := h
  obtain ⟨k', hk', hp', hw, -⟩ := hu k hk
  exact ⟨k', hk', hp'.trans hp, hw.isDone.trans hd⟩

theorem QueuedAs.undisturbed {ex ex' : Executor ι σ} {t : Nat} {p : Program ι σ Unit}
    (h : QueuedAs ex t p) (hu : Undisturbed (ex.task? t) (ex'.task? t)) : QueuedAs ex' t p := by
  obtain ⟨k, hk, hp, hq⟩ := h
  obtain ⟨k', hk', hp', hw, -⟩ := hu k hk
  exact ⟨k', hk', hp'.trans hp, hw.queued hq⟩

theorem Over.undisturbed {ex ex' : Executor ι σ} {t : Nat} (h : Over ex t)
    (hu : Undisturbed (ex.task? t) (ex'.task? t)) : Over ex' t := by
  obtain ⟨k, hk, hd, hp⟩ := h
  obtain ⟨k', hk', hp', hw, -⟩ := hu k hk
  exact ⟨k', hk', hw.isDone.trans hd, hp'.trans hp⟩

theorem Halted.undisturbed {ex ex' : Executor ι σ} {t : Nat} {p : Program ι σ Unit}
    (h : Halted ex t p) (hu : Undisturbed (ex.task? t) (ex'.task? t)) : Halted ex' t p := by
  rcases h with hover | ⟨k, hk, hc, hp⟩
  · exact .inl (hover.undisturbed hu)
  · obtain ⟨k', hk', hp', -, hc'⟩ := hu k hk
    exact .inr ⟨k', hk', hc' hc, hp'.trans hp⟩

/-- A halted task exists, so it is not the main program. -/
theorem Halted.ne_zero {ex : Executor ι σ} {t : Nat} {p : Program ι σ Unit} (h : Halted ex t p) :
    t ≠ 0 := by
  rintro rfl
  rcases h with ⟨k, hk, -⟩ | ⟨k, hk, -⟩ <;> cases hk

theorem afterPoll_now (ex : Executor ι σ) (main : MainView) (t : Nat) (b : Bool)
    (p : Program ι σ Unit) : (afterPoll ex main t b p).now = ex.now :=
  (SteadyBut.afterPoll ex main t b p).now

/-- **A task whose poll ended is ended,** with its finished program, whatever its poll left. -/
theorem afterPoll_done {ex : Executor ι σ} (main : MainView) {t : Nat} (b : Bool)
    {p : Program ι σ Unit} (hp : p.isDone = true) {k : Task ι σ} (hk : ex.task? t = some k) :
    Over (afterPoll ex main t b p) t := by
  unfold afterPoll
  have hk₂ : ((ex.pruneTimers t p.timerIds).modifyTask t fun k => { k with polled := true }).task? t =
      some { k with polled := true } := by
    rw [task?_markPolled, hk]
    rfl
  generalize (ex.pruneTimers t p.timerIds).modifyTask t (fun k => { k with polled := true }) = ex₂
    at hk₂ ⊢
  -- The finished task is over, and waking others afterwards leaves it so.
  have hend : ∀ ok, Over (ex₂.finish main t ok) t :=
    fun ok => ⟨_, task?_finish ex₂ main hk₂ ok, rfl, rfl⟩
  cases p with
  | pure u => exact Over.undisturbed (hend true) ((Steady.firstPoll _ main t b).task t)
  | panic m => exact Over.undisturbed (hend false) ((Steady.firstPoll _ main t b).task t)
  | _ => cases hp

/-- **A task whose poll left it blocked takes the new program,** and has not ended. -/
theorem afterPoll_blocked {ex : Executor ι σ} (main : MainView) {t : Nat} (b : Bool)
    {p : Program ι σ Unit} (hp : p.isDone = false) {k : Task ι σ} (hk : ex.task? t = some k) :
    LiveAs (afterPoll ex main t b p) t p := by
  unfold afterPoll
  have hk₂ : ((ex.pruneTimers t p.timerIds).modifyTask t fun k => { k with polled := true }).task? t =
      some { k with polled := true } := by
    rw [task?_markPolled, hk]
    rfl
  generalize (ex.pruneTimers t p.timerIds).modifyTask t (fun k => { k with polled := true }) = ex₂
    at hk₂ ⊢
  have hset : LiveAs (ex₂.modifyTask t fun k =>
      { k with program := p, state := .idle, rewake := false }) t p := by
    refine ⟨{ k with polled := true, program := p, state := .idle, rewake := false }, ?_, rfl, rfl⟩
    rw [task?_modifyTask, if_pos rfl, hk₂]
    rfl
  -- The blocked task may be woken again, and others may be woken after it.
  refine hset.undisturbed ((Steady.trans ?_ (Steady.firstPoll _ main t b)).task t)
  cases p with
  | pure u => cases hp
  | panic m => cases hp
  | _ =>
    dsimp only
    split
    · exact Steady.wake _ t
    · exact Steady.refl _

/-- **After its poll a blocked task keeps the timers its program waits on.** -/
theorem afterPoll_timers {ex : Executor ι σ} (main : MainView) {t : Nat} (b : Bool)
    {p : Program ι σ Unit} (hp : p.isDone = false) {tm : Timer} (htm : tm ∈ ex.timers)
    (hid : tm.id ∈ p.timerIds) : tm ∈ (afterPoll ex main t b p).timers := by
  unfold afterPoll
  have hpruned : tm ∈ (ex.pruneTimers t p.timerIds).timers :=
    List.mem_filter.2 ⟨htm, by simp [hid]⟩
  have hpolled : tm ∈ ((ex.pruneTimers t p.timerIds).modifyTask t
      fun k => { k with polled := true }).timers := hpruned
  generalize (ex.pruneTimers t p.timerIds).modifyTask t (fun k => { k with polled := true }) = ex₂
    at hpolled ⊢
  refine (Steady.firstPoll _ main t b).timers tm ?_
  cases p with
  | pure u => cases hp
  | panic m => cases hp
  | _ =>
    dsimp only
    split
    · exact (Steady.wake _ t).timers tm hpolled
    · exact hpolled

/-- Task `t` is being polled. -/
def Running (ex : Executor ι σ) (t : Nat) : Prop :=
  ∃ k, ex.task? t = some k ∧ k.state = .running

/-- A steady change leaves a running task running. -/
theorem Running.steady {ex ex' : Executor ι σ} {t : Nat} (h : Running ex t) (hs : Steady ex ex') :
    Running ex' t := by
  obtain ⟨k, hk, hrun⟩ := h
  obtain ⟨k', hk', -, hw, -⟩ := hs.task t k hk
  refine ⟨k', hk', ?_⟩
  rcases hw with hw | ⟨hidle, -⟩
  · rw [hw, hrun]
  · rw [hrun] at hidle
    cases hidle

/-- **Waking a running task marks it to be queued again** once its poll is over. -/
theorem Running.wake {ex : Executor ι σ} {t : Nat} (h : Running ex t) :
    ∃ k, (ex.wake t).task? t = some k ∧ k.rewake = true := by
  obtain ⟨k, hk, hrun⟩ := h
  have ht : t ≠ 0 := by
    rintro rfl
    cases hk
  unfold Executor.wake
  rw [if_neg ht, hk]
  dsimp only
  rw [hrun]
  refine ⟨{ k with rewake := true }, ?_, rfl⟩
  change (ex.modifyTask t _).task? t = _
  rw [task?_modifyTask, if_pos rfl, hk]
  rfl

/-! ## (4) Every move keeps the executor tidy -/

/-- **An executor while task `u` runs:** tidy, but for `u`. -/
structure TidyBut (u : Nat) (ex : Executor ι σ) : Prop where
  sorted : TimersSorted ex
  listed : ∀ t k, t ≠ u → ex.task? t = some k → k.state = .queued → t ∈ ex.queue
  idle : ∀ t k, t ≠ u → ex.task? t = some k → k.state ≠ .running

/-- A task that a steady change leaves running was running before. -/
theorem Steady.running {ex ex' : Executor ι σ} (hs : Steady ex ex') {t : Nat} {k' : Task ι σ}
    (hk' : ex'.task? t = some k') (hrun : k'.state = .running) :
    ∃ k, ex.task? t = some k ∧ k.state = .running := by
  cases hold : ex.task? t with
  | none =>
    rw [hs.fresh t k' hold hk'] at hrun
    cases hrun
  | some k =>
    obtain ⟨k₁, hk₁, -, hw, -⟩ := hs.task t k hold
    rw [hk'] at hk₁
    cases hk₁
    refine ⟨k, rfl, ?_⟩
    rcases hw with h | ⟨-, h⟩
    · rw [← h]
      exact hrun
    · rw [h] at hrun
      cases hrun

theorem Tidy.steady {ex ex' : Executor ι σ} (h : Tidy ex) (hs : Steady ex ex') : Tidy ex' where
  sorted := hs.sorted h.sorted
  listed := hs.listed h.listed
  idle t k hk hrun := by
    obtain ⟨k₀, hk₀, hrun₀⟩ := hs.running hk hrun
    exact h.idle t k₀ hk₀ hrun₀

/-- A tidy executor's timers may be thinned out. -/
theorem Tidy.filterTimers {ex : Executor ι σ} (h : Tidy ex) (f : Timer → Bool) :
    Tidy { ex with timers := ex.timers.filter f } :=
  ⟨List.Pairwise.filter _ h.sorted, h.listed, h.idle⟩

theorem TidyBut.filterTimers {u : Nat} {ex : Executor ι σ} (h : TidyBut u ex) (f : Timer → Bool) :
    TidyBut u { ex with timers := ex.timers.filter f } :=
  ⟨List.Pairwise.filter _ h.sorted, h.listed, h.idle⟩

/-- **A task about to run:** taken off the run queue and marked running. -/
theorem Tidy.markRunning {ex : Executor ι σ} (h : Tidy ex) (u : Nat) :
    TidyBut u ({ ex with queue := ex.queue.erase u }.markRunning u) := by
  have htask : ∀ t, t ≠ u →
      ({ ex with queue := ex.queue.erase u }.markRunning u).task? t = ex.task? t := by
    intro t ht
    unfold Executor.markRunning
    rw [task?_modifyTask, if_neg ht]
    rfl
  refine ⟨h.sorted, fun t k ht hk hq => ?_, fun t k ht hk => ?_⟩
  · rw [htask t ht] at hk
    exact (List.mem_erase_of_ne ht).2 (h.listed t k hk hq)
  · rw [htask t ht] at hk
    exact h.idle t k hk

/-- While task `u` runs, a poll keeps the executor tidy but for `u`. -/
theorem TidyBut.steady {u : Nat} {ex ex' : Executor ι σ} (h : TidyBut u ex)
    (hu : ∀ k, ex.task? u = some k → k.state = .running) (hs : Steady ex ex') : TidyBut u ex' := by
  -- With `u` running, every queued task is in the run queue.
  have hlisted : QueuedListed ex := by
    intro t k hk hq
    by_cases ht : t = u
    · subst ht
      rw [hu k hk] at hq
      cases hq
    · exact h.listed t k ht hk hq
  refine ⟨hs.sorted h.sorted, fun t k _ hk hq => hs.listed hlisted t k hk hq,
    fun t k ht hk hrun => ?_⟩
  obtain ⟨k₀, hk₀, hrun₀⟩ := hs.running hk hrun
  exact h.idle t k₀ ht hk₀ hrun₀

/-- Changing the running task's flags. -/
theorem TidyBut.modifyTask {u : Nat} {ex : Executor ι σ} (h : TidyBut u ex)
    (f : Task ι σ → Task ι σ) : TidyBut u (ex.modifyTask u f) := by
  refine ⟨h.sorted, fun t k ht hk hq => ?_, fun t k ht hk => ?_⟩
  · rw [task?_modifyTask, if_neg ht] at hk
    exact h.listed t k ht hk hq
  · rw [task?_modifyTask, if_neg ht] at hk
    exact h.idle t k ht hk

/-- **Settling the running task,** idle or ended, makes the executor tidy. -/
theorem TidyBut.settle {u : Nat} {ex : Executor ι σ} (h : TidyBut u ex) (f : Task ι σ → Task ι σ)
    (hf : ∀ k, (f k).state ≠ .running ∧ (f k).state ≠ .queued) : Tidy (ex.modifyTask u f) := by
  refine ⟨h.sorted, fun t k hk hq => ?_, fun t k hk => ?_⟩
  · rw [task?_modifyTask] at hk
    split at hk
    · obtain ⟨k₀, -, rfl⟩ := Option.map_eq_some_iff.1 hk
      exact absurd hq (hf k₀).2
    · rename_i ht
      exact h.listed t k ht hk hq
  · rw [task?_modifyTask] at hk
    split at hk
    · obtain ⟨k₀, -, rfl⟩ := Option.map_eq_some_iff.1 hk
      exact (hf k₀).1
    · rename_i ht
      exact h.idle t k ht hk

theorem TidyBut.finish {u : Nat} {ex : Executor ι σ} (h : TidyBut u ex) (main : MainView)
    (ok : Bool) : Tidy (ex.finish main u ok) := by
  unfold Executor.finish
  have hdone := h.settle (fun k => { k with program := .pure (), state := .done ok })
    fun _ => ⟨nofun, nofun⟩
  exact (hdone.filterTimers _).steady (Steady.wakeAll _ _)

/-- **After its poll, the running task is settled** and the executor is tidy again. -/
theorem TidyBut.afterPoll {u : Nat} {ex : Executor ι σ} (h : TidyBut u ex) (main : MainView)
    (b : Bool) (p : Program ι σ Unit) : Tidy (Executor.afterPoll ex main u b p) := by
  unfold Executor.afterPoll
  have hpolled : TidyBut u ((ex.pruneTimers u p.timerIds).modifyTask u
      fun k => { k with polled := true }) := (h.filterTimers _).modifyTask _
  generalize (ex.pruneTimers u p.timerIds).modifyTask u (fun k => { k with polled := true }) = ex₂
    at hpolled ⊢
  have hafter : ∀ ex₃ : Executor ι σ, Tidy ex₃ → Tidy
      (if b = true then ex₃ else ex₃.wakeAll (ex₃.waitingOn main.starts startTargets u)) := by
    intro ex₃ h₃
    split
    · exact h₃
    · exact h₃.steady (Steady.wakeAll _ _)
  refine hafter _ ?_
  cases p with
  | pure _ => exact hpolled.finish main true
  | panic _ => exact hpolled.finish main false
  | _ =>
    dsimp only
    split
    · refine Tidy.steady (hpolled.settle _ ?_) (Steady.wake _ u)
      exact fun _ => ⟨nofun, nofun⟩
    · refine hpolled.settle _ ?_
      exact fun _ => ⟨nofun, nofun⟩

/-- **Running a task off the run queue keeps the executor tidy.** -/
theorem Tidy.runTask {ex : Executor ι σ} (h : Tidy ex) (main : MainView) (u : Nat) :
    Tidy ({ ex with queue := ex.queue.erase u }.runTask main u) := by
  -- Off the queue, the executor is tidy but for `u`.
  have hoff : TidyBut u { ex with queue := ex.queue.erase u } :=
    ⟨h.sorted, fun t k ht hk hq => (List.mem_erase_of_ne ht).2 (h.listed t k hk hq),
      fun t k _ hk => h.idle t k hk⟩
  cases hk : ex.task? u with
  | none =>
    have hsame : { ex with queue := ex.queue.erase u }.runTask main u =
        { ex with queue := ex.queue.erase u } := by
      have hk₀ : ({ ex with queue := ex.queue.erase u } : Executor ι σ).task? u = none := hk
      unfold Executor.runTask
      rw [hk₀]
    rw [hsame]
    refine ⟨h.sorted, fun t k hk' hq => (List.mem_erase_of_ne fun htu => ?_).2 (h.listed t k hk' hq),
      h.idle⟩
    subst htu
    change ex.task? _ = some k at hk'
    rw [hk] at hk'
    cases hk'
  | some k =>
    cases hc : k.cancelled with
    | true =>
      have hend : { ex with queue := ex.queue.erase u }.runTask main u =
          let ex₁ := { ex with queue := ex.queue.erase u }.finish main u false
          ex₁.wakeAll (ex₁.waitingOn main.starts startTargets u) := by
        have hk₀ : ({ ex with queue := ex.queue.erase u } : Executor ι σ).task? u = some k := hk
        unfold Executor.runTask
        rw [hk₀]
        simp only [hc, if_true]
      rw [hend]
      exact (hoff.finish main false).steady (Steady.wakeAll _ _)
    | false =>
      have hk₀ : ({ ex with queue := ex.queue.erase u } : Executor ι σ).task? u = some k := hk
      rw [runTask_eq _ main hk₀ hc]
      have hu : ∀ k', ({ ex with queue := ex.queue.erase u }.markRunning u).task? u = some k' →
          k'.state = .running := by
        intro k' hk'
        rw [task?_markRunning _ hk₀] at hk'
        cases hk'
        rfl
      exact ((h.markRunning u).steady hu (poll_steady u _ k.program)).afterPoll main _ _

/-- A new executor has no task but the slot of the main program. -/
theorem task?_start (launch : ι → Program ι σ Unit) (shared : σ) (t : Nat) :
    (Executor.start launch shared).task? t = none := by
  unfold task? Executor.start
  split
  · rfl
  · simp only [List.getElem?_toArray, List.getElem?_eq_none_iff, List.length_singleton]
    omega

/-- **A new executor is tidy:** it has no timer, and no task. -/
theorem Tidy.start (launch : ι → Program ι σ Unit) (shared : σ) :
    Tidy (Executor.start launch shared) where
  sorted := List.Pairwise.nil
  listed t k hk _ := by rw [task?_start] at hk; cases hk
  idle t k hk := by rw [task?_start] at hk; cases hk

theorem Tidy.fireDue {ex : Executor ι σ} (h : Tidy ex) : Tidy ex.fireDue := by
  unfold Executor.fireDue
  dsimp only
  exact (h.filterTimers _).steady (Steady.wakeAll _ _)

theorem Tidy.parkYield {ex : Executor ι σ} (h : Tidy ex) : Tidy ex.parkYield := by
  have hfired := h.fireDue
  unfold Executor.parkYield
  dsimp only
  have hcleared : Tidy { ex.fireDue with deferred := [] } :=
    ⟨hfired.sorted, hfired.listed, hfired.idle⟩
  exact hcleared.steady (Steady.wakeAll _ _)

theorem Tidy.park {ex ex' : Executor ι σ} (h : Tidy ex) (hp : ex.park = some ex') : Tidy ex' := by
  unfold Executor.park at hp
  split at hp
  · cases hp
    exact h.parkYield
  · split at hp
    · cases hp
    · split at hp
      · cases hp
      · cases hp
        exact Tidy.parkYield ⟨h.sorted, h.listed, h.idle⟩

/-- **Every move keeps the executor tidy.** -/
theorem Tidy.move {α : Type} {c c' : Executor ι σ × Program ι σ α} (h : Tidy c.1)
    (hm : Move c c') : Tidy c'.1 := by
  cases hm with
  | @main ex main _ =>
    have hoff : Tidy { ex with mainWoken := false } := ⟨h.sorted, h.listed, h.idle⟩
    have hpoll := hoff.steady (poll_steady 0 { ex with mainWoken := false } main)
    unfold Executor.pollMain
    generalize poll 0 { ex with mainWoken := false } main = r at hpoll ⊢
    obtain ⟨ex₁, p⟩ := r
    exact hpoll.filterTimers _
  | task _ => exact h.runTask _ _
  | park hp => exact h.park hp
  | yield => exact h.parkYield

/-! ## (5) The clock and the timers -/

theorem fireDue_now (ex : Executor ι σ) : ex.fireDue.now = ex.now := by
  unfold Executor.fireDue
  exact (Steady.wakeAll _ _).now

theorem parkYield_now (ex : Executor ι σ) : ex.parkYield.now = ex.now := by
  unfold Executor.parkYield
  exact (Steady.wakeAll _ _).now.trans (fireDue_now ex)

/-- A timer not yet due stays pending when the due timers fire. -/
theorem mem_parkYield_timers {ex : Executor ι σ} {tm : Timer} (h : tm ∈ ex.timers)
    (hlt : ex.now < tm.deadline) : tm ∈ ex.parkYield.timers := by
  unfold Executor.parkYield Executor.fireDue
  refine (Steady.wakeAll _ _).timers tm ((Steady.wakeAll _ _).timers tm ?_)
  exact List.mem_filter.2 ⟨h, by simp [hlt]⟩

/-- **Waking a task that is idle or queued leaves it queued.** -/
theorem wake_self {ex : Executor ι σ} {t : Nat} {k : Task ι σ} (hk : ex.task? t = some k)
    (hs : k.state = .idle ∨ k.state = .queued) :
    ∃ k', (ex.wake t).task? t = some k' ∧ k'.state = .queued := by
  have ht : t ≠ 0 := by
    rintro rfl
    cases hk
  unfold Executor.wake
  rw [if_neg ht, hk]
  dsimp only
  rcases hs with hs | hs
  · rw [hs]
    refine ⟨{ k with state := .queued }, ?_, rfl⟩
    change (ex.modifyTask t _).task? t = _
    rw [task?_modifyTask, if_pos rfl, hk]
    rfl
  · rw [hs]
    exact ⟨k, hk, hs⟩

/-- **A task woken among others ends up queued,** if it was idle or queued. -/
theorem wakeAll_self {ex : Executor ι σ} {t : Nat} {ts : List Nat} (hmem : t ∈ ts) {k : Task ι σ}
    (hk : ex.task? t = some k) (hs : k.state = .idle ∨ k.state = .queued) :
    ∃ k', (ex.wakeAll ts).task? t = some k' ∧ k'.state = .queued := by
  induction ts generalizing ex k with
  | nil => cases hmem
  | cons u ts ih =>
    by_cases hu : u = t
    · -- The task is queued by its own wake, and stays queued.
      subst hu
      obtain ⟨k₁, hk₁, hq₁⟩ := wake_self hk hs
      obtain ⟨k', hk', -, hw, -⟩ := (Steady.wakeAll (ex.wake u) ts).task u k₁ hk₁
      exact ⟨k', hk', hw.queued hq₁⟩
    · have hmem' : t ∈ ts := by
        rcases List.mem_cons.1 hmem with h | h
        · exact absurd h.symm hu
        · exact h
      obtain ⟨k₁, hk₁, -, hw, -⟩ := (Steady.wake ex u).task t k hk
      refine ih hmem' hk₁ ?_
      rcases hw with h | ⟨-, h⟩
      · rw [h]
        exact hs
      · exact .inr h

/-- **A blocked task woken during its poll is queued again** with the program it left. -/
theorem afterPoll_rewoken {ex : Executor ι σ} (main : MainView) {t : Nat} (b : Bool)
    {p : Program ι σ Unit} (hp : p.isDone = false) {k : Task ι σ} (hk : ex.task? t = some k)
    (hr : k.rewake = true) : QueuedAs (afterPoll ex main t b p) t p := by
  unfold afterPoll
  have hk₂ : ((ex.pruneTimers t p.timerIds).modifyTask t fun k => { k with polled := true }).task? t =
      some { k with polled := true } := by
    rw [task?_markPolled, hk]
    rfl
  generalize (ex.pruneTimers t p.timerIds).modifyTask t (fun k => { k with polled := true }) = ex₂
    at hk₂ ⊢
  have hset : (ex₂.modifyTask t fun k => { k with program := p, state := .idle, rewake := false }).task? t =
      some { k with polled := true, program := p, state := .idle, rewake := false } := by
    rw [task?_modifyTask, if_pos rfl, hk₂]
    rfl
  -- Woken again, the idle task joins the run queue, and waking others afterwards keeps it there.
  obtain ⟨k₃, hk₃, hq₃⟩ := wake_self hset (.inl rfl)
  obtain ⟨k₄, hk₄, hp₄, -⟩ := (Steady.wake _ t).task t _ hset
  rw [hk₃] at hk₄
  cases hk₄
  obtain ⟨k', hk', hp', hw, -⟩ := (Steady.firstPoll _ main t b).task t k₃ hk₃
  refine ⟨k', ?_, hp'.trans hp₄, hw.queued hq₃⟩
  cases p with
  | pure u => cases hp
  | panic m => cases hp
  | _ =>
    dsimp only
    rw [hk₂]
    simp only [Option.any_some, hr, if_true]
    exact hk'

/-- Firing timers and waking the tasks that yielded disturbs no task. -/
theorem parkYield_task (ex : Executor ι σ) (t : Nat) :
    Undisturbed (ex.task? t) (ex.parkYield.task? t) := by
  have hfire : Undisturbed (ex.task? t) (ex.fireDue.task? t) := by
    unfold Executor.fireDue
    dsimp only
    exact (Steady.wakeAll { ex with timers := ex.timers.filter fun x => decide (x.deadline > ex.now) }
      _).task t
  have hyield : Undisturbed (ex.fireDue.task? t) (ex.parkYield.task? t) := by
    unfold Executor.parkYield
    dsimp only
    exact (Steady.wakeAll { ex.fireDue with deferred := [] } _).task t
  exact hfire.trans hyield

/-- **A due timer queues its task** when the due timers fire, if the task is idle or queued. -/
theorem parkYield_queued {ex : Executor ι σ} {tm : Timer} (htm : tm ∈ ex.timers)
    (hdue : tm.deadline ≤ ex.now) {k : Task ι σ} (hk : ex.task? tm.owner = some k)
    (hs : k.state = .idle ∨ k.state = .queued) :
    ∃ k', ex.parkYield.task? tm.owner = some k' ∧ k'.state = .queued := by
  unfold Executor.parkYield Executor.fireDue
  dsimp only
  have hfired : tm.owner ∈ (ex.timers.filter fun x => decide (x.deadline ≤ ex.now)).map (·.owner) :=
    List.mem_map.2 ⟨tm, List.mem_filter.2 ⟨htm, decide_eq_true hdue⟩, rfl⟩
  have hkept : ({ ex with timers := ex.timers.filter fun x => decide (x.deadline > ex.now) } :
      Executor ι σ).task? tm.owner = some k := hk
  obtain ⟨k₁, hk₁, hq₁⟩ := wakeAll_self hfired hkept hs
  refine (Steady.wakeAll _ _).queued ?_ hq₁
  exact hk₁

/-- **Where parking leaves the clock:** never earlier, and no later than any pending deadline;
then the due timers fire. -/
theorem park_spec {ex ex' : Executor ι σ} (hs : TimersSorted ex) (hp : ex.park = some ex') :
    ∃ m, ex.now ≤ m ∧ (∀ tm ∈ ex.timers, m ≤ max ex.now tm.deadline) ∧
      ex' = { ex with now := m }.parkYield := by
  unfold Executor.park at hp
  split at hp
  · cases hp
    exact ⟨ex.now, Nat.le_refl _, fun _ _ => Nat.le_max_left _ _, rfl⟩
  · split at hp
    · cases hp
    · rename_i tm rest htimers
      split at hp
      · cases hp
      · cases hp
        refine ⟨max ex.now tm.deadline, Nat.le_max_left _ _, fun x hx => ?_, rfl⟩
        -- The earliest timer is due no later than any other.
        have hfirst : tm.deadline ≤ x.deadline := by
          unfold TimersSorted at hs
          rw [htimers] at hs hx
          exact head_deadline_le hs hx
        omega

/-! ## (6) The executor's own moves -/

/-- **A move of the executor's own loop:** any move, where the clock moves only from an empty
run queue. -/
def Paced {α : Type} (c c' : Executor ι σ × Program ι σ α) : Prop :=
  Move c c' ∧ (c'.1.now = c.1.now ∨ c.1.queue = [])

/-- Running a queued task leaves the clock where it is. -/
theorem runTask_now (ex : Executor ι σ) (main : MainView) (t : Nat) :
    ({ ex with queue := ex.queue.erase t }.runTask main t).now = ex.now :=
  (SteadyBut.runTask _ main t).now

/-- **A batch of queued tasks is a sequence of paced moves,** and it reports an emptied run queue
only when the queue is empty. -/
theorem runBatch_paced {α : Type} (main : Program ι σ α) (n : Nat) (ex : Executor ι σ) :
    Relation.ReflTransGen Paced (ex, main) ((runBatch (viewOf main) n ex).1, main) ∧
      ((runBatch (viewOf main) n ex).2 = true → (runBatch (viewOf main) n ex).1.queue = []) := by
  induction n generalizing ex with
  | zero => exact ⟨.refl, fun h => by cases h⟩
  | succ n ih =>
    simp only [runBatch]
    split
    · rename_i hq
      exact ⟨.refl, fun _ => hq⟩
    · rename_i t rest hq
      have hmem : t ∈ ex.queue := by
        rw [hq]
        exact List.mem_cons_self
      have hmove : Paced (ex, main) ({ ex with queue := rest }.runTask (viewOf main) t, main) := by
        have hrun : Move (ex, main)
            ({ ex with queue := ex.queue.erase t }.runTask (viewOf main) t, main) := .task hmem
        rw [hq, List.erase_cons_head] at hrun
        refine ⟨hrun, .inl ?_⟩
        have hnow := runTask_now ex (viewOf main) t
        rw [hq, List.erase_cons_head] at hnow
        exact hnow
      exact ⟨.head hmove (ih _).1, (ih _).2⟩

/-- **The executor's own loop makes only paced moves:** every configuration it passes through is
reached by them. -/
theorem blockOn_paced {α : Type} (fuel : Nat) (ex : Executor ι σ) (main : Program ι σ α) :
    ∃ main', Relation.ReflTransGen Paced (ex, main) ((blockOn fuel ex main).1, main') := by
  induction fuel generalizing ex main with
  | zero => exact ⟨main, .refl⟩
  | succ fuel ih =>
    -- The round's first move polls main when it is woken, without moving the clock.
    have woke : Relation.ReflTransGen Paced (ex, main)
        (if ex.mainWoken then ex.pollMain main else (ex, main)) := by
      split
      · exact .single ⟨.main ‹_›, .inl (SteadyBut.pollMain ex main).now⟩
      · exact .refl
    rw [blockOn_succ]
    generalize (if ex.mainWoken then ex.pollMain main else (ex, main)) = c at woke ⊢
    obtain ⟨ex₁, main₁⟩ := c
    dsimp only
    split
    · exact ⟨_, woke⟩
    · exact ⟨_, woke⟩
    · -- Then a batch of queued tasks runs, and the executor parks from an empty queue, or yields.
      obtain ⟨batch, hemptied⟩ := runBatch_paced main₁ batchSize ex₁
      generalize runBatch (viewOf main₁) batchSize ex₁ = r at batch hemptied ⊢
      obtain ⟨ex₂, emptied⟩ := r
      have parked : ∀ ex₃, (if emptied && ex₂.deferred.isEmpty then ex₂.park
          else some ex₂.parkYield) = some ex₃ → Paced (ex₂, main₁) (ex₃, main₁) := by
        intro ex₃ h
        split at h
        · rename_i hcond
          have hq : ex₂.queue = [] := hemptied (Bool.and_eq_true_iff.1 hcond).1
          exact ⟨.park h, .inr hq⟩
        · cases h
          exact ⟨.yield, .inl (parkYield_now ex₂)⟩
      dsimp only
      split
      · rename_i ex₃ h
        obtain ⟨main', rest⟩ := ih ex₃ main₁
        exact ⟨main', (woke.trans batch).trans (.head (parked ex₃ h) rest)⟩
      · exact ⟨main₁, woke.trans batch⟩

/-- **Every paced run keeps the executor tidy.** -/
theorem Tidy.reaches {α : Type} {c c' : Executor ι σ × Program ι σ α} (h : Tidy c.1)
    (hr : Relation.ReflTransGen Paced c c') : Tidy c'.1 := by
  induction hr with
  | refl => exact h
  | tail _ hstep ih => exact ih.move hstep.1

/-- A paced move never turns the clock back. -/
theorem Paced.now_le {α : Type} {c c' : Executor ι σ × Program ι σ α} (hm : Paced c c') :
    c.1.now ≤ c'.1.now := by
  rcases hm.2 with h | -
  · exact Nat.le_of_eq h.symm
  · cases hm.1 with
    | main _ => exact Nat.le_of_eq (SteadyBut.pollMain _ _).now.symm
    | task _ => exact Nat.le_of_eq (runTask_now _ _ _).symm
    | park hp =>
      unfold Executor.park at hp
      split at hp
      · cases hp
        exact Nat.le_of_eq (parkYield_now _).symm
      · split at hp
        · cases hp
        · split at hp
          · cases hp
          · cases hp
            rw [parkYield_now]
            exact Nat.le_max_left _ _
    | yield => exact Nat.le_of_eq (parkYield_now _).symm

/-! ## (7) Sleepers are kept to their deadlines -/

/-- **Task `t` asleep until `due` on timer `id` is kept to its deadline:** the clock has not
passed `due`; before it the timer is pending, and at it the task is queued. -/
structure OnTime (ex : Executor ι σ) (t due id : Nat) : Prop where
  le : ex.now ≤ due
  pending : ex.now < due → ⟨id, due, t⟩ ∈ ex.timers
  queued : ex.now = due → ∃ k, ex.task? t = some k ∧ k.state = .queued

/-- **Running another task keeps a sleeper on time.** -/
theorem OnTime.steadyBut {ex ex' : Executor ι σ} {t due id u : Nat} (h : OnTime ex t due id)
    (hs : SteadyBut u ex ex') (hu : t ≠ u) : OnTime ex' t due id where
  le := hs.now ▸ h.le
  pending hlt := hs.timers _ (h.pending (hs.now ▸ hlt)) hu
  queued heq := by
    obtain ⟨k, hk, hq⟩ := h.queued (hs.now ▸ heq)
    obtain ⟨k', hk', -, hw, -⟩ := hs.task t hu k hk
    exact ⟨k', hk', hw.queued hq⟩

/-- **Firing the due timers keeps a sleeper on time:** its timer is not due before its
deadline, and at it the sleeper stays queued. -/
theorem OnTime.parkYield {ex : Executor ι σ} {t due id : Nat} (h : OnTime ex t due id) :
    OnTime ex.parkYield t due id := by
  have hnow := parkYield_now ex
  refine ⟨hnow ▸ h.le, fun hlt => ?_, fun heq => ?_⟩
  · rw [hnow] at hlt
    exact mem_parkYield_timers (h.pending hlt) hlt
  · obtain ⟨k, hk, hq⟩ := h.queued (hnow ▸ heq)
    obtain ⟨k', hk', -, hw, -⟩ := parkYield_task ex t k hk
    exact ⟨k', hk', hw.queued hq⟩

/-- **Parking keeps a live sleeper on time,** when the clock moves only from an empty run queue:
the clock stops at the sleeper's deadline at the latest, and its timer then fires. -/
theorem OnTime.park {ex ex' : Executor ι σ} {t due id : Nat} (h : OnTime ex t due id)
    (hT : Tidy ex) (hlive : ∃ k, ex.task? t = some k ∧ k.state.isDone = false)
    (hp : ex.park = some ex') (hpace : ex'.now = ex.now ∨ ex.queue = []) :
    OnTime ex' t due id := by
  obtain ⟨m, hm, hmle, rfl⟩ := park_spec hT.sorted hp
  rw [parkYield_now] at hpace
  obtain ⟨k, hk, hlive⟩ := hlive
  -- The sleeper is idle or queued: it is not running, and it has not ended.
  have hstate : k.state = .idle ∨ k.state = .queued := by
    have hrun := hT.idle t k hk
    cases hks : k.state with
    | idle => exact .inl rfl
    | queued => exact .inr rfl
    | running => exact absurd hks hrun
    | done ok => rw [hks] at hlive; cases hlive
  have hnow : ({ ex with now := m }.parkYield).now = m := parkYield_now _
  by_cases hlt : ex.now < due
  · -- Its timer is pending, so the clock stops at `due` at the latest.
    have htimer := h.pending hlt
    have hmdue : m ≤ due := by
      have := hmle _ htimer
      simp only at this
      omega
    refine ⟨by rw [hnow]; exact hmdue, fun hlt' => ?_, fun heq => ?_⟩
    · rw [hnow] at hlt'
      exact mem_parkYield_timers htimer hlt'
    · -- At `due` the timer fires and queues the sleeper.
      rw [hnow] at heq
      subst heq
      have htimer' : (⟨id, m, t⟩ : Timer) ∈ ({ ex with now := m } : Executor ι σ).timers := htimer
      have hk' : ({ ex with now := m } : Executor ι σ).task? t = some k := hk
      exact parkYield_queued htimer' (Nat.le_refl _) hk' hstate
  · -- At its deadline the sleeper is queued, so the clock does not move.
    have heq : ex.now = due := Nat.le_antisymm h.le (Nat.le_of_not_lt hlt)
    obtain ⟨k₀, hk₀, hq₀⟩ := h.queued heq
    have hqueue : ex.queue ≠ [] := List.ne_nil_of_mem (hT.listed t k₀ hk₀ hq₀)
    have hmnow : m = ex.now := by
      rcases hpace with h | h
      · exact h
      · exact absurd h hqueue
    subst hmnow
    exact h.parkYield

/-! ## (8) Tasks that have ended or are cancelled -/

/-- **Running a cancelled or ended task leaves it ended.** -/
theorem runTask_over (ex : Executor ι σ) (main : MainView) {t : Nat} {k : Task ι σ}
    (hk : ex.task? t = some k)
    (hc : k.cancelled = true ∨ (k.state.isDone = true ∧ k.program = .pure ())) :
    Over (ex.runTask main t) t := by
  cases hcan : k.cancelled with
  | true =>
    -- A cancelled task is dropped without a poll.
    unfold runTask
    rw [hk]
    simp only [hcan, if_true]
    have hover : Over (ex.finish main t false) t := ⟨_, task?_finish ex main hk false, rfl, rfl⟩
    exact hover.undisturbed ((Steady.wakeAll _ _).task t)
  | false =>
    -- An ended task left with nothing to run ends again at once.
    obtain ⟨-, hp⟩ := hc.resolve_left (by rw [hcan]; exact Bool.false_ne_true)
    rw [runTask_eq ex main hk hcan, hp]
    exact afterPoll_done main k.polled rfl (task?_markRunning ex hk)

/-- Parking disturbs no task. -/
theorem park_task {ex ex' : Executor ι σ} (hp : ex.park = some ex') (t : Nat) :
    Undisturbed (ex.task? t) (ex'.task? t) := by
  unfold park at hp
  split at hp
  · cases hp
    exact parkYield_task ex t
  · split at hp
    · cases hp
    · split at hp
      · cases hp
      · cases hp
        rename_i tm _ _ _
        change Undisturbed (({ ex with now := max ex.now tm.deadline } : Executor ι σ).task? t) _
        exact parkYield_task _ t

/-- **No move runs a step of a halted task:** it stays cancelled with the same program left, or
ends. -/
theorem Halted.move {α : Type} {c c' : Executor ι σ × Program ι σ α} {t : Nat}
    {p : Program ι σ Unit} (h : Halted c.1 t p) (hm : Move c c') : Halted c'.1 t p := by
  cases hm with
  | main _ => exact h.undisturbed ((SteadyBut.pollMain _ _).task t h.ne_zero)
  | @task ex main u hu =>
    by_cases hut : u = t
    · -- The halted task itself runs: it ends.
      subst hut
      refine .inl ?_
      rcases h with ⟨k, hk, hd, hp⟩ | ⟨k, hk, hc, -⟩
      · exact runTask_over { ex with queue := ex.queue.erase u } _ hk (.inr ⟨hd, hp⟩)
      · exact runTask_over { ex with queue := ex.queue.erase u } _ hk (.inl hc)
    · exact h.undisturbed ((SteadyBut.runTask { ex with queue := ex.queue.erase u } _ u).task t
        (Ne.symm hut))
  | park hp => exact h.undisturbed (park_task hp t)
  | yield => exact h.undisturbed (parkYield_task _ t)

/-- **A halted task stays halted,** whatever the executor does next. -/
theorem Halted.reaches {α : Type} {c c' : Executor ι σ × Program ι σ α} {t : Nat}
    {p : Program ι σ Unit} (h : Halted c.1 t p) (hr : Reaches c c') : Halted c'.1 t p := by
  induction hr with
  | refl => exact h
  | tail _ hm ih => exact ih.move hm

/-- **Cancelling a live task halts it** with the program it has left. -/
theorem abortTask_halted {ex : Executor ι σ} {t : Nat} {k : Task ι σ} (hk : ex.task? t = some k)
    (hd : k.state.isDone = false) : Halted (ex.abortTask t) t k.program := by
  have hnone : ex.outcome? t = none := by
    rw [outcome?_of_task? hk]
    cases hs : k.state with
    | done ok => rw [hs] at hd; cases hd
    | _ => rfl
  unfold abortTask
  rw [hnone]
  have hmod : (ex.modifyTask t fun k => { k with cancelled := true }).task? t =
      some { k with cancelled := true } := by
    rw [task?_modifyTask, if_pos rfl, hk]
    rfl
  obtain ⟨k', hk', hp', -, hc'⟩ := (Steady.wake _ t).task t _ hmod
  exact .inr ⟨k', hk', hc' rfl, hp'⟩

end Executor

/-- A program that has not finished has not finished once bound to a continuation. -/
theorem Program.isDone_bind {α β : Type} {p : Program ι σ α} (hp : p.isDone = false)
    (f : α → Program ι σ β) : (p.bind f).isDone = false := by
  cases p with
  | pure a => cases hp
  | panic m => cases hp
  | _ => rfl

end Scheduling

end ChatGateway
