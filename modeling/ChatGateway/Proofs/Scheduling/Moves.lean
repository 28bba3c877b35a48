import ChatGateway.Proofs.Scheduling.Within

/-! # The moves of the executor, in any order

The executor of `ChatGateway.Scheduling.Executor` picks its next task by a fixed policy: the
main program first when it is woken, then the run queue from its front, then the timers. The
properties of the gateway hold whatever the policy, so they are stated over `Executor.Move`, which
lets a scheduler

* poll the main program whenever it is woken,
* run *any* queued task, not only the first,
* fire the due timers and wake the tasks that yielded, or jump the clock to the next timer.

A configuration is the executor with the residual main program. `Executor.blockOn_reaches` says
that every configuration the executor's own loop passes through is reached by such moves, so a
property of every reachable configuration is a property of every run.
-/

namespace ChatGateway

namespace Scheduling

namespace Executor

variable {ι σ : Type} {α : Type}

/-- What the scheduler knows of the main program: the tasks it waits on. -/
def viewOf (main : Program ι σ α) : MainView := ⟨joinTargets main, startTargets main⟩

/-- **A poll of the main program** after it was woken; its dropped sleeps stop waking it. -/
def pollMain (ex : Executor ι σ) (main : Program ι σ α) : Executor ι σ × Program ι σ α :=
  let (ex, p) := poll 0 { ex with mainWoken := false } main
  (ex.pruneTimers 0 p.timerIds, p)

/-- **One move of the executor,** in any order a scheduler may choose. -/
inductive Move : Executor ι σ × Program ι σ α → Executor ι σ × Program ι σ α → Prop where
  /-- The woken main program is polled. -/
  | main {ex : Executor ι σ} {main : Program ι σ α} :
      ex.mainWoken = true → Move (ex, main) (ex.pollMain main)
  /-- Any queued task is taken off the queue and run. -/
  | task {ex : Executor ι σ} {main : Program ι σ α} {t : Nat} :
      t ∈ ex.queue → Move (ex, main) ({ ex with queue := ex.queue.erase t }.runTask (viewOf main) t, main)
  /-- The clock moves to the next timer, or the due timers fire. -/
  | park {ex ex' : Executor ι σ} {main : Program ι σ α} :
      ex.park = some ex' → Move (ex, main) (ex', main)
  /-- The due timers fire and the tasks that yielded are woken. -/
  | yield {ex : Executor ι σ} {main : Program ι σ α} : Move (ex, main) (ex.parkYield, main)

/-- The configurations reachable by moves. -/
abbrev Reaches (c c' : Executor ι σ × Program ι σ α) : Prop := Relation.ReflTransGen Move c c'

/-- **A batch of queued tasks is a sequence of moves.** -/
theorem runBatch_reaches (main : Program ι σ α) (n : Nat) (ex : Executor ι σ) :
    Reaches (ex, main) ((runBatch (viewOf main) n ex).1, main) := by
  induction n generalizing ex with
  | zero => exact .refl
  | succ n ih =>
    simp only [runBatch]
    split
    · exact .refl
    · rename_i t rest hq
      have hmem : t ∈ ex.queue := by
        rw [hq]
        exact List.mem_cons_self
      have hmove : Move (ex, main)
          ({ ex with queue := rest }.runTask (viewOf main) t, main) := by
        have hrun : Move (ex, main)
            ({ ex with queue := ex.queue.erase t }.runTask (viewOf main) t, main) := .task hmem
        rwa [hq, List.erase_cons_head] at hrun
      exact .head hmove (ih _)

/-- **One round of the executor's loop:** main is polled if it is woken; unless it has ended, a
batch of queued tasks runs, and the executor parks, or yields when tasks yielded. -/
theorem blockOn_succ (fuel : Nat) (ex : Executor ι σ) (main : Program ι σ α) :
    blockOn (fuel + 1) ex main =
      match (if ex.mainWoken then ex.pollMain main else (ex, main)) with
      | (ex₁, main₁) =>
        match main₁ with
        | .pure a => (ex₁, .finished a)
        | .panic m => (ex₁, .panicked m)
        | main₁ =>
          match runBatch (viewOf main₁) batchSize ex₁ with
          | (ex₂, emptied) =>
            match (if emptied && ex₂.deferred.isEmpty then ex₂.park else some ex₂.parkYield) with
            | some ex₃ => blockOn fuel ex₃ main₁
            | none => (ex₂, .stalled) := by
  rw [blockOn]
  rfl

/-- **Every configuration the executor's loop passes through is reached by moves:** after any
number of rounds, some residual main program goes with the executor it leaves. -/
theorem blockOn_reaches (fuel : Nat) (ex : Executor ι σ) (main : Program ι σ α) :
    ∃ main', Reaches (ex, main) ((blockOn fuel ex main).1, main') := by
  induction fuel generalizing ex main with
  | zero => exact ⟨main, .refl⟩
  | succ fuel ih =>
    -- The round's first move polls main when it is woken.
    have woke : Reaches (ex, main) (if ex.mainWoken then ex.pollMain main else (ex, main)) := by
      split
      · exact .single (.main ‹_›)
      · exact .refl
    rw [blockOn_succ]
    generalize (if ex.mainWoken then ex.pollMain main else (ex, main)) = c at woke ⊢
    obtain ⟨ex₁, main₁⟩ := c
    dsimp only
    split
    · exact ⟨_, woke⟩
    · exact ⟨_, woke⟩
    · -- Then a batch of queued tasks runs, and the executor parks or yields.
      have batch := runBatch_reaches main₁ batchSize ex₁
      generalize runBatch (viewOf main₁) batchSize ex₁ = r at batch ⊢
      obtain ⟨ex₂, emptied⟩ := r
      have parked : ∀ ex₃, (if emptied && ex₂.deferred.isEmpty then ex₂.park
          else some ex₂.parkYield) = some ex₃ → Move (ex₂, main₁) (ex₃, main₁) := by
        intro ex₃ h
        split at h
        · exact .park h
        · cases h
          exact .yield
      dsimp only
      split
      · rename_i ex₃ h
        obtain ⟨main', rest⟩ := ih ex₃ main₁
        exact ⟨main', (woke.trans batch).trans (.head (parked ex₃ h) rest)⟩
      · exact ⟨main₁, woke.trans batch⟩

end Executor

end Scheduling

end ChatGateway
