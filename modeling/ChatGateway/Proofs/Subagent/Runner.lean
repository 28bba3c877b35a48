import ChatGateway.Proofs.Subagent.Ledger

/-! # A worker's race, on the clock and in the ledger

Between two moves of the executor, a registered task's worker is kept to the time its phase
allows (`Workers.TimingAt`): fresh, the clock has not moved since the spawn and the worker is
queued; racing, what is left of the run reads from now as the whole run did from the spawn, and
the limit's timer and the run's sleeps are pending; settled, the race's end has come. Moves that
leave the worker alone keep its timing (`TimingAt.steadyBut`, `TimingAt.park`).

* `Scheduling.Executor.runTask_fresh`: a task that a run starts is queued.
* `Workers.Book.race`: **a poll of a worker in the race settles its record exactly when the race
  is over,** with the race's result, or leaves it racing with the rest of the run; the ledger
  follows.
-/

namespace ChatGateway

open Scheduling Scheduling.Executor

/-! ## (1) Tasks a run starts -/

namespace Scheduling.Executor

variable {ι σ : Type}

/-- A steady change leaves a slot empty or with a queued task, if it was. -/
theorem Steady.queued_or_none {ex ex' : Executor ι σ} (hs : Steady ex ex') {t : Nat}
    (h : ∀ k, ex.task? t = some k → k.state = .queued) :
    ∀ k, ex'.task? t = some k → k.state = .queued := by
  intro k hk
  cases hmid : ex.task? t with
  | none => exact hs.fresh t k hmid hk
  | some k₀ =>
    obtain ⟨k', hk', -, hw, -⟩ := hs.task t k₀ hmid
    rw [hk] at hk'
    cases hk'
    exact hw.queued (h k₀ hmid)

/-- **After its poll, a run starts no task:** another slot that was empty, or held a queued task,
still does. -/
theorem afterPoll_queued (ex : Executor ι σ) (main : MainView) {u t : Nat} (htu : t ≠ u) (b : Bool)
    (p : Program ι σ Unit) (h : ∀ k, ex.task? t = some k → k.state = .queued) :
    ∀ k, (afterPoll ex main u b p).task? t = some k → k.state = .queued := by
  -- Changing the runner, or the timers, leaves the slot as it was.
  have hother : ∀ (ex₁ : Executor ι σ) f, (ex₁.modifyTask u f).task? t = ex₁.task? t :=
    fun ex₁ f => by rw [task?_modifyTask, if_neg htu]
  unfold afterPoll
  have h₂ : ∀ k, ((ex.pruneTimers u p.timerIds).modifyTask u
      fun k => { k with polled := true }).task? t = some k → k.state = .queued := by
    rw [hother]
    exact h
  generalize (ex.pruneTimers u p.timerIds).modifyTask u (fun k => { k with polled := true }) = ex₂
    at h₂ ⊢
  have hfinish : ∀ ok, ∀ k, (ex₂.finish main u ok).task? t = some k → k.state = .queued := by
    intro ok
    refine (Steady.wakeAll _ _).queued_or_none ?_
    show ∀ k, (ex₂.modifyTask u _).task? t = some k → k.state = .queued
    rw [hother]
    exact h₂
  -- Whether or not it had been polled before, the tasks waiting for it are only woken.
  have hwoken : ∀ ex₃ : Executor ι σ, (∀ k, ex₃.task? t = some k → k.state = .queued) →
      ∀ k, (if b = true then ex₃ else ex₃.wakeAll (ex₃.waitingOn main.starts startTargets u)).task? t =
        some k → k.state = .queued := by
    intro ex₃ h₃
    split
    · exact h₃
    · exact (Steady.wakeAll _ _).queued_or_none h₃
  refine hwoken _ ?_
  cases p with
  | pure v => exact hfinish true
  | panic m => exact hfinish false
  | _ =>
    dsimp only
    split
    · refine (Steady.wake _ u).queued_or_none ?_
      rw [hother]
      exact h₂
    · rw [hother]
      exact h₂

/-- **A task that a run starts is queued.** -/
theorem runTask_fresh (ex : Executor ι σ) (main : MainView) (u : Nat) {t : Nat}
    (ht : ex.task? t = none) : ∀ k, (ex.runTask main u).task? t = some k → k.state = .queued := by
  have hnone : ∀ k, ex.task? t = some k → k.state = .queued := by
    intro k hk
    rw [ht] at hk
    cases hk
  cases hk₀ : ex.task? u with
  | none =>
    unfold runTask
    rw [hk₀]
    exact hnone
  | some k₀ =>
    have htu : t ≠ u := by
      rintro rfl
      rw [ht] at hk₀
      cases hk₀
    cases hc : k₀.cancelled with
    | true =>
      -- A cancelled task ends, and the tasks waiting for it are woken.
      unfold runTask
      rw [hk₀]
      simp only [hc, if_true]
      refine (Steady.wakeAll _ _).queued_or_none ((Steady.wakeAll _ _).queued_or_none ?_)
      show ∀ k, (ex.modifyTask u _).task? t = some k → k.state = .queued
      rw [task?_modifyTask, if_neg htu]
      exact hnone
    | false =>
      rw [runTask_eq ex main hk₀ hc]
      refine afterPoll_queued _ main htu _ _ ((poll_steady u _ k₀.program).queued_or_none ?_)
      unfold markRunning
      rw [task?_modifyTask, if_neg htu]
      exact hnone

/-- **A task that a poll of the main program starts is queued.** -/
theorem pollMain_fresh {α : Type} (ex : Executor ι σ) (main : Program ι σ α) {t : Nat}
    (ht : ex.task? t = none) : ∀ k, (ex.pollMain main).1.task? t = some k → k.state = .queued :=
  fun k hk => (poll_steady 0 { ex with mainWoken := false } main).fresh t k ht hk

/-- A timer a task waits on, due later, keeps it on time. -/
theorem onTime_of_pending {ex : Executor ι σ} {t due id : Nat} (hlt : ex.now < due)
    (hmem : ⟨id, due, t⟩ ∈ ex.timers) : OnTime ex t due id :=
  ⟨Nat.le_of_lt hlt, fun _ => hmem, fun heq => absurd heq (Nat.ne_of_lt hlt)⟩

end Scheduling.Executor

namespace Scheduling.TaskView

variable {ι σ : Type} {p : Program ι σ Unit} {c : Bool}

/-- A task left waiting shows what is left of its program. -/
theorem after_of_waiting (hp : p.isDone = false) (c : Bool) : TaskView.after p c = ⟨p, false, c⟩ := by
  unfold TaskView.after
  rw [hp]
  rfl

/-- A task that has not ended shows what is left of its program. -/
theorem program_after (h : (TaskView.after p c).done = false) : (TaskView.after p c).program = p := by
  unfold TaskView.after at h ⊢
  split
  · rename_i hp
    rw [if_pos hp] at h
    cases h
  · rfl

/-- A task that has ended has nothing left to run. -/
theorem program_after_of_done (h : (TaskView.after p c).done = true) :
    (TaskView.after p c).program = .pure () := by
  unfold TaskView.after at h ⊢
  split
  · rfl
  · rename_i hp
    rw [if_neg hp] at h
    cases h

end Scheduling.TaskView

/-! ## (2) The timing of a worker -/

namespace Workers

variable (M : ProviderScript) (cfg : SubagentManager)

/-- **A worker's timing at its phase.** Fresh, the clock is still at the spawn and the worker is
queued. Racing, the worker has not ended; what is left of the run reads from now as the run from
the spawn does, on the rest of its transcripts; and the limit's timer and the run's sleeps are
kept to their deadlines. Settled, the race's end has come. -/
def TimingAt (ex : Exec) (sp : Spawn) : Phase → Prop
  | .fresh => ex.now = sp.start ∧ ∃ k, ex.task? sp.worker = some k ∧ k.state = .queued
  | .racing inner tm =>
    (∃ k, ex.task? sp.worker = some k ∧ k.state.isDone = false) ∧ Program.Waiting inner ∧
      (∃ cs, cs <:+ (sp.run M cfg).2 ∧ Timed M true inner ex.now (sp.run M cfg).1 cs) ∧
      OnTime ex sp.worker (sp.deadline cfg) tm ∧ ∀ x ∈ inner.sleeps, OnTime ex sp.worker x.1 x.2
  | .settled => (sp.settlement M cfg).1 ≤ ex.now

variable {M cfg}

/-- **Before its settlement, the race is not over:** the clock is no later than its end. -/
theorem TimingAt.now_le {ex : Exec} {sp : Spawn} {φ : Phase} (ht : TimingAt M cfg ex sp φ)
    (hφ : ¬φ.IsSettled) (hspawn : Tool.spawnSubagent ∉ cfg.tools.tools) :
    ex.now ≤ (sp.settlement M cfg).1 := by
  cases φ with
  | fresh =>
    rw [ht.1]
    exact sp.start_le_settlement M cfg hspawn
  | racing inner tm =>
    obtain ⟨-, -, ⟨cs, -, htimed⟩, hdue, -⟩ := ht
    exact Outcome.le_race_fst hdue.le fun T hT => htimed.le_time hT
  | settled => exact absurd trivial hφ

/-- **A change that leaves the worker undisturbed keeps its timing,** when the clock does not go
back, stays still while the worker is queued, and a live sleeper stays on time. -/
theorem TimingAt.carry {ex ex' : Exec} {sp : Spawn} {φ : Phase} (ht : TimingAt M cfg ex sp φ)
    (hu : Undisturbed (ex.task? sp.worker) (ex'.task? sp.worker)) (hn : ex.now ≤ ex'.now)
    (hq : ∀ k, ex.task? sp.worker = some k → k.state = .queued → ex'.now = ex.now)
    (hon : (∃ k, ex.task? sp.worker = some k ∧ k.state.isDone = false) →
      ∀ due id, OnTime ex sp.worker due id → OnTime ex' sp.worker due id) :
    TimingAt M cfg ex' sp φ := by
  cases φ with
  | fresh =>
    obtain ⟨hnow, k, hk, hs⟩ := ht
    obtain ⟨k', hk', -, hw, -⟩ := hu k hk
    exact ⟨(hq k hk hs).trans hnow, k', hk', hw.queued hs⟩
  | racing inner tm =>
    obtain ⟨hlive, hw, ⟨cs, hcs, htimed⟩, hdue, hsleeps⟩ := ht
    -- The sleeps stay pending, so what is left of the run reads the same from the new time.
    have hsleeps' : ∀ x ∈ inner.sleeps, OnTime ex' sp.worker x.1 x.2 :=
      fun x hx => hon hlive _ _ (hsleeps x hx)
    have hlive' : ∃ k, ex'.task? sp.worker = some k ∧ k.state.isDone = false := by
      obtain ⟨k, hk, hd⟩ := hlive
      obtain ⟨k', hk', -, hwk, -⟩ := hu k hk
      exact ⟨k', hk', hwk.isDone.trans hd⟩
    exact ⟨hlive', hw, ⟨cs, hcs, htimed.shift hw hn fun x hx => (hsleeps' x hx).le⟩,
      hon hlive _ _ hdue, hsleeps'⟩
  | settled => exact Nat.le_trans ht hn

/-- **Running another task, or the main program, keeps a worker's timing.** -/
theorem TimingAt.steadyBut {ex ex' : Exec} {sp : Spawn} {φ : Phase} {u : Nat}
    (ht : TimingAt M cfg ex sp φ) (hs : SteadyBut u ex ex') (hu : sp.worker ≠ u) :
    TimingAt M cfg ex' sp φ :=
  ht.carry (hs.task _ hu) (Nat.le_of_eq hs.now.symm) (fun _ _ _ => hs.now)
    fun _ _ _ ho => ho.steadyBut hs hu

/-- **Firing the due timers keeps a worker's timing.** -/
theorem TimingAt.parkYield {ex : Exec} {sp : Spawn} {φ : Phase} (ht : TimingAt M cfg ex sp φ) :
    TimingAt M cfg ex.parkYield sp φ :=
  ht.carry (parkYield_task ex _) (Nat.le_of_eq (parkYield_now ex).symm)
    (fun _ _ _ => parkYield_now ex) fun _ _ _ ho => ho.parkYield

/-- **Parking keeps a worker's timing** when the clock moves only from an empty run queue: a
fresh worker is queued, so the clock stays still, and a racing one's deadlines stop it. -/
theorem TimingAt.park {ex ex' : Exec} {sp : Spawn} {φ : Phase} (ht : TimingAt M cfg ex sp φ)
    (hT : Tidy ex) (hp : ex.park = some ex') (hpace : ex'.now = ex.now ∨ ex.queue = []) :
    TimingAt M cfg ex' sp φ := by
  have hn : ex.now ≤ ex'.now := by
    obtain ⟨m, hm, -, rfl⟩ := park_spec hT.sorted hp
    rw [parkYield_now]
    exact hm
  refine ht.carry (park_task hp _) hn (fun k hk hq => ?_) fun hlive _ _ ho => ho.park hT hlive hp hpace
  exact hpace.resolve_right (List.ne_nil_of_mem (hT.listed _ k hk hq))

/-! ## (3) Entries of the ghost, across several steps -/

/-- New entries of a later ghost are new since the first, spawned by tasks empty since. -/
theorem FreshSince.trans {Φ₁ Φ₂ Φ₃ : Ghost} {T : Nat} {s₁ s₂ : Seen Job Deployment}
    (h₁ : FreshSince Φ₁ Φ₂ T s₁) (h₂ : FreshSince Φ₂ Φ₃ T s₂) (hg : Grows Φ₂ Φ₃)
    (hlook : ∀ t, s₂.look t = none → s₁.look t = none) : FreshSince Φ₁ Φ₃ T s₁ := by
  intro id sp φ hΦ₃ hnone
  cases hΦ₂ : Φ₂ id with
  | none =>
    obtain ⟨hφ, hT, hl⟩ := h₂ id sp φ hΦ₃ hΦ₂
    exact ⟨hφ, hT, hlook _ hl⟩
  | some e =>
    rw [hg id e hΦ₂] at hΦ₃
    rw [hΦ₃] at hΦ₂
    exact h₁ id sp φ hΦ₂ hnone

/-- An entry that was there before changes phase: the new entries stay new. -/
theorem FreshSince.rephase {Φ₁ Φ₂ : Ghost} {T : Nat} {s : Seen Job Deployment}
    (h : FreshSince Φ₁ Φ₂ T s) {id : String} (hid : Φ₁ id ≠ none) (e : Spawn × Phase) :
    FreshSince Φ₁ (Function.update Φ₂ id (some e)) T s := by
  intro id' sp φ hΦ' hnone
  have hne : id' ≠ id := by
    rintro rfl
    exact hid hnone
  rw [Function.update_of_ne hne] at hΦ'
  exact h id' sp φ hΦ' hnone

/-! ## (4) The race in the ledger -/

section Race

variable {base N : Nat} {Φ : Ghost}

/-- **A poll of a worker in the race, in the ledger.** The worker's entry `id` is before its
settlement; the rest of its run, `inner`, reads from now as the run from the spawn does; and the
limit's timer `t`, if taken, and the run's sleeps are pending. The poll keeps the ledger, with the
entries it spawns fresh and every other entry as it was. Either the race is over now, and the
record is settled with its result while the worker goes on to tell the callback about the settled
record; or the worker goes on racing, what is left of the run reading the same, its timers
pending. -/
theorem Book.race {ex : Exec} {id : String} {sp : Spawn} {φ : Phase}
    (h : Book M cfg base Φ sp.worker ex.seen) (hsize : ex.tasks.size ≠ 0)
    (hΦ : Φ id = some (sp, φ)) (hφ : ¬φ.IsSettled) (hids : Deployment.DistinctIds N)
    {inner : Act (Except String RunResult)} (hin : Program.Within KeepsWorkers sp.worker true inner)
    {cs : List (List ChatMessage)} (hcs : cs <:+ (sp.run M cfg).2)
    (htimed : Timed M true inner ex.now (sp.run M cfg).1 cs) (hD : ex.now ≤ sp.deadline cfg)
    (hreg : ∀ x ∈ inner.sleeps, ex.now < x.1 → (⟨x.2, x.1, sp.worker⟩ : Timer) ∈ ex.timers)
    (t : Option Nat) (ht : ∀ tm, t = some tm → ex.now < sp.deadline cfg →
      (⟨tm, sp.deadline cfg, sp.worker⟩ : Timer) ∈ ex.timers)
    {v : TaskView Job Deployment} (hv : ex.look sp.worker = some v) (hvc : v.cancelled = false)
    (hhb : ex.shared.heartbeatTask ≠ some sp.worker)
    {r : Exec × Act Unit} (hr : poll sp.worker ex
      (.guard (.timeout (sp.deadline cfg) t inner .pure) (Subagents.finish id cfg.callback)) = r)
    (hN : r.1.shared.nextTaskId ≤ N) :
    ex.shared.nextTaskId ≤ r.1.shared.nextTaskId ∧
    (r.1.look sp.worker = some v ∧ r.1.shared.heartbeatTask ≠ some sp.worker) ∧
    ∃ Φ' φ', Φ' id = some (sp, φ') ∧ (∀ id' e, id' ≠ id → Φ id' = some e → Φ' id' = some e) ∧
      FreshSince Φ Φ' ex.now ex.seen ∧ Book M cfg base Φ' sp.worker r.1.seen ∧
      ((φ' = .settled ∧ (sp.settlement M cfg).1 = ex.now ∧
          Program.Runs sp.worker (Subagents.notify id (some (sp.settled M cfg)) cfg.callback) r.2) ∨
        ∃ p tm, φ' = .racing p tm ∧ r.2 = Subagents.racing id cfg.callback (sp.deadline cfg) tm p ∧
          ex.now < sp.deadline cfg ∧ Program.Waiting p ∧
          Program.Within KeepsWorkers sp.worker true p ∧
          (∃ cs', cs' <:+ (sp.run M cfg).2 ∧ Timed M true p ex.now (sp.run M cfg).1 cs') ∧
          (∀ x ∈ p.sleeps, ex.now < x.1 ∧ (⟨x.2, x.1, sp.worker⟩ : Timer) ∈ r.1.timers) ∧
          (⟨tm, sp.deadline cfg, sp.worker⟩ : Timer) ∈ r.1.timers) := by
  have hid : Φ id ≠ none := by
    rw [hΦ]
    exact Option.some_ne_none _
  rcases Worker.poll_race hin (fun ex d => KeepsWorkers.addTimer ex d sp.worker) htimed ex rfl
      h.model hreg hD t ht (Subagents.finish id cfg.callback) with
    ⟨ex₁, hr₁, -, hT, hpoll⟩ | ⟨hlt, ex₁, tm, p, cs₂, hr₁, -, hpoll, hw, hwithin, htimed₂, hcs₂,
      hsleeps, htm⟩
  · -- The race is over: the worker settles its record, then tells the callback.
    set ex₂ : Exec := { ex₁ with
      shared := (Subagents.settle id (sp.settlement M cfg).2 ex₁.shared).1 } with hex₂
    have hnext₂ : ex₂.shared.nextTaskId = ex₁.shared.nextTaskId := by
      show (Subagents.settle id _ ex₁.shared).1.nextTaskId = _
      rw [Subagents.settle_fst]
    have hsize₁ : ex₁.tasks.size ≠ 0 := by
      have := KeepsWorkers.size_le_of_reach hr₁
      omega
    -- The callback's poll is a run of the frame from the settled executor.
    obtain ⟨hr₃, hres⟩ := (Subagents.notify_within (KeepsWorkers.routine sp.worker) id
      (Subagents.settle id (sp.settlement M cfg).2 ex₁.shared).2 cfg.callback :
        Program.Within KeepsWorkers sp.worker true _).poll_spec ex₂
    have hpoll' : r = poll sp.worker ex₂
        (Subagents.notify id (Subagents.settle id (sp.settlement M cfg).2 ex₁.shared).2
          cfg.callback) := by
      rw [← hr, hpoll]
      rfl
    rw [← hpoll'] at hr₃ hres
    have hnext₁ : ex₁.shared.nextTaskId ≤ r.1.shared.nextTaskId :=
      hnext₂ ▸ KeepsWorkers.nextTaskId_le_of_reach hr₃
    obtain ⟨Φ₁, hg₁, h₁, hf₁⟩ := h.reach hsize hr₁ hids (Nat.le_trans hnext₁ hN) ex.now
    obtain ⟨h₂, hset⟩ := h₁.settle (hg₁ id _ hΦ) hφ
    have h₂' : Book M cfg base (Function.update Φ₁ id (some (sp, .settled))) sp.worker ex₂.seen := h₂
    have hset' : (Subagents.settle id (sp.settlement M cfg).2 ex₁.shared).2 =
        some (sp.settled M cfg) := hset
    obtain ⟨Φ₃, hg₃, h₃, hf₃⟩ := h₂'.reach hsize₁ hr₃ hids hN ex.now
    -- The worker keeps its view: the frame cancels no task but the heartbeat's.
    obtain ⟨hv₁, hhb₁⟩ := KeepsWorkers.look_uncancelled_of_reach hr₁ hv hvc hhb
    have hhb₂ : ex₂.shared.heartbeatTask ≠ some sp.worker := by
      show (Subagents.settle id _ ex₁.shared).1.heartbeatTask ≠ _
      rw [Subagents.settle_fst]
      exact hhb₁
    refine ⟨Nat.le_trans (KeepsWorkers.nextTaskId_le_of_reach hr₁) hnext₁,
      KeepsWorkers.look_uncancelled_of_reach hr₃ hv₁ hvc hhb₂, Φ₃, .settled,
      hg₃ id _ (Function.update_self _ _ _), fun id' e hne he => ?_,
      (hf₁.rephase hid _).trans hf₃ hg₃ fun t hl => ?_, h₃, .inl ⟨rfl, hT, ?_⟩⟩
    · exact hg₃ id' e (by rw [Function.update_of_ne hne]; exact hg₁ id' e he)
    · -- A task of the settled executor was a task of the reached one, and so at the start.
      by_contra hne
      exact KeepsWorkers.look_ne_none_of_reach hr₁ hne hl
    · rw [hpoll', hset']
      exact .single ⟨ex₂, rfl⟩
  · -- The race waits: the worker's entry goes on racing with what is left of the run.
    have hr₁' : r = (ex₁, Subagents.racing id cfg.callback (sp.deadline cfg) tm p) := by
      rw [← hr, hpoll]
      rfl
    subst hr₁'
    obtain ⟨Φ₁, hg₁, h₁, hf₁⟩ := h.reach hsize hr₁ hids hN ex.now
    refine ⟨KeepsWorkers.nextTaskId_le_of_reach hr₁,
      KeepsWorkers.look_uncancelled_of_reach hr₁ hv hvc hhb, _, .racing p tm, Function.update_self _ _ _,
      fun id' e hne he => ?_, hf₁.rephase hid _, h₁.advance (hg₁ id _ hΦ) hφ fun hs => (hs : False),
      .inr ⟨p, tm, rfl, rfl, hlt, hw, hwithin, ⟨cs₂, hcs₂.trans hcs, htimed₂⟩, hsleeps, htm⟩⟩
    rw [Function.update_of_ne hne]
    exact hg₁ id' e he

/-! ## (5) A run of a worker before its settlement -/

/-- **A run of a worker before its settlement.** From a ledger of every task, with the worker's
entry `id` before its settlement and on time, running the worker keeps the ledger of every task:
its entry settles, when the race is over at this time, or goes on racing, on time; every other
entry stays, and the entries the run spawns are fresh. -/
theorem Book.runWorker {ex : Exec} (main : MainView) {id : String} {sp : Spawn} {φ : Phase}
    (h : Book M cfg base Φ 0 ex.seen) (hsize : ex.tasks.size ≠ 0) (hΦ : Φ id = some (sp, φ))
    (hφ : ¬φ.IsSettled) (ht : TimingAt M cfg ex sp φ)
    (hspawn : Tool.spawnSubagent ∉ cfg.tools.tools) (hids : Deployment.DistinctIds N)
    {ex' : Exec} (hex' : ex.runTask main sp.worker = ex')
    (hN : ex'.shared.nextTaskId ≤ N) :
    ex.shared.nextTaskId ≤ ex'.shared.nextTaskId ∧
    ∃ Φ' φ', Φ' id = some (sp, φ') ∧ (∀ id' e, id' ≠ id → Φ id' = some e → Φ' id' = some e) ∧
      FreshSince Φ Φ' ex.now ex.seen ∧ Book M cfg base Φ' 0 ex'.seen ∧ TimingAt M cfg ex' sp φ' := by
  have hlook := h.looks id sp φ hΦ (h.worker id sp φ hΦ).1
  obtain ⟨ex₁, hex₁⟩ : ∃ ex₁, ex.markRunning sp.worker = ex₁ := ⟨_, rfl⟩
  have hnow₁ : ex₁.now = ex.now := by
    rw [← hex₁]
    rfl
  have htimers₁ : ex₁.timers = ex.timers := by
    rw [← hex₁]
    rfl
  -- Before its settlement, the worker is uncancelled and is not the heartbeat's task; in either
  -- phase its poll is a poll of the race, from an executor where the race's timers are pending.
  obtain ⟨prog, t, inner, cs, hv, hhb, hin, hcs, htimed, hD, hreg, htm, hrace⟩ :
      ∃ prog t inner cs, ex.look sp.worker = some ⟨prog, false, false⟩ ∧
        ex.shared.heartbeatTask ≠ some sp.worker ∧
        Program.Within KeepsWorkers sp.worker true inner ∧ cs <:+ (sp.run M cfg).2 ∧
        Timed M true inner ex.now (sp.run M cfg).1 cs ∧ ex.now ≤ sp.deadline cfg ∧
        (∀ x ∈ inner.sleeps, ex.now < x.1 → (⟨x.2, x.1, sp.worker⟩ : Timer) ∈ ex.timers) ∧
        (∀ tm, t = some tm → ex.now < sp.deadline cfg →
          (⟨tm, sp.deadline cfg, sp.worker⟩ : Timer) ∈ ex.timers) ∧
        (ex₁.shared = ex.shared → poll sp.worker ex₁ (.guard (.timeout (sp.deadline cfg) t inner .pure)
          (Subagents.finish id cfg.callback)) = poll sp.worker ex₁ prog) := by
    cases φ with
    | fresh =>
      -- The first poll reads the record and starts the run, with the limit from the spawn.
      obtain ⟨hstart, -⟩ := ht
      obtain ⟨cs, hm, -, -⟩ := h.manager
      set tb := TaskTable.replay cfg.budget.maxRetained cs
      have hm : ex.shared.subagents = some { cfg with table := tb } := hm
      have hrec : tb.get? id = some sp.record := by
        have hr : ex.shared.record? id = some sp.record := h.records id sp .fresh hΦ
        simpa only [Deployment.record?, hm, Option.bind_some] using hr
      have hrun := AgentRun.run_timedAs M hspawn Subagents.systemPrompt sp.record.task
        cfg.budget.maxIterations none sp.start
      refine ⟨_, none, AgentRun.run cfg.tools Subagents.systemPrompt sp.record.task
        cfg.budget.maxIterations none, _, hlook.1, hlook.2,
        AgentRun.run_within (KeepsWorkers.routine sp.worker).reasons _ _ _ _ _, List.suffix_refl _,
        by rw [hstart]; exact hrun.relax, by rw [hstart]; exact Nat.le_add_right _ _, ?_,
        (fun _ h => by cases h), fun hshared => ?_⟩
      · intro x hx
        rw [hrun.sleeps_eq_nil] at hx
        cases hx
      · have hm₁ : ex₁.shared.subagents = some { cfg with table := tb } := by
          rw [hshared]
          exact hm
        rw [Subagents.poll_run sp.worker ex₁ hm₁ hrec]
        show _ = poll sp.worker ex₁ (.guard (.timeout (ex₁.now + cfg.budget.timeoutMs) none _ .pure)
          (Subagents.finish id cfg.callback))
        rw [hnow₁, hstart]
        rfl
    | racing inner tm =>
      obtain ⟨-, -, ⟨cs, hcs, htimed⟩, hdue, hsleeps⟩ := ht
      refine ⟨_, some tm, inner, cs, hlook.1, hlook.2.1, hlook.2.2, hcs, htimed, hdue.le,
        fun x hx hlt => (hsleeps x hx).pending hlt, ?_, fun _ => rfl⟩
      rintro tm' ⟨⟩ hlt
      exact hdue.pending hlt
    | settled => exact absurd trivial hφ
  obtain ⟨k, hk, hkv⟩ : ∃ k, ex.task? sp.worker = some k ∧ k.view = ⟨prog, false, false⟩ := by
    simp only [look, Option.map_eq_some_iff] at hv
    exact hv
  have hc : k.cancelled = false := congrArg TaskView.cancelled hkv
  have hlive : k.state.isDone = false := congrArg TaskView.done hkv
  have hprog : k.program = prog := congrArg TaskView.program hkv
  -- Marking the worker running is housekeeping.
  have hseen₁ : ex₁.seen = ex.seen := hex₁ ▸ markRunning_quiet _ hk hlive
  have hshared₁ : ex₁.shared = ex.shared := congrArg Seen.shared hseen₁
  have hsize₁ : ex₁.tasks.size ≠ 0 := by
    rw [← hex₁]
    simpa only [markRunning, modifyTask, Array.size_modify] using hsize
  have hb₁ : Book M cfg base Φ sp.worker ex₁.seen := by
    rw [hseen₁]
    exact h.but (look_zero ex) sp.worker
  have hv₁ : ex₁.look sp.worker = some ⟨prog, false, false⟩ := by
    rw [show ex₁.look = ex.look from congrArg Seen.look hseen₁]
    exact hv
  obtain ⟨r, hr⟩ : ∃ r, poll sp.worker ex₁ k.program = r := ⟨_, rfl⟩
  have hex'r : ex' = afterPoll r.1 main sp.worker k.polled r.2 := by
    rw [← hex', runTask_eq _ main hk hc, hex₁, hr]
  have hshared' : ex'.shared = r.1.shared := by
    have h' := congrArg Seen.shared (runTask_seen _ main hk hc)
    rw [hex₁, hr, hex'] at h'
    exact h'
  have hnowr : r.1.now = ex.now := by
    rw [← hr, (poll_steady _ _ _).now, hnow₁]
  have hnow' : ex'.now = ex.now := by
    rw [hex'r, afterPoll_now, hnowr]
  obtain ⟨hnext, ⟨hv', hhb'⟩, Φ', φ', hΦ', hothers, hfresh, hbook', hcases⟩ :=
    hb₁.race hsize₁ hΦ hφ hids hin hcs (hnow₁ ▸ htimed) (hnow₁ ▸ hD)
      (by rw [hnow₁, htimers₁]; exact hreg) t (by rw [hnow₁, htimers₁]; exact htm) hv₁ rfl
      (by rw [hshared₁]; exact hhb) ((hrace hshared₁).trans (by rw [← hprog, hr]))
      (hshared' ▸ hN)
  -- The worker is left uncancelled, and shows what its poll left.
  obtain ⟨k₁, hk₁, hkv₁⟩ : ∃ k₁, r.1.task? sp.worker = some k₁ ∧ k₁.view = ⟨prog, false, false⟩ := by
    simp only [look, Option.map_eq_some_iff] at hv'
    exact hv'
  have hc₁ : k₁.cancelled = false := congrArg TaskView.cancelled hkv₁
  have hseen' : ex'.seen = r.1.seen.setLook sp.worker (some (TaskView.after r.2 false)) := by
    rw [← hex', runTask_seen _ main hk hc, hex₁, hr]
    simp only [hk₁, Option.map_some, hc₁]
  refine ⟨by rw [hshared', ← hshared₁]; exact hnext, Φ', φ', hΦ', hothers,
    by rw [← hseen₁, ← hnow₁]; exact hfresh, ?book, ?timing⟩
  case book =>
    rw [hseen']
    refine hbook'.setLook (fun id'' sp'' φ'' hΦ'' hw'' => ?_)
      (fun _ hnw => absurd rfl (hnw id sp φ' hΦ')) TaskView.program_after_of_done 0
    -- The worker is the worker of its own entry only.
    obtain rfl := hbook'.distinct id'' id sp'' sp φ'' φ' hΦ'' hΦ' hw''
    rw [hΦ'] at hΦ''
    obtain ⟨rfl, rfl⟩ := Prod.mk.inj (Option.some.inj hΦ'')
    rcases hcases with ⟨rfl, -, hruns⟩ | ⟨p, tm, rfl, hr2, hlt, hw, hwithin, -⟩
    · refine ⟨_, Function.update_self _ _ _, fun hd => ?_⟩
      rw [TaskView.program_after hd]
      exact hruns
    · refine ⟨?_, hhb', hwithin⟩
      show Function.update r.1.seen.look sp.worker _ sp.worker = _
      rw [Function.update_self, hr2, TaskView.after_of_waiting rfl]
  case timing =>
    rcases hcases with ⟨rfl, hT, -⟩ | ⟨p, tm, rfl, hr2, hlt, hw, hwithin, ⟨cs', hcs', htimed'⟩,
      hsleeps, htm'⟩
    · show _ ≤ ex'.now
      exact Nat.le_of_eq (by rw [hnow', hT, hnow₁])
    · -- The worker waits on the limit's timer and on the run's sleeps, which its poll kept.
      have hp : r.2.isDone = false := by
        rw [hr2]
        rfl
      have hkept : ∀ tm' due, (⟨tm', due, sp.worker⟩ : Timer) ∈ r.1.timers → tm' ∈ r.2.timerIds →
          (⟨tm', due, sp.worker⟩ : Timer) ∈ ex'.timers := fun tm' due hmem hid => by
        rw [hex'r]
        exact afterPoll_timers main k.polled hp hmem hid
      obtain ⟨k', hk', -, hd'⟩ := afterPoll_blocked main k.polled hp hk₁
      rw [hnow₁] at htimed' hsleeps hlt
      refine ⟨⟨k', hex'r ▸ hk', hd'⟩, hw, ⟨cs', hcs', hnow' ▸ htimed'⟩, onTime_of_pending
        (hnow' ▸ hlt) (hkept _ _ htm' ?_), fun x hx => onTime_of_pending (hnow' ▸ (hsleeps x hx).1)
        (hkept _ _ (hsleeps x hx).2 ?_)⟩
      · rw [hr2]
        exact List.mem_append_right _ (List.mem_singleton_self _)
      · rw [hr2]
        refine List.mem_append_left _ ?_
        rw [← Program.map_sleeps]
        exact List.mem_map_of_mem hx

end Race

end Workers

end ChatGateway
