import ChatGateway.Proofs.Heartbeat.Loop
import ChatGateway.Proofs.Lifecycle.Transitions

/-! # The heartbeat's timer over every run

Between two moves of the executor the timer loop of a heartbeat task is in one of five phases
(`Heartbeats.Phase`): started and not yet polled, between two rounds, asleep until a deadline,
inside a tick waiting on the engine, or ended. `Heartbeats.LoopAt` says what each phase keeps true
of the executor:

* the deadlines lie on the grid of the interval from the start, one point further after each tick;
* a tick fires no earlier than its deadline, so `t0 + n * every ≤ now` once `n` ticks have begun
  (`Heartbeats.LoopAt.inTick_count`);
* a sleeping loop is kept to its deadline: the clock has not passed it, its timer is pending
  before it, and at it the loop is queued, so it is polled before the clock moves on;
* between two rounds the loop is queued, so its next round begins before the clock moves: at the
  time the round before it ended, or asleep until the next deadline if that is later.

Every paced move keeps the loop in some phase (`Heartbeats.LoopAt.paced`), and so does every paced
run (`Heartbeats.LoopAt.paced_run`). A stop halts the loop where it is
(`Heartbeats.halted_stopped`), and no move runs a step of it after that. `Heartbeats.timer_schedule`
gathers the whole.
-/

namespace ChatGateway

open Scheduling Scheduling.Executor Scheduling.Program

namespace Heartbeats

/-! ## (1) The phases of the loop -/

/-- **Where the timer loop is between two moves of the executor.** -/
inductive Phase where
  /-- Started, and not yet polled. -/
  | fresh
  /-- Between two rounds after `begun` ticks, queued to start the round due at `due`. -/
  | between (plan : HeartbeatPlan) (begun due : Nat)
  /-- Asleep on timer `id` until `due`, after `begun` ticks. -/
  | sleeping (plan : HeartbeatPlan) (begun due id : Nat)
  /-- Inside tick `begun + 1`, due at `due` and fired at `t`, with the engine at `q`. -/
  | inTick (plan : HeartbeatPlan) (begun due t : Nat) (q : Act (Except String EngineReply))
  /-- Over. -/
  | ended

/-- **The loop of task `h`, started at `t0`, is in phase `φ` in the executor `ex`.** Fresh, it is
queued with the clock still at `t0`. Between two rounds, it is queued with the next deadline on
the grid. Asleep, it is kept to a deadline on the grid. Inside a tick, the tick fired at its
deadline or later. Ended, nothing is left of it. -/
def LoopAt (h t0 : Nat) (ex : Exec) : Phase → Prop
  | .fresh => ex.now = t0 ∧ QueuedAs ex h run
  | .between plan begun due =>
    QueuedAs ex h (loop plan due) ∧ HeartbeatPlan.OnGrid plan.everyMs t0 (begun + 1) due ∧
      t0 + begun * plan.everyMs ≤ ex.now
  | .sleeping plan begun due id =>
    LiveAs ex h (asleep plan due id) ∧ HeartbeatPlan.OnGrid plan.everyMs t0 (begun + 1) due ∧
      t0 + begun * plan.everyMs ≤ ex.now ∧ OnTime ex h due id
  | .inTick plan begun due t q =>
    LiveAs ex h (ticking plan due t q) ∧ HeartbeatPlan.OnGrid plan.everyMs t0 (begun + 1) due ∧
      due ≤ t ∧ t ≤ ex.now ∧ Program.Runs h (Reasoning.process (prompt plan)) q
  | .ended => Over ex h

variable {h t0 : Nat}

/-- The loop has a task in every phase. -/
theorem LoopAt.exists_task {ex : Exec} {φ : Phase} (hl : LoopAt h t0 ex φ) :
    ∃ k, ex.task? h = some k := by
  cases φ with
  | fresh => obtain ⟨-, k, hk, -⟩ := hl; exact ⟨k, hk⟩
  | between => obtain ⟨⟨k, hk, -⟩, -⟩ := hl; exact ⟨k, hk⟩
  | sleeping => obtain ⟨⟨k, hk, -⟩, -⟩ := hl; exact ⟨k, hk⟩
  | inTick => obtain ⟨⟨k, hk, -⟩, -⟩ := hl; exact ⟨k, hk⟩
  | ended => obtain ⟨k, hk, -⟩ := hl; exact ⟨k, hk⟩

/-- The loop is a task, not the main program. -/
theorem LoopAt.ne_zero {ex : Exec} {φ : Phase} (hl : LoopAt h t0 ex φ) : h ≠ 0 := by
  rintro rfl
  obtain ⟨k, hk⟩ := hl.exists_task
  cases hk

/-- **Once `n` ticks have begun, `n` intervals have passed since the start:** the tick inside
which the loop is fired at its deadline or later, and its deadline is `begun + 1` intervals on. -/
theorem LoopAt.inTick_count {ex : Exec} {plan : HeartbeatPlan} {begun due t : Nat}
    {q : Act (Except String EngineReply)} (hl : LoopAt h t0 ex (.inTick plan begun due t q)) :
    t0 + (begun + 1) * plan.everyMs ≤ t ∧ t ≤ ex.now := by
  obtain ⟨-, hg, hdue, ht, -⟩ := hl
  exact ⟨Nat.le_trans hg.le hdue, ht⟩

/-! ## (2) Moves that leave the loop where it is -/

/-- **A change that leaves the loop's task undisturbed keeps its phase,** when the clock does not
go back, stays still while the loop is queued, and a live sleeper stays on time. -/
theorem LoopAt.carry {ex ex' : Exec} {φ : Phase} (hl : LoopAt h t0 ex φ)
    (hu : Undisturbed (ex.task? h) (ex'.task? h)) (hn : ex.now ≤ ex'.now)
    (hq : ∀ k, ex.task? h = some k → k.state = .queued → ex'.now = ex.now)
    (hon : ∀ p due id, LiveAs ex h p → OnTime ex h due id → OnTime ex' h due id) :
    LoopAt h t0 ex' φ := by
  cases φ with
  | fresh =>
    obtain ⟨hnow, hqueued⟩ := hl
    -- A queued loop keeps the clock still.
    have hstill : ex'.now = ex.now := by
      obtain ⟨k, hk, -, hs⟩ := hqueued
      exact hq k hk hs
    exact ⟨hstill.trans hnow, hqueued.undisturbed hu⟩
  | between plan begun due =>
    obtain ⟨hqueued, hg, hcount⟩ := hl
    exact ⟨hqueued.undisturbed hu, hg, Nat.le_trans hcount hn⟩
  | sleeping plan begun due id =>
    obtain ⟨hlive, hg, hcount, hon₀⟩ := hl
    exact ⟨hlive.undisturbed hu, hg, Nat.le_trans hcount hn, hon _ _ _ hlive hon₀⟩
  | inTick plan begun due t q =>
    obtain ⟨hlive, hg, hdue, ht, hrun⟩ := hl
    exact ⟨hlive.undisturbed hu, hg, hdue, Nat.le_trans ht hn, hrun⟩
  | ended => exact Over.undisturbed hl hu

/-- **Running another task, or the main program, keeps the loop's phase.** -/
theorem LoopAt.steadyBut {ex ex' : Exec} {φ : Phase} {u : Nat} (hl : LoopAt h t0 ex φ)
    (hs : SteadyBut u ex ex') (hu : h ≠ u) : LoopAt h t0 ex' φ :=
  hl.carry (hs.task h hu) (Nat.le_of_eq hs.now.symm) (fun _ _ _ => hs.now)
    (fun _ _ _ _ ho => ho.steadyBut hs hu)

/-- **Firing the due timers keeps the loop's phase.** -/
theorem LoopAt.parkYield {ex : Exec} {φ : Phase} (hl : LoopAt h t0 ex φ) :
    LoopAt h t0 ex.parkYield φ :=
  hl.carry (parkYield_task ex h) (Nat.le_of_eq (parkYield_now ex).symm)
    (fun _ _ _ => parkYield_now ex) (fun _ _ _ _ ho => ho.parkYield)

/-- **Parking keeps the loop's phase** when the clock moves only from an empty run queue: a
queued loop keeps the clock still, and a sleeper's deadline stops it. -/
theorem LoopAt.park {ex ex' : Exec} {φ : Phase} (hl : LoopAt h t0 ex φ) (hT : Tidy ex)
    (hp : ex.park = some ex') (hpace : ex'.now = ex.now ∨ ex.queue = []) : LoopAt h t0 ex' φ := by
  have hn : ex.now ≤ ex'.now := by
    obtain ⟨m, hm, -, rfl⟩ := park_spec hT.sorted hp
    rw [parkYield_now]
    exact hm
  refine hl.carry (park_task hp h) hn (fun k hk hq => ?_) (fun _ _ _ hlive ho => ?_)
  · exact hpace.resolve_right (List.ne_nil_of_mem (hT.listed h k hk hq))
  · obtain ⟨k, hk, -, hd⟩ := hlive
    exact ho.park hT ⟨k, hk, hd⟩ hp hpace

/-! ## (3) Running the loop -/

/-- **A poll of the loop from any phase but the last leaves it somewhere it may be,** in an
executor with the same clock and timers where its task runs. -/
theorem LoopAt.leftAt {ex : Exec} (ex' : Exec) {φ : Phase} (hl : LoopAt h t0 ex φ)
    (hφ : φ ≠ .ended) {k : Task Job Deployment} (hk : ex.task? h = some k) (hrun : Running ex' h)
    (hnow : ex'.now = ex.now) (htimers : ex'.timers = ex.timers) :
    LeftAt h t0 (poll h ex' k.program).1 (poll h ex' k.program).2 := by
  cases φ with
  | fresh =>
    obtain ⟨hn, k₁, hk₁, hp, -⟩ := hl
    rw [hk] at hk₁
    cases hk₁
    rw [hp]
    exact leftAt_run ex' hrun (hnow.trans hn)
  | between plan begun due =>
    obtain ⟨⟨k₁, hk₁, hp, -⟩, hg, hcount⟩ := hl
    rw [hk] at hk₁
    cases hk₁
    rw [hp]
    exact leftAt_loop ex' hrun hg (hnow ▸ hcount)
  | sleeping plan begun due id =>
    obtain ⟨⟨k₁, hk₁, hp, -⟩, hg, hcount, hon⟩ := hl
    rw [hk] at hk₁
    cases hk₁
    rw [hp]
    exact leftAt_asleep ex' hrun hg (hnow ▸ hcount) fun hlt => htimers ▸ hon.pending (hnow ▸ hlt)
  | inTick plan begun due t q =>
    obtain ⟨⟨k₁, hk₁, hp, -⟩, hg, hdue, ht, hq⟩ := hl
    rw [hk] at hk₁
    cases hk₁
    rw [hp]
    exact leftAt_ticking ex' hrun hg hdue (hnow ▸ ht) hq
  | ended => exact absurd rfl hφ

/-- **The executor going on after a poll of the loop finds it in a phase:** ended, blocked on
its timer or on the engine with its program taken, or queued again for its next round. -/
theorem LeftAt.afterPoll {ex : Exec} {p : Act Unit} (hl : LeftAt h t0 ex p) (main : MainView)
    (b : Bool) {k : Task Job Deployment} (hk : ex.task? h = some k) :
    ∃ φ, LoopAt h t0 (afterPoll ex main h b p) φ := by
  have hnow := afterPoll_now ex main h b p
  cases hl with
  | done hd => exact ⟨.ended, afterPoll_done main b hd hk⟩
  | @sleeping plan begun due id hg hcount hlt htimer =>
    -- The timer the loop sleeps on is the one its program names, so it is kept.
    refine ⟨.sleeping plan begun due id, afterPoll_blocked main b rfl hk, hg,
      by rw [hnow]; exact hcount, ⟨by rw [hnow]; exact Nat.le_of_lt hlt, fun _ => ?_, fun heq => ?_⟩⟩
    · exact afterPoll_timers main b rfl htimer (List.mem_singleton_self id)
    · rw [hnow] at heq
      exact absurd heq (Nat.ne_of_lt hlt)
  | @inTick plan begun due t q hg hdue ht hrun hwait =>
    exact ⟨.inTick plan begun due t q, afterPoll_blocked main b rfl hk,
      hg, hdue, by rw [hnow]; exact ht, hrun⟩
  | @between plan begun due hg hcount hwoken =>
    -- The round's own wake queues the task again, before the clock can move.
    obtain ⟨k₁, hk₁, hr⟩ := hwoken
    exact ⟨.between plan begun due, afterPoll_rewoken main b rfl hk₁ hr, hg,
      by rw [hnow]; exact hcount⟩

/-- **Running the loop's task finds it in a phase again:** a cancelled loop ends, an ended one
stays so, and otherwise the loop is polled from where it was. -/
theorem LoopAt.runTask {ex : Exec} {φ : Phase} (hl : LoopAt h t0 ex φ) (main : MainView) :
    ∃ φ', LoopAt h t0 ({ ex with queue := ex.queue.erase h }.runTask main h) φ' := by
  obtain ⟨k, hk⟩ := hl.exists_task
  have hk₀ : ({ ex with queue := ex.queue.erase h } : Exec).task? h = some k := hk
  by_cases hφ : φ = .ended
  · subst hφ
    obtain ⟨k₁, hk₁, hd, hp⟩ := hl
    rw [hk] at hk₁
    cases hk₁
    exact ⟨.ended, runTask_over _ main hk₀ (.inr ⟨hd, hp⟩)⟩
  cases hc : k.cancelled with
  | true => exact ⟨.ended, runTask_over _ main hk₀ (.inl hc)⟩
  | false =>
    rw [runTask_eq _ main hk₀ hc]
    have hrun : Running (({ ex with queue := ex.queue.erase h } : Exec).markRunning h) h :=
      ⟨_, task?_markRunning _ hk₀, rfl⟩
    obtain ⟨k₁, hk₁, -⟩ := (poll_steady h _ k.program).task h _ (task?_markRunning _ hk₀)
    exact (hl.leftAt (({ ex with queue := ex.queue.erase h } : Exec).markRunning h) hφ hk hrun rfl
      rfl).afterPoll main k.polled hk₁

/-! ## (4) Every paced run -/

/-- **Every paced move keeps the loop in a phase.** -/
theorem LoopAt.paced {α : Type} {c c' : Exec × Act α} {φ : Phase} (hl : LoopAt h t0 c.1 φ)
    (hT : Tidy c.1) (hm : Paced c c') : ∃ φ', LoopAt h t0 c'.1 φ' := by
  obtain ⟨hmove, hpace⟩ := hm
  cases hmove with
  | main _ => exact ⟨φ, hl.steadyBut (SteadyBut.pollMain _ _) hl.ne_zero⟩
  | @task ex main u hu =>
    by_cases hhu : u = h
    · subst hhu
      exact hl.runTask _
    · -- Another task runs, off the queue.
      have hoff : SteadyBut u ex { ex with queue := ex.queue.erase u } :=
        ⟨rfl, fun _ htm _ => htm, fun _ _ => .refl _⟩
      exact ⟨φ, hl.steadyBut (hoff.trans (SteadyBut.runTask _ _ u)) (Ne.symm hhu)⟩
  | park hp => exact ⟨φ, hl.park hT hp hpace⟩
  | yield => exact ⟨φ, hl.parkYield⟩

/-- **Every paced run keeps the loop in a phase.** -/
theorem LoopAt.paced_run {α : Type} {c c' : Exec × Act α} {φ : Phase} (hl : LoopAt h t0 c.1 φ)
    (hT : Tidy c.1) (hr : Relation.ReflTransGen Paced c c') : ∃ φ', LoopAt h t0 c'.1 φ' := by
  induction hr with
  | refl => exact ⟨φ, hl⟩
  | tail hr hm ih =>
    obtain ⟨φ₁, h₁⟩ := ih
    exact h₁.paced (hT.reaches hr) hm

/-! ## (5) Starting and stopping -/

/-- **A loop just started is fresh,** at the time of its start. -/
theorem loopAt_started {ex : Exec} (hlaunch : ex.launch = Job.program) (hsize : ex.tasks.size ≠ 0) :
    LoopAt ex.tasks.size ex.now (started ex) .fresh := by
  refine ⟨rfl, { program := run, state := .queued }, ?_, rfl, rfl⟩
  change (ex.spawnTask .heartbeat).1.task? ex.tasks.size = _
  rw [task?_spawnTask, if_pos ⟨rfl, hsize⟩, hlaunch]
  rfl

/-- **A stop halts the loop it remembers where it is,** if the loop has not ended. -/
theorem halted_stopped {ex : Exec} {t : Nat} {k : Task Job Deployment}
    (hb : ex.shared.heartbeatTask = some t) (hk : ex.task? t = some k) (hd : k.state.isDone = false) :
    Halted (stopped ex) t k.program := by
  rw [stopped_of_some hb]
  exact abortTask_halted hk hd

/-- **A started loop on a tidy executor is tidy too.** -/
theorem tidy_started {ex : Exec} (hT : Tidy ex) : Tidy (started ex) :=
  hT.steady ((Steady.spawnTask ex .heartbeat).trans (Steady.of_eq rfl rfl rfl rfl))

/-! ## (6) The timer's schedule -/

/-- **The heartbeat's timer over every run.** From a tidy executor where the loop of task `h` was
just started at `t0`, every paced run finds the loop in one of its phases (`LoopAt`): its deadlines
on the grid of the interval from `t0`, every tick fired at its deadline or later, so that
`t0 + n * every` has passed once `n` ticks have begun, a sleeping loop kept to its deadline, and a
loop between two rounds queued, so that the clock does not move before its next round begins. The
executor's own loop makes only paced runs.

Polled, the task starts the loop with its first deadline one interval on. Polled before a deadline,
the loop takes a timer and sleeps; a sleeping loop is left as it was before its deadline; at or
after the deadline the loop is awake, ends without asking the engine on a closed bus, and ticks at
once on an open one. After a tick the round is over in the same poll and gives a strictly later
grid point: the next one when the tick was on time, and the first after the tick when the tick ran
late; the loop's task is then woken and the loop stands at the round of that deadline, with no
bound on the number of rounds. A start while the loop runs changes nothing, a start otherwise
leaves a fresh loop, and after a stop no move runs a step of the loop it halted. -/
theorem timer_schedule {α : Type} (c₀ : Exec × Act α) (hT : Tidy c₀.1)
    (hfresh : LoopAt h t0 c₀.1 .fresh) :
    (∀ c, Relation.ReflTransGen Paced c₀ c → ∃ φ, LoopAt h t0 c.1 φ) ∧
    (∀ c, Relation.ReflTransGen Paced c₀ c → ∀ plan begun due t q,
      LoopAt h t0 c.1 (.inTick plan begun due t q) →
        t0 + (begun + 1) * plan.everyMs ≤ t ∧ t ≤ c.1.now) ∧
    (∀ (fuel : Nat) (ex : Exec) (main : Act α),
      ∃ main', Relation.ReflTransGen Paced (ex, main) ((blockOn fuel ex main).1, main')) ∧
    (∀ (ex : Exec) (service : HeartbeatService), ex.shared.heartbeat = some service →
      poll h ex run = poll h ex (loop service.plan (ex.now + service.plan.everyMs))) ∧
    (∀ (ex : Exec) plan (due : Nat), ex.now < due →
      poll h ex (loop plan due) = ((ex.addTimer due h).1, asleep plan due ex.nextId)) ∧
    (∀ (ex : Exec) plan (due : Nat), due ≤ ex.now →
      poll h ex (loop plan due) = poll h ex (inRound plan (awake plan due))) ∧
    (∀ (ex : Exec) plan (due id : Nat), ex.now < due →
      poll h ex (asleep plan due id) = (ex, asleep plan due id)) ∧
    (∀ (ex : Exec) plan (due id : Nat), due ≤ ex.now →
      poll h ex (asleep plan due id) = poll h ex (inRound plan (awake plan due))) ∧
    (∀ (ex : Exec) plan (due : Nat), ex.shared.bus.closed = true →
      poll h ex (inRound plan (awake plan due)) = (ex, .pure ())) ∧
    (∀ (ex : Exec) plan (due : Nat), ex.shared.bus.closed = false →
      poll h ex (awake plan due) = poll h ex ((tick plan).bind (afterTick plan due ex.now))) ∧
    (∀ (ex : Exec) plan (due t : Nat) r, ∃ d : Deployment, poll h ex (afterTick plan due t r) =
      ({ ex with shared := d }, .pure (.inl (HeartbeatPlan.nextTick plan.everyMs due t)))) ∧
    (∀ (ex ex' : Exec) plan (current : Act (Nat ⊕ Unit)) (next : Nat),
      poll h ex current = (ex', .pure (.inl next)) →
        poll h ex (inRound plan current) = (ex'.wake h, loop plan next)) ∧
    (∀ every due t : Nat, due ≤ t → ∃ j, 1 ≤ j ∧ HeartbeatPlan.nextTick every due t = due + j * every) ∧
    (∀ every due t : Nat, ¬due + HeartbeatPlan.lateness < t →
      HeartbeatPlan.nextTick every due t = due + every) ∧
    (∀ every due t : Nat, due + HeartbeatPlan.lateness < t → 0 < every →
      t < HeartbeatPlan.nextTick every due t ∧ HeartbeatPlan.nextTick every due t ≤ t + every) ∧
    (∀ (me : Nat) (ex : Exec), runningIn ex = true → poll me ex start = (ex, .pure (.ok ()))) ∧
    (∀ (me : Nat) (ex : Exec), ex.launch = Job.program → ex.tasks.size ≠ 0 → runningIn ex = false →
      ex.shared.bus.closed = false → poll me ex start = (started ex, .pure (.ok ())) ∧
        LoopAt ex.tasks.size ex.now (started ex) .fresh ∧ (Tidy ex → Tidy (started ex))) ∧
    (∀ (ex : Exec) (t : Nat) (k : Task Job Deployment) (main : Act α),
      ex.shared.heartbeatTask = some t → ex.task? t = some k → k.state.isDone = false →
      ∀ c, Reaches (stopped ex, main) c → Halted c.1 t k.program) := by
  refine ⟨fun c hr => hfresh.paced_run hT hr,
    fun c hr plan begun due t q hl => hl.inTick_count, blockOn_paced,
    fun ex _ hb => poll_run h ex hb,
    fun ex plan _ hlt => poll_loop_early h ex plan hlt,
    fun ex plan _ hle => poll_loop_due h ex plan hle,
    fun ex plan _ _ hlt => poll_asleep_early h ex plan hlt,
    fun ex plan _ _ hle => poll_asleep_due h ex plan hle,
    fun ex plan _ hc => poll_loop_exit (poll_awake_closed h ex plan hc),
    fun ex plan _ hc => poll_awake_open h ex plan hc,
    fun ex plan due t r => poll_afterTick h ex plan due t r,
    fun ex _ plan _ _ hround => poll_inRound_next h ex plan hround,
    fun _ _ _ hle => HeartbeatPlan.nextTick_onGrid hle,
    fun _ _ _ hon => HeartbeatPlan.nextTick_of_not_late hon,
    fun _ _ _ hlate hpos => HeartbeatPlan.nextTick_late hlate hpos,
    fun me ex hrun => ?_, fun me ex hlaunch hsize hrun hc => ?_,
    fun ex t k main hb hk hd c hr => (halted_stopped hb hk hd).reaches hr⟩
  · rw [poll_start, if_pos hrun]
  · -- Neither running nor closed: the loop is started.
    refine ⟨?_, loopAt_started hlaunch hsize, tidy_started⟩
    rw [poll_start, if_neg (by rw [hrun]; exact Bool.false_ne_true),
      if_neg (by rw [hc]; exact Bool.false_ne_true)]

/-- A heartbeat every half hour, always active, delivering to one chat. -/
def halfHourly : HeartbeatPlan :=
  { everyMs := 1800000, prompt := "Anything that needs attention?", ackMaxChars := 300,
    window := .always, zone := .localTime, target := { channel := "slack", chatId := "C1" } }

/-- **A half-hourly heartbeat started on a new executor keeps its timer on every paced run:** its
first poll starts the loop with the first deadline half an hour on, and once `n` ticks have
begun, `n` half hours have passed. -/
theorem timer_schedule_half_hourly :
    let ex := started (Executor.start Job.program ({ heartbeat := some { plan := halfHourly } } : Deployment))
    Tidy ex ∧ LoopAt 1 0 ex .fresh ∧
    (∀ c : Exec × Act Unit, Relation.ReflTransGen Paced (ex, .pure ()) c → ∃ φ, LoopAt 1 0 c.1 φ) ∧
    (∀ c : Exec × Act Unit, Relation.ReflTransGen Paced (ex, .pure ()) c → ∀ plan begun due t q,
      LoopAt 1 0 c.1 (.inTick plan begun due t q) → (begun + 1) * plan.everyMs ≤ t) ∧
    poll 1 ex run = poll 1 ex (loop halfHourly 1800000) := by
  intro ex
  have hT : Tidy ex := tidy_started (Tidy.start _ _)
  have hfresh : LoopAt 1 0 ex .fresh := loopAt_started rfl Nat.one_ne_zero
  obtain ⟨hruns, hcount, -, hrun, -⟩ := timer_schedule (ex, .pure ()) hT hfresh
  refine ⟨hT, hfresh, hruns, fun c hr plan begun due t q hl => ?_, ?_⟩
  · have := (hcount c hr plan begun due t q hl).1
    rwa [Nat.zero_add] at this
  · -- The clock starts at zero, so the first deadline is one interval on.
    have hnow : ex.now = 0 := rfl
    have hfirst := hrun ex { plan := halfHourly, task := some 1 } rfl
    rw [hnow, Nat.zero_add] at hfirst
    exact hfirst

end Heartbeats

end ChatGateway
