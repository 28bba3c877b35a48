import ChatGateway.Proofs.Heartbeat.Tick
import ChatGateway.Proofs.Lifecycle.Calls
import ChatGateway.Proofs.Scheduling.Clock

/-! # One poll of the heartbeat's timer loop

The timer loop sleeps until its deadline, then ticks, and then sleeps until the deadline after
it. Its deadlines lie on a grid of the interval from the start (`HeartbeatPlan.OnGrid`): a tick
on time is followed by the next point, and a late one skips the points it overran
(`HeartbeatPlan.nextTick_onGrid`, `HeartbeatPlan.nextTick_late`).

A poll of the loop runs at most one round (`Heartbeats.timerRound`). A round that is over gives
the deadline of the next one and wakes the loop's own task, so that the next round runs at the
task's next turn. `Heartbeats.LeftAt` says where a poll leaves the loop, and `Heartbeats.leftAt_loop`
that every poll from a deadline on the grid leaves it so:

* ended, on a closed bus or by a panic;
* asleep until the deadline, with its timer pending, the deadline still to come;
* inside a tick whose deadline had come when it began, waiting on the engine;
* between two rounds, the next deadline one grid point further, the task marked to run again.

Before its deadline a sleeping loop is left as it was; at its deadline it ticks at once
(`Heartbeats.poll_asleep_early`, `Heartbeats.poll_asleep_due`).
-/

namespace ChatGateway

open Scheduling Scheduling.Executor Scheduling.Program

namespace HeartbeatPlan

/-! ## (1) The grid of deadlines -/

/-- **`due` is a point of the grid of `every` from `t0`,** the `n`-th point or a later one. -/
def OnGrid (every t0 n due : Nat) : Prop := ∃ j, n ≤ j ∧ due = t0 + j * every

/-- A point of the grid at or after the `n`-th lies `n` intervals after the start or later. -/
theorem OnGrid.le {every t0 n due : Nat} (hg : OnGrid every t0 n due) : t0 + n * every ≤ due := by
  obtain ⟨j, hj, rfl⟩ := hg
  have : n * every ≤ j * every := Nat.mul_le_mul_right every hj
  omega

/-- **The deadline after a tick is a later point of the grid of its deadline**, whenever the tick
fired. -/
theorem nextTick_onGrid {every due t : Nat} (hle : due ≤ t) :
    ∃ j, 1 ≤ j ∧ nextTick every due t = due + j * every := by
  unfold nextTick
  split
  · -- A late tick: the grid points it overran are skipped.
    refine ⟨(t - due) / every + 1, Nat.le_add_left _ _, ?_⟩
    have hdm := Nat.div_add_mod (t - due) every
    rw [Nat.add_mul, Nat.one_mul, Nat.mul_comm]
    generalize every * ((t - due) / every) = x at hdm ⊢
    generalize (t - due) % every = r at hdm ⊢
    omega
  · exact ⟨1, Nat.le_refl 1, by rw [Nat.one_mul]⟩

/-- **A late tick is followed by the first grid point after it.** -/
theorem nextTick_late {every due t : Nat} (hlate : due + lateness < t) (hpos : 0 < every) :
    t < nextTick every due t ∧ nextTick every due t ≤ t + every := by
  unfold nextTick
  rw [if_pos hlate]
  have hmod : (t - due) % every < every := Nat.mod_lt _ hpos
  omega

/-- A tick on time, or late by no more than `lateness`, is followed by the next grid point. -/
theorem nextTick_of_not_late {every due t : Nat} (h : ¬due + lateness < t) :
    nextTick every due t = due + every := by
  unfold nextTick
  rw [if_neg h]

/-- The deadline after a tick is on the grid, one point further at least. -/
theorem OnGrid.nextTick {every t0 n due t : Nat} (hg : OnGrid every t0 n due) (hle : due ≤ t) :
    OnGrid every t0 (n + 1) (HeartbeatPlan.nextTick every due t) := by
  obtain ⟨j, hj, rfl⟩ := hg
  obtain ⟨i, hi, heq⟩ := @nextTick_onGrid every _ _ hle
  refine ⟨j + i, by omega, ?_⟩
  rw [heq, Nat.add_mul]
  omega

end HeartbeatPlan

namespace Heartbeats

/-! ## (2) The loop, round by round -/

/-- **What a round does once its tick is over:** a failed tick is reported as an incident of the
service, and the round gives the deadline after `due`, for a tick that fired at `t`. -/
def afterTick (plan : HeartbeatPlan) (due t : Nat) :
    Except String HeartbeatOutcome → Act (Nat ⊕ Unit)
  | .error e => (modify fun (d : Deployment) => d.observe (.serviceFailed sender "tick" e)).bind
      fun _ => .pure (.inl (HeartbeatPlan.nextTick plan.everyMs due t))
  | .ok _ => .pure (.inl (HeartbeatPlan.nextTick plan.everyMs due t))

/-- **A round once its deadline `due` has come:** it reads the clock, ends the loop on a closed
bus, and otherwise ticks. -/
def awake (plan : HeartbeatPlan) (due : Nat) : Act (Nat ⊕ Unit) :=
  Scheduling.Program.now.bind fun t => (read fun (d : Deployment) => d.bus.closed).bind fun closed =>
    if closed then .pure (.inr ()) else (tick plan).bind (afterTick plan due t)

/-- A round sleeps until its deadline, and is then awake. -/
theorem timerRound_eq (plan : HeartbeatPlan) (due : Nat) :
    timerRound plan due = .sleepUntil due none fun _ => awake plan due :=
  rfl

/-- **The loop in the middle of a round:** `current` is what is left of the round, and the rounds
after it start from the deadline it gives. -/
def inRound (plan : HeartbeatPlan) (current : Act (Nat ⊕ Unit)) : Act Unit :=
  .loop (timerRound plan) current .pure

/-- The loop from a deadline is its first round. -/
theorem loop_eq (plan : HeartbeatPlan) (due : Nat) :
    loop plan due = inRound plan (timerRound plan due) :=
  rfl

/-- The heartbeat task reads its plan and starts the loop one interval from now. -/
theorem run_eq : run = (read fun (d : Deployment) => d.heartbeat).bind fun hb =>
    match hb with
    | none => .pure ()
    | some h => Scheduling.Program.now.bind fun t => loop h.plan (t + h.plan.everyMs) :=
  rfl

/-- **The loop asleep on timer `id` until `due`.** -/
def asleep (plan : HeartbeatPlan) (due id : Nat) : Act Unit :=
  inRound plan (.sleepUntil due (some id) fun _ => awake plan due)

/-- **The loop inside a tick** that fired at `t` for the deadline `due`, with the engine at `q`. -/
def ticking (plan : HeartbeatPlan) (due t : Nat) (q : Act (Except String EngineReply)) : Act Unit :=
  inRound plan (q.bind fun r => (afterReply plan r).bind (afterTick plan due t))

variable (me : Nat) (ex : Exec) (plan : HeartbeatPlan)

/-- **Before its deadline the loop takes a timer and sleeps.** -/
theorem poll_loop_early {due : Nat} (h : ex.now < due) :
    poll me ex (loop plan due) = ((ex.addTimer due me).1, asleep plan due ex.nextId) := by
  have hround : poll me ex (timerRound plan due) =
      ((ex.addTimer due me).1, .sleepUntil due (some ex.nextId) fun _ => awake plan due) := by
    simp only [timerRound_eq, poll, Nat.not_le.2 h, if_false]
    rfl
  rw [loop_eq, inRound, poll_loop_blocked (by rw [hround]; rfl), hround]
  rfl

/-- A poll of the loop in a round is a poll of the round, inside the loop. -/
theorem poll_inRound_congr {current current' : Act (Nat ⊕ Unit)}
    (h : poll me ex current = poll me ex current') :
    poll me ex (inRound plan current) = poll me ex (inRound plan current') := by
  simp only [inRound, poll, h]

/-- **At or after its deadline the loop is awake at once.** -/
theorem poll_loop_due {due : Nat} (h : due ≤ ex.now) :
    poll me ex (loop plan due) = poll me ex (inRound plan (awake plan due)) := by
  rw [loop_eq]
  refine poll_inRound_congr me ex plan ?_
  simp only [timerRound_eq, poll, h, if_true]

/-- **A sleeping loop is left as it was before its deadline.** -/
theorem poll_asleep_early {due id : Nat} (h : ex.now < due) :
    poll me ex (asleep plan due id) = (ex, asleep plan due id) := by
  have hround : poll me ex (.sleepUntil due (some id) fun _ => awake plan due) =
      (ex, .sleepUntil due (some id) fun _ => awake plan due) := by
    rw [poll_sleepUntil, if_neg (Nat.not_le.2 h)]
  unfold asleep inRound
  rw [poll_loop_blocked (by rw [hround]; rfl), hround]

/-- **A sleeping loop is awake at its deadline.** -/
theorem poll_asleep_due {due id : Nat} (h : due ≤ ex.now) :
    poll me ex (asleep plan due id) = poll me ex (inRound plan (awake plan due)) := by
  unfold asleep
  refine poll_inRound_congr me ex plan ?_
  rw [poll_sleepUntil, if_pos h]

/-- **On a closed bus the awake round ends the loop,** without asking the engine and without a
change. -/
theorem poll_awake_closed {due : Nat} (h : ex.shared.bus.closed = true) :
    poll me ex (awake plan due) = (ex, .pure (.inr ())) := by
  unfold awake
  rw [poll_now_bind, poll_read_bind]
  simp only [h, if_true]
  rfl

/-- On an open bus the awake round ticks, at the time it woke. -/
theorem poll_awake_open {due : Nat} (h : ex.shared.bus.closed = false) :
    poll me ex (awake plan due) = poll me ex ((tick plan).bind (afterTick plan due ex.now)) := by
  unfold awake
  rw [poll_now_bind, poll_read_bind]
  simp only [h, Bool.false_eq_true, if_false]

/-- Outside the active window a tick is over at once. -/
theorem poll_tick_bind_outside {β : Type} (g : Except String HeartbeatOutcome → Act β)
    (h : plan.window.contains (ex.shared.wallClock.minuteOf plan.zone ex.now).val = false) :
    poll me ex ((tick plan).bind g) = poll me ex (g (.ok .outsideActiveHours)) := by
  rw [poll_bind, poll_tick_outside me ex plan h]

/-- Inside the active window a tick asks the engine. -/
theorem poll_tick_bind_inside {β : Type} (g : Except String HeartbeatOutcome → Act β)
    (h : plan.window.contains (ex.shared.wallClock.minuteOf plan.zone ex.now).val = true) :
    poll me ex ((tick plan).bind g) =
      poll me ex (((Reasoning.process (prompt plan)).bind (afterReply plan)).bind g) := by
  rw [poll_bind, poll_tick_inside me ex plan h, ← poll_bind]

/-- Without a heartbeat the heartbeat task ends at its first poll. -/
theorem poll_run_none (h : ex.shared.heartbeat = none) : poll me ex run = (ex, .pure ()) := by
  rw [run_eq, poll_read_bind, h]
  rfl

/-- **The heartbeat task's first poll starts the loop,** its first deadline one interval on. -/
theorem poll_run {service : HeartbeatService} (h : ex.shared.heartbeat = some service) :
    poll me ex run = poll me ex (loop service.plan (ex.now + service.plan.everyMs)) := by
  rw [run_eq, poll_read_bind, h]
  dsimp only
  rw [poll_now_bind]

/-- **After a tick the round is over within the same poll,** reporting a failed tick first, and
gives the deadline after `due`; only the deployment may change. -/
theorem poll_afterTick (due t : Nat) (r : Except String HeartbeatOutcome) :
    ∃ d, poll me ex (afterTick plan due t r) =
      ({ ex with shared := d }, .pure (.inl (HeartbeatPlan.nextTick plan.everyMs due t))) := by
  cases r with
  | error e => exact ⟨ex.shared.observe (.serviceFailed sender "tick" e), poll_modify_bind me ex _ _⟩
  | ok _ => exact ⟨ex.shared, rfl⟩

/-- **What the engine answered is dealt with within the same poll.** -/
theorem afterReply_ends (r : Except String EngineReply) :
    ∃ o, (poll me ex (afterReply plan r)).2 = .pure o := by
  cases r with
  | error e => exact ⟨_, congrArg Prod.snd (poll_afterReply_error me ex plan e)⟩
  | ok r =>
    cases hskip : (Heartbeat.stripAck r.text plan.ackMaxChars).shouldSkip with
    | true => exact ⟨_, congrArg Prod.snd (poll_afterReply_suppressed me ex plan hskip)⟩
    | false => exact ⟨_, congrArg Prod.snd (poll_afterReply_delivered me ex plan hskip)⟩

/-- **A round that ends ends the poll:** the loop's task is woken, and the loop stands at the round
of the next deadline. -/
theorem poll_inRound_next {current : Act (Nat ⊕ Unit)} {ex' : Exec} {next : Nat}
    (h : poll me ex current = (ex', .pure (.inl next))) :
    poll me ex (inRound plan current) = (ex'.wake me, loop plan next) :=
  poll_loop_again h

/-! ## (3) Where a poll leaves the loop -/

/-- **Where a poll leaves the loop of task `h` started at `t0`,** in the executor `ex` the poll
ended with. -/
inductive LeftAt (h t0 : Nat) (ex : Exec) : Act Unit → Prop where
  /-- Ended: on a closed bus, or by a panic. -/
  | done {p : Act Unit} : p.isDone = true → LeftAt h t0 ex p
  /-- Asleep until the deadline after `begun` ticks, still to come, with its timer pending. -/
  | sleeping {plan : HeartbeatPlan} {begun due id : Nat} :
      HeartbeatPlan.OnGrid plan.everyMs t0 (begun + 1) due → t0 + begun * plan.everyMs ≤ ex.now →
      ex.now < due → ⟨id, due, h⟩ ∈ ex.timers → LeftAt h t0 ex (asleep plan due id)
  /-- Inside tick `begun + 1`, which fired at `t`, not before its deadline, with the engine at
  `q`, waiting. -/
  | inTick {plan : HeartbeatPlan} {begun due t : Nat} {q : Act (Except String EngineReply)} :
      HeartbeatPlan.OnGrid plan.everyMs t0 (begun + 1) due → due ≤ t → t ≤ ex.now →
      Program.Runs h (Reasoning.process (prompt plan)) q → q.isDone = false →
      LeftAt h t0 ex (ticking plan due t q)
  /-- Between two rounds, after `begun` ticks, the next deadline on the grid, with the task
  marked to run again. -/
  | between {plan : HeartbeatPlan} {begun due : Nat} :
      HeartbeatPlan.OnGrid plan.everyMs t0 (begun + 1) due → t0 + begun * plan.everyMs ≤ ex.now →
      (∃ k, ex.task? h = some k ∧ k.rewake = true) → LeftAt h t0 ex (loop plan due)

variable {h t0 : Nat} {plan : HeartbeatPlan}

/-- **A round over after tick `begun + 1`, which fired at `t`, leaves the loop between rounds,**
the next deadline one grid point further. -/
theorem leftAt_next {ex ex' : Exec} (hrun : Running ex h) {current : Act (Nat ⊕ Unit)}
    {begun due t : Nat} (hg : HeartbeatPlan.OnGrid plan.everyMs t0 (begun + 1) due) (hdue : due ≤ t)
    (ht : t ≤ ex.now)
    (hround : poll h ex current = (ex', .pure (.inl (HeartbeatPlan.nextTick plan.everyMs due t)))) :
    LeftAt h t0 (poll h ex (inRound plan current)).1 (poll h ex (inRound plan current)).2 := by
  have hnow : ex'.now = ex.now := by
    rw [← (poll_steady h ex current).now, hround]
  have hrun' : Running ex' h := by
    have := hrun.steady (poll_steady h ex current)
    rwa [hround] at this
  rw [poll_inRound_next h ex plan hround]
  have hreach := hg.le
  refine .between (hg.nextTick hdue) ?_ hrun'.wake
  rw [(Steady.wake _ h).now, hnow]
  rw [Nat.add_mul, Nat.one_mul] at hreach ⊢
  omega

/-- **A poll inside a tick:** the engine goes on, or it answers and the round is over. -/
theorem leftAt_ticking (ex : Exec) (hrun : Running ex h) {begun due t : Nat}
    {q : Act (Except String EngineReply)}
    (hg : HeartbeatPlan.OnGrid plan.everyMs t0 (begun + 1) due) (hdue : due ≤ t) (ht : t ≤ ex.now)
    (hq : Program.Runs h (Reasoning.process (prompt plan)) q) :
    LeftAt h t0 (poll h ex (ticking plan due t q)).1 (poll h ex (ticking plan due t q)).2 := by
  have hnow : (poll h ex q).1.now = ex.now := (poll_steady h ex q).now
  have hnext : Program.Runs h (Reasoning.process (prompt plan)) (poll h ex q).2 := hq.tail ⟨ex, rfl⟩
  unfold ticking
  cases hd : (poll h ex q).2.isDone with
  | false =>
    -- The engine has not answered: the tick goes on, inside the loop.
    rw [inRound, poll_loop_blocked (by rw [poll_bind_blocked hd]; exact Program.isDone_bind hd _),
      poll_bind_blocked hd]
    exact .inTick hg hdue (by rw [hnow]; exact ht) hnext hd
  | true =>
    cases hq₁ : (poll h ex q).2 with
    | pure r =>
      -- The engine answered: the answer is dealt with and the round is over, all in this poll.
      obtain ⟨o, ho⟩ := afterReply_ends h (poll h ex q).1 plan r
      obtain ⟨d, hafter⟩ := poll_afterTick h (poll h (poll h ex q).1 (afterReply plan r)).1 plan due t o
      exact leftAt_next hrun hg hdue ht (by
        rw [poll_bind_of_pure (Prod.ext rfl hq₁), poll_bind_of_pure (Prod.ext rfl ho), hafter])
    | panic m =>
      rw [inRound, poll_loop_panic (by rw [poll_bind, show poll h ex q = (_, .panic m) from Prod.ext rfl hq₁])]
      exact .done rfl
    | _ =>
      rw [hq₁] at hd
      cases hd

/-- **A poll of the awake loop:** it ends on a closed bus; otherwise its tick fires now, asks the
engine inside the active window, and is over at once outside it. -/
theorem leftAt_awake (ex : Exec) (hrun : Running ex h) {begun due : Nat}
    (hg : HeartbeatPlan.OnGrid plan.everyMs t0 (begun + 1) due) (hdue : due ≤ ex.now) :
    LeftAt h t0 (poll h ex (inRound plan (awake plan due))).1
      (poll h ex (inRound plan (awake plan due))).2 := by
  cases hc : ex.shared.bus.closed with
  | true =>
    rw [inRound, poll_loop_exit (poll_awake_closed h ex plan hc)]
    exact .done rfl
  | false =>
    rw [poll_inRound_congr h ex plan (poll_awake_open h ex plan hc)]
    cases hw : plan.window.contains (ex.shared.wallClock.minuteOf plan.zone ex.now).val with
    | false =>
      -- Outside the active window the tick is over at once, and so is the round.
      obtain ⟨d, hafter⟩ := poll_afterTick h ex plan due ex.now (.ok .outsideActiveHours)
      exact leftAt_next hrun hg hdue (Nat.le_refl _)
        ((poll_tick_bind_outside h ex plan _ hw).trans hafter)
    | true =>
      rw [poll_inRound_congr h ex plan (poll_tick_bind_inside h ex plan _ hw), Program.bind_assoc]
      exact leftAt_ticking ex hrun hg hdue (Nat.le_refl _) .refl

/-- **Every poll of the loop from a deadline on the grid leaves it somewhere it may be:** before
the deadline it takes a timer and sleeps, and from the deadline on it is awake. -/
theorem leftAt_loop (ex : Exec) (hrun : Running ex h) {begun due : Nat}
    (hg : HeartbeatPlan.OnGrid plan.everyMs t0 (begun + 1) due)
    (hcount : t0 + begun * plan.everyMs ≤ ex.now) :
    LeftAt h t0 (poll h ex (loop plan due)).1 (poll h ex (loop plan due)).2 := by
  by_cases hdue : due ≤ ex.now
  · rw [poll_loop_due h ex plan hdue]
    exact leftAt_awake ex hrun hg hdue
  · rw [poll_loop_early h ex plan (Nat.lt_of_not_le hdue)]
    exact .sleeping hg hcount (Nat.lt_of_not_le hdue) (mem_insertTimer.2 (.inl rfl))

/-- **A poll of the sleeping loop:** before its deadline it stays asleep, and at it, it is
awake. -/
theorem leftAt_asleep (ex : Exec) (hrun : Running ex h) {begun due id : Nat}
    (hg : HeartbeatPlan.OnGrid plan.everyMs t0 (begun + 1) due)
    (hcount : t0 + begun * plan.everyMs ≤ ex.now)
    (hpending : ex.now < due → ⟨id, due, h⟩ ∈ ex.timers) :
    LeftAt h t0 (poll h ex (asleep plan due id)).1 (poll h ex (asleep plan due id)).2 := by
  by_cases hlt : ex.now < due
  · rw [poll_asleep_early h ex plan hlt]
    exact .sleeping hg hcount hlt (hpending hlt)
  · rw [poll_asleep_due h ex plan (Nat.le_of_not_lt hlt)]
    exact leftAt_awake ex hrun hg (Nat.le_of_not_lt hlt)

/-- **The first poll of the heartbeat task,** at `t0`: without a heartbeat it ends, and
otherwise the loop starts with its first deadline one interval on. -/
theorem leftAt_run (ex : Exec) (hrun : Running ex h) (hnow : ex.now = t0) :
    LeftAt h t0 (poll h ex run).1 (poll h ex run).2 := by
  cases hb : ex.shared.heartbeat with
  | none =>
    rw [poll_run_none h ex hb]
    exact .done rfl
  | some service =>
    rw [poll_run h ex hb]
    have hfirst : HeartbeatPlan.OnGrid service.plan.everyMs t0 (0 + 1)
        (ex.now + service.plan.everyMs) := ⟨1, Nat.le_refl 1, by rw [hnow, Nat.one_mul]⟩
    exact leftAt_loop ex hrun hfirst (by rw [Nat.zero_mul, Nat.add_zero, hnow])

end Heartbeats

end ChatGateway
