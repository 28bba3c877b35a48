import ChatGateway.Proofs.Lifecycle.Parts

/-! # The gateway's life along every run

One poll of a task keeps the lifecycle invariant, whatever part the task plays
(`Lifecycle.polled_of_sound`): work that leaves the lifecycle alone keeps it by its frame; a start
yet to run leaves `stopped`, calls its channels and waits for their answers, or answers at once; a
start waiting for its channels records their answers once the last is in and waits out the cron
service's delay; a start at that delay goes on to `running`, and runs a stop requested meanwhile.
A stop yet to run leaves `running` and waits out the cron service's delay, or is remembered while
starting, or does nothing; a stop at that delay calls its channels and waits for their answers;
a stop waiting for its channels ends the life once the last is in. Every poll leaves the
deployment no earlier in the life.

`Lifecycle.Inv` adds that the main program leaves the lifecycle alone; it holds at the start of a
run from a gateway never started, and every move of the executor keeps it (`Inv.reaches`), with
the deployment coming no earlier in the life at each move.
-/

namespace ChatGateway

open Scheduling Scheduling.Executor Deployment

namespace Lifecycle

/-- **What one poll of task `t` leaves:** parts under which the invariant holds for every task but
`t`; `t`'s new view plays its part; `t` is still there as it was; and the deployment comes no
earlier in the life. -/
def Polled (d₀ : Deployment) (ex : Exec) (t : Nat) (r : Exec × Act Unit) : Prop :=
  ∃ φ', LifeBut d₀ r.1.seen φ' t ∧ Sound d₀ t (φ' t) (TaskView.after r.2 false) ∧
    r.1.look t = ex.look t ∧ LifeAfter ex.shared r.1.shared

variable {d₀ : Deployment} {φ : Nat → Part} {t : Nat} {ex : Exec}

namespace Polled

/-- A poll from an executor that came first. -/
theorem of_before {ex₁ : Exec} {r : Exec × Act Unit} (h : Polled d₀ ex₁ t r)
    (hlook : ex₁.look t = ex.look t) (hlife : LifeAfter ex.shared ex₁.shared) : Polled d₀ ex t r := by
  obtain ⟨φ', hb, hs, hl, ha⟩ := h
  exact ⟨φ', hb, hs, hl.trans hlook, hlife.trans ha⟩

/-- **A task whose work is done** has nothing left to run. -/
theorem done {ex' : Exec} {φ' : Nat → Part} (h : LifeBut d₀ ex'.seen φ' t) (hφ : φ' t = .work)
    (hlook : ex'.look t = ex.look t) (hlife : LifeAfter ex.shared ex'.shared) :
    Polled d₀ ex t (ex', .pure ()) := by
  refine ⟨φ', h, ?_, hlook, hlife⟩
  rw [hφ]
  simp [Sound, TaskView.after, Program.isDone]

/-- **A background start keeps its outcome** and is done. -/
theorem kept {ex' : Exec} {φ' : Nat → Part} (h : LifeBut d₀ ex'.seen φ' t) (hφ : φ' t = .work)
    (hlook : ex'.look t = ex.look t) (hlife : LifeAfter ex.shared ex'.shared)
    (r : Except GatewayError Unit) : Polled d₀ ex t (poll t ex' (Lifecycle.kept r)) := by
  have hk := KeepsLifecycle.write ex' (keepStart r) (.of_eq rfl rfl rfl rfl rfl rfl)
  exact done (h.keeps hk) hφ hlook (hlife.trans (.of_keepsLife hk.shared))

end Polled

/-! ## One poll in each part -/

/-- **Work that leaves the lifecycle alone,** or the heartbeat's loop, keeps the invariant. -/
theorem polled_within (h : LifeBut d₀ ex.seen φ t) (hlook : ex.look t ≠ none)
    (hφ : φ t = .work ∨ φ t = .beat) {p : Act Unit} (hp : Program.Within KeepsLifecycle t true p) :
    Polled d₀ ex t (poll t ex p) := by
  obtain ⟨reach, within⟩ := hp.poll_spec ex
  have hk := KeepsLifecycle.of_reach reach
  refine ⟨φ, h.keeps hk, ?_, hk.look_eq hlook, .of_keepsLife hk.shared⟩
  unfold TaskView.after
  split
  · rcases hφ with hφ | hφ <;> rw [hφ] <;> simp [Sound]
  · rcases hφ with hφ | hφ <;> rw [hφ] <;> simp [Sound, within]

/-- **A poll of what is left of the channels' join** keeps the invariant, the task's view and the
life as they were: the join only sleeps. -/
theorem join_keeps (h : LifeBut d₀ ex.seen φ t) (hlook : ex.look t ≠ none)
    {calls : List (String × Nat × Except String Unit)} {q : Act (List (String × Except String Unit))}
    (hq : Program.Runs t (awaitAnswers calls) q) :
    LifeBut d₀ (poll t ex q).1.seen φ t ∧ (poll t ex q).1.look t = ex.look t ∧
      LifeAfter ex.shared (poll t ex q).1.shared := by
  have hw : Program.Within KeepsLifecycle t false q :=
    (awaitAnswers_within (KeepsLifecycle.routine t) calls).runs hq
  have hk := KeepsLifecycle.of_reach (hw.poll_spec ex).1
  exact ⟨h.keeps hk, hk.look_eq hlook, .of_keepsLife hk.shared⟩

/-- **A stop waiting for its channels' answers:** once the last is in, the answers are recorded,
the bus closed and the gateway `stopped` for good, and the stop is done; until then the join goes
on. -/
theorem polled_lowering (h : LifeBut d₀ ex.seen φ t) (hlook : ex.look t ≠ none)
    (hφ : φ t = .lowering) {k : Unit → Act Unit} (hk : Ending k) {p : Act Unit}
    (hp : Lowering t k p) : Polled d₀ ex t (poll t ex p) := by
  obtain ⟨calls, q, hq, rfl⟩ := hp
  obtain ⟨h₁, hlook₁, hlife₁⟩ := join_keeps h hlook hq
  rcases Program.poll_bind_cases ex q (fun answers => stopAnswered answers k) with
    ⟨answers, -, heq⟩ | heq
  · -- The last answer is in: the stop ends in this poll.
    rw [heq, poll_stopAnswered]
    have hsh₁ : Shaped d₀ (poll t ex q).1.shared := h₁.shaped
    have hs₁ : (poll t ex q).1.shared.stage = 4 := h₁.waits t 4 (by rw [hφ]; rfl)
    have h₂ := h₁.lowered (by rw [hlook₁]; exact hlook) hφ answers
    have hlife : LifeAfter ex.shared (lowered answers (poll t ex q).1.shared) :=
      hlife₁.trans (.to_five (hsh₁.lowered hs₁ answers).2)
    rcases hk with rfl | rfl
    · exact .done h₂ (Function.update_self _ _ _) hlook₁ hlife
    · exact .kept h₂ (Function.update_self _ _ _) hlook₁ hlife _
  · -- Still waiting: the join has moved on, nothing else has.
    rw [heq]
    refine ⟨φ, h₁, ?_, hlook₁, hlife₁⟩
    rw [hφ]
    exact sound_lowering_after hk ⟨calls, _, hq.tail ⟨ex, rfl⟩, rfl⟩

/-- **The rest of a stop** reports the cron service's answer, unsubscribes the router and calls
the channels, and goes on waiting for their answers. -/
theorem polled_stopRest (h : LifeBut d₀ ex.seen φ t) (hlook : ex.look t ≠ none)
    (hφ : φ t = .stopping) (d : Deployment) {k : Unit → Act Unit} (hk : Ending k) :
    Polled d₀ ex t (poll t ex (stopRest d k)) := by
  rw [poll_stopRest]
  obtain ⟨D, hD, hseen⟩ := stopReported_seen d ex
  -- The cron service's answer touches the incidents only.
  have h₁ : LifeBut d₀ (stopReported d ex).seen φ t := by
    rw [hseen]
    exact h.keeps (KeepsLifecycle.write ex (fun _ => D) hD)
  have hlook₁ : (stopReported d ex).look t = ex.look t := congrArg (Seen.look · t) hseen
  have hshared₁ : (stopReported d ex).shared = D := congrArg Seen.shared hseen
  have hthere : (stopReported d ex).look t ≠ none := by rw [hlook₁]; exact hlook
  have hsh₁ : Shaped d₀ (stopReported d ex).shared := h₁.shaped
  have hs₁ : (stopReported d ex).shared.stage = 3 := h₁.waits t 3 (by rw [hφ]; rfl)
  have hlife : LifeAfter ex.shared (lowering (stopReported d ex).shared) := by
    rw [← hshared₁] at hD
    exact (LifeAfter.of_keepsLife hD).trans (hsh₁.lowering hs₁).2.2
  have h₂ := h₁.lowering hthere hφ
  exact (polled_lowering h₂ hthere (Function.update_self _ _ _) hk
    ⟨stopCalls (stopReported d ex).shared, _, .refl, rfl⟩).of_before hlook₁ hlife

/-- **A stop waiting out the cron service's delay:** once it has passed the stop goes on; until
then nothing happens. -/
theorem polled_stopping (h : LifeBut d₀ ex.seen φ t) (hlook : ex.look t ≠ none)
    (hφ : φ t = .stopping) {d : Deployment} {k : Unit → Act Unit} (hk : Ending k) {p : Act Unit}
    (hp : StopWaiting d k p) : Polled d₀ ex t (poll t ex p) := by
  obtain ⟨deadline, timer, rfl⟩ := hp
  rw [poll_sleepUntil]
  split
  · exact polled_stopRest h hlook hφ d hk
  · refine ⟨φ, h, ?_, rfl, .refl _⟩
    rw [hφ]
    exact sound_stopping_after hk ⟨deadline, timer, rfl⟩

/-- **A stop from `running`,** followed by the end of a background stop or start: it runs to the
cron service's delay, or on to the channels' answers. -/
theorem polled_stop_running (h : LifeBut d₀ ex.seen φ t) (hs : ex.shared.stage = 2)
    (hφ : φ t = .work) (hlook : ex.look t ≠ none) {k : Unit → Act Unit} (hk : Ending k) :
    Polled d₀ ex t (poll t ex (stop.bind k)) ∧ 3 ≤ (poll t ex (stop.bind k)).1.shared.stage := by
  have hsh : Shaped d₀ ex.shared := h.shaped
  rw [poll_stop_order t ex k (stage_eq_two.1 hs)]
  obtain ⟨h₁, hlook₁⟩ := h.halted hs (by simp [hφ]) hlook
  obtain ⟨-, hstage₁, hlife₁⟩ := hsh.halted hs
  rw [← stopCalled_shared] at hstage₁ hlife₁
  have hthere : (stopCalled ex).look t ≠ none := by rw [hlook₁]; exact hlook
  rw [poll_sleep_bind]
  split
  · obtain ⟨φ', hb', hsound', hlook', hlife'⟩ :=
      polled_stopRest h₁ hthere (Function.update_self _ _ _) ex.shared hk
    have hle := hlife'.stage
    exact ⟨⟨φ', hb', hsound', hlook'.trans hlook₁, hlife₁.trans hlife'⟩, by omega⟩
  · -- The stop waits out the cron service's stop delay, in `stopping`.
    have hkt := KeepsLifecycle.addTimer (stopCalled ex)
      ((stopCalled ex).now + cronStopDelay ex.shared) t
    refine ⟨⟨_, h₁.keeps hkt, ?_, hlook₁, hlife₁.trans (.of_keepsLife hkt.shared)⟩,
      by change 3 ≤ (stopCalled ex).shared.stage; omega⟩
    rw [Function.update_self]
    exact sound_stopping_after hk ⟨_, _, rfl⟩

/-- **The rest of a start,** once the cron service's delay has passed: the gateway runs, and a stop
requested meanwhile runs now. -/
theorem polled_startRest (h : LifeBut d₀ ex.seen φ t) (hφ : φ t = .starting)
    (hlook : ex.look t ≠ none) (d : Deployment)
    (hd : d.heartbeat.isSome = ex.shared.heartbeat.isSome) :
    Polled d₀ ex t (poll t ex (startRest d)) := by
  have hsh : Shaped d₀ ex.shared := h.shaped
  have hs : ex.shared.stage = 1 := h.waits t 1 (by rw [hφ]; rfl)
  rw [poll_startRest]
  change Polled d₀ ex t (poll t (upRunning d ex)
    (if (servicesStarted d ex).shared.lifecycle.stopRequested then stop.bind fun _ => kept (.ok ())
     else kept (.ok ())))
  obtain ⟨-, -, -, -, -, hreq⟩ := upRunning_eq hsh hs d hd
  obtain ⟨ha, hr⟩ := upRunning_subscriptions hsh hs d hd
  obtain ⟨φ₂, h₂, hφ₂, hstage₂, hlook₂⟩ := h.upRunning hφ hlook d hd
  rw [hreq]
  cases hreqd : ex.shared.lifecycle.stopRequested with
  | false =>
    -- No stop was requested: the start is done and the gateway runs.
    refine .kept h₂ hφ₂ hlook₂ (.of_stage_lt (by omega) (fun hi => ?_) (fun _ _ => ha)
      (fun _ _ => hr)) _
    rcases hi with hi | ⟨-, hi⟩
    · omega
    · rw [hreqd] at hi
      cases hi
  | true =>
    -- The stop requested meanwhile runs now, in the same poll.
    rw [if_pos rfl]
    obtain ⟨hp, h3⟩ := polled_stop_running h₂ hstage₂ hφ₂ (by rw [hlook₂]; exact hlook) (.inr rfl)
    obtain ⟨φ', hb', hsound', hlook', hlife'⟩ := hp
    refine ⟨φ', hb', hsound', hlook'.trans hlook₂, ⟨by omega, fun _ => stopIssued_of_three_le h3,
      fun _ h4 => ?_, fun _ h3' => ?_, fun h2 _ => by omega⟩⟩
    · exact (hlife'.adapter (by omega) h4).trans ha
    · exact (hlife'.router (by omega) h3').trans hr

/-- **A start at the cron service's delay:** once it has passed the start goes on at once;
otherwise it waits it out, in `starting`. -/
theorem polled_startDelay (h : LifeBut d₀ ex.seen φ t) (hlook : ex.look t ≠ none)
    (hφ : φ t = .starting) (d : Deployment) (hd : d.heartbeat.isSome = d₀.heartbeat.isSome)
    (ms : Nat) : Polled d₀ ex t (poll t ex ((Program.sleep ms).bind fun _ => startRest d)) := by
  have hsh : Shaped d₀ ex.shared := h.shaped
  rw [poll_sleep_bind]
  split
  · exact polled_startRest h hφ hlook d (hd.trans hsh.hasHeartbeat.symm)
  · have hkt := KeepsLifecycle.addTimer ex (ex.now + ms) t
    refine ⟨φ, h.keeps hkt, ?_, rfl, .of_keepsLife hkt.shared⟩
    rw [hφ]
    exact sound_starting_after hd ⟨_, _, rfl⟩

/-- **A start waiting out the cron service's delay:** once it has passed the start goes on; until
then nothing happens. -/
theorem polled_starting (h : LifeBut d₀ ex.seen φ t) (hlook : ex.look t ≠ none)
    (hφ : φ t = .starting) {d : Deployment} (hd : d.heartbeat.isSome = d₀.heartbeat.isSome)
    {p : Act Unit} (hp : StartWaiting d p) : Polled d₀ ex t (poll t ex p) := by
  have hsh : Shaped d₀ ex.shared := h.shaped
  obtain ⟨deadline, timer, rfl⟩ := hp
  rw [poll_sleepUntil]
  split
  · exact polled_startRest h hφ hlook d (hd.trans hsh.hasHeartbeat.symm)
  · refine ⟨φ, h, ?_, rfl, .refl _⟩
    rw [hφ]
    exact sound_starting_after hd ⟨deadline, timer, rfl⟩

/-- **A start waiting for its channels' answers:** once the last is in, they are recorded as the
calls gave them, the cron service's start is counted and the start goes on to the service's
delay; until then the join goes on. -/
theorem polled_raising (h : LifeBut d₀ ex.seen φ t) (hlook : ex.look t ≠ none)
    {calls : List (String × Nat × Except String Unit)} (hφ : φ t = .raising calls) {p : Act Unit}
    (hp : Raising t calls p) : Polled d₀ ex t (poll t ex p) := by
  obtain ⟨q, hq, rfl⟩ := hp
  obtain ⟨h₁, hlook₁, hlife₁⟩ := join_keeps h hlook hq
  rcases Program.poll_bind_cases ex q startAnswered with ⟨answers, hdone, heq⟩ | heq
  · -- The last answer is in, and the answers are the calls' own.
    have hans : answers = answersOf calls := awaitAnswers_ends (hq.tail ⟨ex, hdone⟩)
    rw [heq, hans, poll_startAnswered_order]
    have hthere : (poll t ex q).1.look t ≠ none := by rw [hlook₁]; exact hlook
    have h₂ := h₁.startsSettled hthere hφ
    have hhb : (poll t ex q).1.shared.heartbeat.isSome = d₀.heartbeat.isSome :=
      h₁.shaped.hasHeartbeat
    exact (polled_startDelay h₂ hthere (Function.update_self _ _ _) _ hhb _).of_before hlook₁
      (hlife₁.trans (.startsSettled _ _))
  · -- Still waiting: the join has moved on, nothing else has.
    rw [heq]
    refine ⟨φ, h₁, ?_, hlook₁, hlife₁⟩
    rw [hφ]
    exact sound_raising_after ⟨_, hq.tail ⟨ex, rfl⟩, rfl⟩

/-- **A start yet to run:** from `stopped` on an open bus it leaves `stopped`, calls its channels
and waits for their answers; otherwise it keeps its answer at once. -/
theorem polled_start (h : LifeBut d₀ ex.seen φ t) (hlook : ex.look t ≠ none) (hφ : φ t = .work) :
    Polled d₀ ex t (poll t ex (Job.program .gatewayStart)) := by
  by_cases hstage : ex.shared.stage = 0
  · obtain ⟨hstopped, hopen⟩ := stage_eq_zero.1 hstage
    rw [poll_start_order t ex hstopped hopen]
    exact (polled_raising (h.raised hstage hlook) hlook (Function.update_self _ _ _)
      ⟨_, .refl, rfl⟩).of_before rfl (.of_stage_zero hstage _)
  · -- Not `stopped` with the bus open: the answer is kept at once.
    have hkeep : ∀ r, Polled d₀ ex t ({ ex with shared := keepStart r ex.shared }, .pure ()) := by
      intro r
      have hk := KeepsLifecycle.write ex (keepStart r) (.of_eq rfl rfl rfl rfl rfl rfl)
      exact .done (h.keeps hk) hφ rfl (.of_keepsLife hk.shared)
    rw [poll_startJob]
    split
    · exact hkeep _
    · split
      · exact hkeep _
      · rename_i hstopped hclosed
        exact absurd (stage_eq_zero.2 ⟨not_not.1 hstopped, by simpa using hclosed⟩) hstage

/-- **A stop yet to run:** from `running` it runs to the cron service's delay or on; while
starting it is remembered; otherwise it does nothing. -/
theorem polled_stop (h : LifeBut d₀ ex.seen φ t) (hlook : ex.look t ≠ none) (hφ : φ t = .work) :
    Polled d₀ ex t (poll t ex (Job.program .gatewayStop)) := by
  have hjob : Job.program .gatewayStop = stop.bind fun _ => .pure () := (Program.bind_pure stop).symm
  rw [hjob]
  by_cases hrunning : ex.shared.lifecycle.state = .running
  · exact (polled_stop_running h (stage_eq_two.2 hrunning) hφ hlook (.inl rfl)).1
  · rw [poll_stop_bind]
    split
    · rename_i hr
      exact absurd hr hrunning
    · rename_i hstarting
      have hs : ex.shared.stage = 1 := stage_eq_one.2 hstarting
      exact .done (h.stopRequested hs) hφ rfl (.stopRequested hs)
    · exact .done h hφ rfl (.refl _)

/-- **One poll of a task that plays its part keeps the invariant.** -/
theorem polled_of_sound (h : LifeBut d₀ ex.seen φ t) (hlook : ex.look t ≠ none)
    {v : TaskView Job Deployment} (hv : Sound d₀ t (φ t) v) : Polled d₀ ex t (poll t ex v.program) := by
  cases hφ : φ t with
  | work =>
    rw [hφ] at hv
    obtain ⟨hdone, hlive⟩ := hv
    cases hd : v.done with
    | true => exact polled_within h hlook (.inl hφ) (hdone hd ▸ .pure ())
    | false =>
      rcases hlive hd with hw | hstart | hstop
      · exact polled_within h hlook (.inl hφ) hw
      · rw [hstart]
        exact polled_start h hlook hφ
      · rw [hstop]
        exact polled_stop h hlook hφ
  | beat =>
    rw [hφ] at hv
    obtain ⟨hdone, hlive⟩ := hv
    cases hd : v.done with
    | true => exact polled_within h hlook (.inr hφ) (hdone hd ▸ .pure ())
    | false => exact polled_within h hlook (.inr hφ) (hlive hd)
  | raising calls =>
    rw [hφ] at hv
    exact polled_raising h hlook hφ hv.2.2
  | starting =>
    rw [hφ] at hv
    obtain ⟨d, hd, hw⟩ := hv.2.2
    exact polled_starting h hlook hφ hd hw
  | stopping =>
    rw [hφ] at hv
    obtain ⟨d, k, hk, hw⟩ := hv.2.2
    exact polled_stopping h hlook hφ hk hw
  | lowering =>
    rw [hφ] at hv
    obtain ⟨k, hk, hw⟩ := hv.2.2
    exact polled_lowering h hlook hφ hk hw

/-- **Running a task keeps the invariant,** whichever task the scheduler picks, and leaves the
deployment no earlier in the life. -/
theorem runTask_life (h : LifeBut d₀ ex.seen φ 0) (main : MainView) (t : Nat) :
    ∃ φ', LifeBut d₀ (ex.runTask main t).seen φ' 0 ∧
      LifeAfter ex.shared (ex.runTask main t).shared := by
  cases hk : ex.task? t with
  | none =>
    have hrun : ex.runTask main t = ex := by
      unfold runTask
      rw [hk]
    rw [hrun]
    exact ⟨φ, h, .refl _⟩
  | some k =>
    have hview : ex.look t = some k.view := by simp [look, hk]
    have ht0 : t ≠ 0 := by
      rintro rfl
      rw [look_zero] at hview
      cases hview
    have hb := h.running (look_zero ex) t
    have hsound := h.sound t k.view ht0 hview
    cases hc : k.cancelled with
    | true =>
      -- A cancelled task ends.
      have hseen := runTask_seen_of_cancelled ex main hk hc
      have hshared : (ex.runTask main t).shared = ex.shared := congrArg Seen.shared hseen
      rw [hseen, hshared]
      exact ⟨φ, hb.close (hsound.cancelled hc), .refl _⟩
    | false =>
      -- While it runs, the task shows its program, not ended and not cancelled.
      have hmr : (ex.markRunning t).seen = ex.seen.setLook t (some ⟨k.program, false, false⟩) := by
        unfold markRunning
        rw [seen_modifyTask, hk]
        simp only [Option.map_some, Function.comp_apply, Task.view, TaskState.isDone, hc]
      have hlook₀ : (ex.markRunning t).look t = some ⟨k.program, false, false⟩ := by
        change (ex.markRunning t).seen.look t = _
        rw [hmr]
        simp [Seen.setLook]
      have hb₀ : LifeBut d₀ (ex.markRunning t).seen φ t := by
        rw [hmr]
        exact hb.setLook_self _
      have hp : Polled d₀ (ex.markRunning t) t (poll t (ex.markRunning t) k.program) :=
        polled_of_sound hb₀ (by rw [hlook₀]; exact Option.some_ne_none _) hsound
      have hseen := runTask_seen ex main hk hc
      have hshared : (ex.runTask main t).shared = _ := congrArg Seen.shared hseen
      dsimp only at hseen hshared
      generalize poll t (ex.markRunning t) k.program = r at hseen hshared hp
      obtain ⟨φ', hb', hsound', hlook', hlife'⟩ := hp
      -- The task is still there, and nothing cancelled it while it ran.
      obtain ⟨k', hk', hc'⟩ : ∃ k', r.1.task? t = some k' ∧ k'.cancelled = false := by
        rw [hlook₀] at hlook'
        cases hr : r.1.task? t with
        | none => simp [look, hr] at hlook'
        | some k' =>
          simp only [look, hr, Option.map_some, Option.some.injEq] at hlook'
          exact ⟨k', rfl, congrArg TaskView.cancelled hlook'⟩
      rw [hk', Option.map_some, hc'] at hseen
      rw [hseen, hshared]
      exact ⟨φ', hb'.close hsound', hlife'⟩

/-! ## The invariant of a run -/

/-- **The invariant of a configuration:** every task plays some part, and the main program leaves
the lifecycle alone. -/
def Inv {α : Type} (d₀ : Deployment) (c : Exec × Act α) : Prop :=
  (∃ φ, LifeBut d₀ c.1.seen φ 0) ∧ Program.Within KeepsLifecycle 0 true c.2

/-- **The invariant holds at the start** of a run from a gateway never started, whose main
program leaves the lifecycle alone. -/
theorem inv_start {α : Type} (hfresh : Fresh d₀) {main : Act α}
    (hmain : Program.Within KeepsLifecycle 0 true main) :
    Inv d₀ (Executor.start Job.program d₀, main) := by
  have hs : d₀.stage = 0 := stage_eq_zero.2 ⟨hfresh.state, hfresh.busOpen⟩
  have hnone : ∀ u v, (Executor.start Job.program d₀).seen.look u = some v → False := by
    intro u v hv
    change (Executor.start Job.program d₀).look u = some v at hv
    rw [ChatLocks.look_start] at hv
    cases hv
  refine ⟨⟨fun _ => .work, LifeBut.of_plain rfl (Shaped.of_fresh hfresh)
    (fun u v _ hv => (hnone u v hv).elim) (fun _ _ _ => rfl) (fun u hu => ?_)
    (fun _ => rfl) (not_waiting (.inl hs))⟩, hmain⟩
  change d₀.heartbeatTask = some u at hu
  rw [hfresh.heartbeat] at hu
  cases hu

/-- **Housekeeping of the executor** keeps the invariant and the deployment. -/
theorem Inv.of_quiet {α : Type} {ex ex' : Exec} {main : Act α} (h : Inv d₀ (ex, main))
    (hq : Quiet ex ex') : Inv d₀ (ex', main) ∧ LifeAfter ex.shared ex'.shared := by
  obtain ⟨⟨φ, hb⟩, hmain⟩ := h
  have hs : ex'.shared = ex.shared := congrArg Seen.shared hq
  refine ⟨⟨⟨φ, ?_⟩, hmain⟩, ?_⟩
  · change LifeBut d₀ ex'.seen φ 0
    rw [hq]
    exact hb
  · rw [hs]
    exact .refl _

/-- **Every move keeps the invariant,** and leaves the deployment no earlier in the life. -/
theorem Inv.move {α : Type} {c c' : Exec × Act α} (h : Inv d₀ c) (hm : Move c c') :
    Inv d₀ c' ∧ LifeAfter c.1.shared c'.1.shared := by
  cases hm with
  | main =>
    rename_i ex main _
    obtain ⟨⟨φ, hb⟩, hmain⟩ := h
    obtain ⟨hreach, hwithin⟩ := hmain.poll_spec { ex with mainWoken := false }
    have hk := KeepsLifecycle.of_reach hreach
    -- Clearing the main program's wake flag is not seen.
    have hb₀ : LifeBut d₀ ({ ex with mainWoken := false } : Exec).seen φ 0 := hb
    refine ⟨⟨⟨φ, ?_⟩, hwithin⟩, ?_⟩
    · rw [pollMain_seen]
      exact hb₀.keeps hk
    · have hs : (ex.pollMain main).1.shared = (poll 0 { ex with mainWoken := false } main).1.shared :=
        congrArg Seen.shared (pollMain_seen ex main)
      change LifeAfter ex.shared (ex.pollMain main).1.shared
      rw [hs]
      exact .of_keepsLife hk.shared
  | task =>
    rename_i ex main t _
    obtain ⟨⟨φ, hb⟩, hmain⟩ := h
    -- Taking the task off the queue is not seen.
    have hb₀ : LifeBut d₀ ({ ex with queue := ex.queue.erase t } : Exec).seen φ 0 := hb
    obtain ⟨φ', hb', hlife⟩ := runTask_life hb₀ _ t
    exact ⟨⟨⟨φ', hb'⟩, hmain⟩, hlife⟩
  | park hp => exact h.of_quiet (park_quiet hp)
  | yield => exact h.of_quiet (parkYield_quiet _)

/-- **The invariant holds along every run,** and the deployment never goes back in its life. -/
theorem Inv.reaches {α : Type} {c c' : Exec × Act α} (h : Inv d₀ c) (hr : Reaches c c') :
    Inv d₀ c' ∧ LifeAfter c.1.shared c'.1.shared := by
  induction hr with
  | refl => exact ⟨h, .refl _⟩
  | tail _ hm ih =>
    obtain ⟨hi, hl⟩ := ih
    obtain ⟨hi', hl'⟩ := hi.move hm
    exact ⟨hi', hl.trans hl'⟩

end Lifecycle

end ChatGateway
