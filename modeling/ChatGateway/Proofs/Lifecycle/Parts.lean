import ChatGateway.Proofs.Lifecycle.Transitions
import ChatGateway.Proofs.ChatLocks.Runs
import ChatGateway.Proofs.Delivery.Frame

/-! # The part each task plays in the gateway's life

Starts and stops of the gateway run as tasks, side by side with all other work. Between two moves
of the executor a start or a stop is yet to run, done, or suspended at one of the four points where
its call waits: a start waits for its channels' answers and then out the cron service's start
delay, a stop waits out the cron service's stop delay and then for its channels' answers.
Everything else it does happens inside one poll. So each task plays one part (`Lifecycle.Part`):
work that leaves the lifecycle alone or a start or stop yet to run, the heartbeat's timer loop, or
a start or a stop suspended at one of these points. A start waiting for its channels carries the
calls it made.

`Lifecycle.LifeBut d₀ s φ t` is the invariant of the lifecycle with parts `φ`, for every task but
`t`, the one that runs now: the deployment is shaped against `d₀`, every other task plays its
part, empty slots are work, the heartbeat's remembered task is the loop, and at each of the stages
`1`, `3` and `4` exactly one task waits, at a point of its call that the stage names. While the
start waits for its channels the cron service is not started yet and every channel still
`starting` is one it called; once it waits out the cron service, no channel is `starting`.

* `LifeBut.keeps`: steps that leave the lifecycle alone keep it.
* `LifeBut.update`: the running task takes a new part as the deployment moves, once the two fit;
  `LifeBut.raised`, `LifeBut.startsSettled`, `LifeBut.lowering`, `LifeBut.lowered` are its cases,
  and `LifeBut.upRunning`, `LifeBut.stopRequested`, `LifeBut.halted` the transitions that also
  start or cancel the heartbeat's loop or leave the parts alone.
* `LifeBut.close`: once the running task shows a view that plays its part, the invariant holds
  of every task.
-/

namespace ChatGateway

open Scheduling Scheduling.Executor Deployment

/-- **A task that is there stays there** through work that leaves the lifecycle alone. -/
theorem KeepsLifecycle.look_ne_none {ex ex' : Exec} (hk : KeepsLifecycle ex ex')
    {u : Nat} (hu : ex.look u ≠ none) : ex'.look u ≠ none := by
  obtain ⟨v, hv⟩ := Option.ne_none_iff_exists'.mp hu
  rw [hk.tasks u v hv]
  exact Option.some_ne_none _

/-- **A task that is there keeps its view** through work that leaves the lifecycle alone. -/
theorem KeepsLifecycle.look_eq {ex ex' : Exec} (hk : KeepsLifecycle ex ex') {u : Nat}
    (hu : ex.look u ≠ none) : ex'.look u = ex.look u := by
  obtain ⟨v, hv⟩ := Option.ne_none_iff_exists'.mp hu
  rw [hk.tasks u v hv, hv]

namespace Lifecycle

/-! ## The points where a call waits -/

/-- **How a stop's call ends:** a background stop is done, and a background start whose stop was
requested meanwhile keeps its outcome. -/
def Ending (k : Unit → Act Unit) : Prop :=
  k = (fun _ => .pure ()) ∨ k = fun _ => kept (.ok ())

/-- **A start waiting for its channels' answers** to `calls`: what polls of task `u` have left of
the channels' join, then the rest of the start. -/
def Raising (u : Nat) (calls : List (String × Nat × Except String Unit)) (p : Act Unit) : Prop :=
  ∃ q, Program.Runs u (awaitAnswers calls) q ∧ p = q.bind startAnswered

/-- **A start waiting out the cron service's start delay,** with the rest of the start for the
deployment `d` it read. -/
def StartWaiting (d : Deployment) (p : Act Unit) : Prop :=
  ∃ deadline timer, p = .sleepUntil deadline (some timer) fun _ => startRest d

/-- **A stop waiting out the cron service's stop delay,** with the rest of the stop for the
deployment `d` it read, then `k`. -/
def StopWaiting (d : Deployment) (k : Unit → Act Unit) (p : Act Unit) : Prop :=
  ∃ deadline timer, p = .sleepUntil deadline (some timer) fun _ => stopRest d k

/-- **A stop waiting for its channels' answers:** what polls of task `u` have left of the
channels' join, then the end of the stop and `k`. -/
def Lowering (u : Nat) (k : Unit → Act Unit) (p : Act Unit) : Prop :=
  ∃ calls q, Program.Runs u (awaitAnswers calls) q ∧
    p = q.bind fun answers => stopAnswered answers k

/-- **Task `u` is suspended inside a start or a stop,** at one of the points where the call
waits. -/
def Suspended (u : Nat) (p : Act Unit) : Prop :=
  (∃ calls, Raising u calls p) ∨ (∃ d, StartWaiting d p) ∨ (∃ d k, StopWaiting d k p) ∨
    ∃ k, Lowering u k p

/-- **What is left of the channels' join never panics:** the join is routine work that cannot. -/
theorem awaitAnswers_runs_ne_panic {u : Nat} {calls : List (String × Nat × Except String Unit)}
    {q : Act (List (String × Except String Unit))} (h : Program.Runs u (awaitAnswers calls) q)
    (m : String) : q ≠ .panic m := by
  intro hq
  have hw : Program.Within KeepsLifecycle u false q :=
    (awaitAnswers_within (KeepsLifecycle.routine u) calls).runs h
  cases hw.eq_true_of_panic { launch := fun _ => .pure (), shared := {} } hq

theorem Raising.isDone {u : Nat} {calls : List (String × Nat × Except String Unit)} {p : Act Unit}
    (hp : Raising u calls p) : p.isDone = false := by
  obtain ⟨q, hq, rfl⟩ := hp
  exact Program.isDone_bind_of_ne_panic (awaitAnswers_runs_ne_panic hq) startAnswered_isDone

theorem Lowering.isDone {u : Nat} {k : Unit → Act Unit} {p : Act Unit} (hp : Lowering u k p) :
    p.isDone = false := by
  obtain ⟨calls, q, hq, rfl⟩ := hp
  exact Program.isDone_bind_of_ne_panic (awaitAnswers_runs_ne_panic hq) fun answers => stopAnswered_isDone answers k

/-! ## The parts -/

/-- **The part a task plays in the gateway's life.** -/
inductive Part where
  /-- Work that leaves the lifecycle alone, or a start or a stop of the gateway yet to run. -/
  | work
  /-- The heartbeat's timer loop. -/
  | beat
  /-- A start waiting for its channels' answers to `calls`. -/
  | raising (calls : List (String × Nat × Except String Unit))
  /-- A start waiting out the cron service's start delay. -/
  | starting
  /-- A stop waiting out the cron service's stop delay. -/
  | stopping
  /-- A stop waiting for its channels' answers. -/
  | lowering

/-- **The stage at which a part waits,** for a start or a stop suspended in its call. -/
def Part.waitsAt : Part → Option Nat
  | .work | .beat => none
  | .raising _ | .starting => some 1
  | .stopping => some 3
  | .lowering => some 4

/-- **The stages at which a call of the gateway waits:** `starting`, and `stopping` before and
after the router is unsubscribed. -/
def Waiting (n : Nat) : Prop := n = 1 ∨ n = 3 ∨ n = 4

theorem Part.waiting_of_waitsAt {r : Part} {n : Nat} (h : r.waitsAt = some n) : Waiting n := by
  unfold Waiting
  cases r <;> simp [Part.waitsAt] at h <;> omega

theorem not_waiting {n : Nat} (h : n = 0 ∨ n = 2 ∨ n = 5) : ¬ Waiting n := by
  unfold Waiting
  omega

/-- **What the invariant asks of task `u` in its part:** an ended task has nothing left to run;
work leaves the lifecycle alone or is a start or a stop yet to run; the loop leaves the lifecycle
alone; a start or a stop suspended in its call is live, not cancelled, and waits at its point. -/
def Sound (d₀ : Deployment) (u : Nat) : Part → TaskView Job Deployment → Prop
  | .work, v => (v.done = true → v.program = .pure ()) ∧
      (v.done = false → Program.Within KeepsLifecycle u true v.program ∨
        v.program = Job.program .gatewayStart ∨ v.program = Job.program .gatewayStop)
  | .beat, v => (v.done = true → v.program = .pure ()) ∧
      (v.done = false → Program.Within KeepsLifecycle u true v.program)
  | .raising calls, v => v.done = false ∧ v.cancelled = false ∧ Raising u calls v.program
  | .starting, v => v.done = false ∧ v.cancelled = false ∧
      ∃ d, d.heartbeat.isSome = d₀.heartbeat.isSome ∧ StartWaiting d v.program
  | .stopping, v => v.done = false ∧ v.cancelled = false ∧
      ∃ d k, Ending k ∧ StopWaiting d k v.program
  | .lowering, v => v.done = false ∧ v.cancelled = false ∧ ∃ k, Ending k ∧ Lowering u k v.program

/-- A poll that leaves a program not done leaves its task live in it. -/
theorem after_of_isDone {p : Act Unit} (hp : p.isDone = false) :
    TaskView.after p false = ⟨p, false, false⟩ := by
  simp [TaskView.after, hp]

section Sound

variable {d₀ : Deployment} {u : Nat}

/-- **A task suspended in its call is live and not cancelled.** -/
theorem Sound.live {r : Part} (hr : r.waitsAt.isSome) {v : TaskView Job Deployment}
    (h : Sound d₀ u r v) : v.done = false ∧ v.cancelled = false := by
  cases r with
  | work | beat => cases hr
  | raising calls => exact ⟨h.1, h.2.1⟩
  | starting | stopping | lowering => exact ⟨h.1, h.2.1⟩

/-- **A task that waits in its part is suspended inside a start or a stop.** -/
theorem Sound.suspended {r : Part} (hr : r.waitsAt.isSome) {v : TaskView Job Deployment}
    (h : Sound d₀ u r v) : Suspended u v.program := by
  cases r with
  | work | beat => cases hr
  | raising calls => exact .inl ⟨calls, h.2.2⟩
  | starting =>
    obtain ⟨d, -, hw⟩ := h.2.2
    exact .inr (.inl ⟨d, hw⟩)
  | stopping =>
    obtain ⟨d, k, -, hw⟩ := h.2.2
    exact .inr (.inr (.inl ⟨d, k, hw⟩))
  | lowering =>
    obtain ⟨k, -, hw⟩ := h.2.2
    exact .inr (.inr (.inr ⟨k, hw⟩))

/-- **A cancelled task ends soundly in its part:** only work or the heartbeat's loop is ever
cancelled, and either may end. -/
theorem Sound.cancelled {r : Part} {v : TaskView Job Deployment} (h : Sound d₀ u r v)
    (hc : v.cancelled = true) : Sound d₀ u r ⟨.pure (), true, true⟩ := by
  cases r with
  | work | beat => exact ⟨fun _ => rfl, fun hd => (by cases hd)⟩
  | raising _ | starting | stopping | lowering =>
    rw [(Sound.live rfl h).2] at hc
    cases hc

theorem sound_raising_after {calls : List (String × Nat × Except String Unit)} {p : Act Unit}
    (hp : Raising u calls p) : Sound d₀ u (.raising calls) (TaskView.after p false) := by
  rw [after_of_isDone hp.isDone]
  exact ⟨rfl, rfl, hp⟩

theorem sound_starting_after {d : Deployment} (hd : d.heartbeat.isSome = d₀.heartbeat.isSome)
    {p : Act Unit} (hp : StartWaiting d p) : Sound d₀ u .starting (TaskView.after p false) := by
  obtain ⟨deadline, timer, rfl⟩ := hp
  exact ⟨rfl, rfl, d, hd, deadline, timer, rfl⟩

theorem sound_stopping_after {d : Deployment} {k : Unit → Act Unit} (hk : Ending k) {p : Act Unit}
    (hp : StopWaiting d k p) : Sound d₀ u .stopping (TaskView.after p false) := by
  obtain ⟨deadline, timer, rfl⟩ := hp
  exact ⟨rfl, rfl, d, k, hk, deadline, timer, rfl⟩

theorem sound_lowering_after {k : Unit → Act Unit} (hk : Ending k) {p : Act Unit}
    (hp : Lowering u k p) : Sound d₀ u .lowering (TaskView.after p false) := by
  rw [after_of_isDone hp.isDone]
  exact ⟨rfl, rfl, k, hk, hp⟩

end Sound

/-! ## The invariant -/

/-- **The invariant of the gateway's life, for every task but `t`.** -/
structure LifeBut (d₀ : Deployment) (s : Seen Job Deployment) (φ : Nat → Part) (t : Nat) :
    Prop where
  launch : s.launch = Job.program
  shaped : Shaped d₀ s.shared
  sound : ∀ u v, u ≠ t → s.look u = some v → Sound d₀ u (φ u) v
  idle : ∀ u, u ≠ 0 → s.look u = none → φ u = .work
  beat : ∀ u, s.shared.heartbeatTask = some u → φ u = .beat
  placed : ∀ u, (φ u).waitsAt.isSome → s.look u ≠ none
  waits : ∀ u n, (φ u).waitsAt = some n → s.shared.stage = n
  waiter : Waiting s.shared.stage → ∃ u, (φ u).waitsAt = some s.shared.stage
  oneWaiter : ∀ u u', (φ u).waitsAt.isSome → (φ u').waitsAt.isSome → u = u'
  raising : ∀ u calls, φ u = .raising calls → s.shared.cron = d₀.cron ∧
    ∀ p ∈ s.shared.channelStatuses, p.2 = .starting → p.1 ∈ calls.map (·.1)
  starting : ∀ u, φ u = .starting → s.shared.cron = d₀.cron.map (cronAt 1) ∧
    ∀ v ∈ s.shared.channelView, v.1 ≠ .starting

namespace LifeBut

variable {d₀ : Deployment} {φ : Nat → Part} {t : Nat}

/-- **At a stage where no call waits**, the invariant needs no waiting task. -/
theorem of_plain {s : Seen Job Deployment} (hlaunch : s.launch = Job.program)
    (hshaped : Shaped d₀ s.shared) (hsound : ∀ u v, u ≠ t → s.look u = some v → Sound d₀ u (φ u) v)
    (hidle : ∀ u, u ≠ 0 → s.look u = none → φ u = .work)
    (hbeat : ∀ u, s.shared.heartbeatTask = some u → φ u = .beat)
    (hplain : ∀ u, (φ u).waitsAt = none) (hstage : ¬ Waiting s.shared.stage) : LifeBut d₀ s φ t where
  launch := hlaunch
  shaped := hshaped
  sound := hsound
  idle := hidle
  beat := hbeat
  placed u hu := by
    rw [hplain u] at hu
    cases hu
  waits u n hu := by
    rw [hplain u] at hu
    cases hu
  waiter hw := absurd hw hstage
  oneWaiter u _ hu := by
    rw [hplain u] at hu
    cases hu
  raising u calls hu := by
    have hw := hplain u
    rw [hu] at hw
    cases hw
  starting u hu := by
    have hw := hplain u
    rw [hu] at hw
    cases hw

variable {s : Seen Job Deployment}

/-- Where no call waits, no task waits. -/
theorem plain (h : LifeBut d₀ s φ t) (hs : ¬ Waiting s.shared.stage) (u : Nat) :
    (φ u).waitsAt = none := by
  cases hw : (φ u).waitsAt with
  | none => rfl
  | some n =>
    have hn := Part.waiting_of_waitsAt hw
    rw [← h.waits u n hw] at hn
    exact absurd hn hs

/-- While one task waits, no other does. -/
theorem others_of_waits (h : LifeBut d₀ s φ t) {w : Nat} (hw : (φ w).waitsAt.isSome) (u : Nat)
    (hu : u ≠ w) : (φ u).waitsAt = none := by
  cases hwu : (φ u).waitsAt with
  | none => rfl
  | some n => exact absurd (h.oneWaiter u w (by rw [hwu]; rfl) hw) hu

/-- **The invariant for every task,** with the main program's slot empty, is the invariant for
every task but any one. -/
theorem running (h : LifeBut d₀ s φ 0) (h0 : s.look 0 = none) (t : Nat) : LifeBut d₀ s φ t :=
  { h with
    sound := fun u v _ hv => by
      by_cases hu : u = 0
      · subst hu
        rw [h0] at hv
        cases hv
      · exact h.sound u v hu hv }

/-- Whatever the running task shows while it runs, the invariant for the others holds. -/
theorem setLook_self (h : LifeBut d₀ s φ t) (v : TaskView Job Deployment) :
    LifeBut d₀ (s.setLook t (some v)) φ t :=
  { h with
    sound := fun u w hut hw => by
      simp only [Seen.setLook, Function.update_of_ne hut] at hw
      exact h.sound u w hut hw
    idle := fun u hu hw => by
      simp only [Seen.setLook, Function.update_apply] at hw
      split at hw
      · cases hw
      · exact h.idle u hu hw
    placed := fun u hu => by
      simp only [Seen.setLook, Function.update_apply]
      split
      · exact Option.some_ne_none _
      · exact h.placed u hu }

/-- **The running task's view, once it plays its part,** makes the invariant hold of every task. -/
theorem close (h : LifeBut d₀ s φ t) {v : TaskView Job Deployment} (hv : Sound d₀ t (φ t) v) :
    LifeBut d₀ (s.setLook t (some v)) φ 0 :=
  { h.setLook_self v with
    sound := fun u w _ hw => by
      simp only [Seen.setLook, Function.update_apply] at hw
      split at hw
      · rename_i hu
        cases hw
        subst hu
        exact hv
      · rename_i hu
        exact h.sound u w hu hw }

/-! ## Work that leaves the lifecycle alone -/

/-- **A new task** runs its job, which is work: a start or a stop of the gateway yet to run, or a
job that leaves the lifecycle alone. -/
theorem sound_fresh {ex ex' : Exec} (hlaunch : ex.launch = Job.program) (hk : KeepsLifecycle ex ex')
    {u : Nat} {v : TaskView Job Deployment} (hnone : ex.look u = none) (hv : ex'.look u = some v) :
    Sound d₀ u .work v := by
  obtain ⟨j, rfl⟩ := hk.fresh u v hnone hv
  simp only [Sound]
  refine ⟨fun hd => (by cases hd), fun _ => ?_⟩
  rw [hlaunch]
  by_cases hstart : j = .gatewayStart
  · exact .inr (.inl (by rw [hstart]))
  · by_cases hstop : j = .gatewayStop
    · exact .inr (.inr (by rw [hstop]))
    · exact .inl (KeepsLifecycle.job_within u j hstart hstop)

/-- **The heartbeat's new loop** is the beat: it leaves the lifecycle alone. -/
theorem sound_beat {ex : Exec} (hlaunch : ex.launch = Job.program) (u : Nat) :
    Sound d₀ u .beat ⟨ex.launch .heartbeat, false, false⟩ := by
  simp only [Sound]
  refine ⟨fun hd => (by cases hd), fun _ => ?_⟩
  rw [hlaunch]
  exact KeepsLifecycle.job_within u .heartbeat (fun hj => by cases hj) (fun hj => by cases hj)

/-- **Work that leaves the lifecycle alone keeps the invariant:** the stage, the cron service and
the channels' statuses the waiting calls rely on are all kept. -/
theorem keeps {ex ex' : Exec} (h : LifeBut d₀ ex.seen φ t) (hk : KeepsLifecycle ex ex') :
    LifeBut d₀ ex'.seen φ t where
  launch := hk.launch.trans h.launch
  shaped := h.shaped.keepsLife hk.shared
  sound u v hut hv := by
    change ex'.look u = some v at hv
    cases hold : ex.look u with
    | none =>
      have hu : u ≠ 0 := by
        rintro rfl
        rw [look_zero] at hv
        cases hv
      rw [h.idle u hu hold]
      exact sound_fresh h.launch hk hold hv
    | some v₀ =>
      rw [hk.tasks u v₀ hold] at hv
      rw [← Option.some.inj hv]
      exact h.sound u v₀ hut hold
  idle u hu hnone := by
    refine h.idle u hu ?_
    by_contra hthere
    exact hk.look_ne_none hthere hnone
  beat u hu := h.beat u (hk.shared.heartbeatTask.symm.trans hu)
  placed u hu := hk.look_ne_none (h.placed u hu)
  waits u n hu := (Deployment.KeepsLife.stage hk.shared).trans (h.waits u n hu)
  waiter hw := by
    have hs : ex'.shared.stage = ex.shared.stage := Deployment.KeepsLife.stage hk.shared
    change Waiting ex'.shared.stage at hw
    change ∃ u, (φ u).waitsAt = some ex'.shared.stage
    rw [hs] at hw ⊢
    exact h.waiter hw
  oneWaiter := h.oneWaiter
  raising u calls hu := by
    obtain ⟨hcron, hcover⟩ := h.raising u calls hu
    refine ⟨hk.shared.cron.trans hcron, ?_⟩
    change ∀ p ∈ ex'.shared.channelStatuses, _
    rw [hk.shared.channelStatuses h.shaped.distinct]
    exact hcover
  starting u hu := by
    obtain ⟨hcron, hidle⟩ := h.starting u hu
    refine ⟨hk.shared.cron.trans hcron, ?_⟩
    change ∀ v ∈ ex'.shared.channelView, _
    rw [hk.shared.channels h.shaped.distinct]
    exact hidle

/-! ## The transitions of the gateway -/

/-- **The running task takes part `r` as the deployment moves to `D`,** every other task keeping a
part in which it does not wait: the invariant holds again once `r` and `D` fit together. -/
theorem update (h : LifeBut d₀ s φ t) (hlook : s.look t ≠ none)
    (hothers : ∀ u, u ≠ t → (φ u).waitsAt = none) {D : Deployment} {r : Part}
    (hshaped : Shaped d₀ D) (hbeat : D.heartbeatTask = none)
    (hwaits : ∀ n, r.waitsAt = some n → D.stage = n)
    (hwaiter : Waiting D.stage → r.waitsAt = some D.stage)
    (hraising : ∀ calls, r = .raising calls → D.cron = d₀.cron ∧
      ∀ p ∈ D.channelStatuses, p.2 = .starting → p.1 ∈ calls.map (·.1))
    (hstarting : r = .starting → D.cron = d₀.cron.map (cronAt 1) ∧
      ∀ v ∈ D.channelView, v.1 ≠ .starting) :
    LifeBut d₀ { s with shared := D } (Function.update φ t r) t := by
  have hpart : ∀ u, u ≠ t → Function.update φ t r u = φ u := fun u hu =>
    Function.update_of_ne hu _ _
  -- Only the running task can wait now.
  have hat : ∀ u, (Function.update φ t r u).waitsAt.isSome → u = t := by
    intro u hu
    by_contra hut
    rw [hpart u hut, hothers u hut] at hu
    cases hu
  have hwaiting : ∀ u r', Function.update φ t r u = r' → r'.waitsAt.isSome → r = r' := by
    intro u r' hu hr'
    have hut := hat u (by rw [hu]; exact hr')
    rw [hut, Function.update_self] at hu
    exact hu
  exact {
    launch := h.launch
    shaped := hshaped
    sound := fun u v hut hv => by
      rw [hpart u hut]
      exact h.sound u v hut hv
    idle := fun u hu hv => by
      have hut : u ≠ t := by
        rintro rfl
        exact hlook hv
      rw [hpart u hut]
      exact h.idle u hu hv
    beat := fun u hu => by
      change D.heartbeatTask = some u at hu
      rw [hbeat] at hu
      cases hu
    placed := fun u hu => by
      rw [hat u hu]
      exact hlook
    waits := fun u n hu => by
      rw [hat u (by rw [hu]; rfl), Function.update_self] at hu
      exact hwaits n hu
    waiter := fun hw => ⟨t, by rw [Function.update_self]; exact hwaiter hw⟩
    oneWaiter := fun u u' hu hu' => (hat u hu).trans (hat u' hu').symm
    raising := fun u calls hu => hraising calls (hwaiting u _ hu rfl)
    starting := fun u hu => hstarting (hwaiting u _ hu rfl) }

/-- **A start leaves `stopped`:** the running task waits for the channels it called. -/
theorem raised {ex : Exec} (h : LifeBut d₀ ex.seen φ t) (hs : ex.shared.stage = 0)
    (ht : ex.look t ≠ none) :
    LifeBut d₀ ({ ex with shared := Lifecycle.raised ex.shared } : Exec).seen
      (Function.update φ t (.raising (startCalls ex.shared))) t := by
  have hsh : Shaped d₀ ex.shared := h.shaped
  obtain ⟨hshaped, hstage, hcron, hcover⟩ := hsh.raised hs
  refine h.update ht (fun u _ => h.plain (not_waiting (.inl hs)) u) hshaped
    (hshaped.heartbeatTask_eq_none (by omega)) (fun n hn => ?_) (fun _ => by rw [hstage]; rfl)
    (fun calls hc => ?_) (fun hc => by cases hc)
  · cases hn
    exact hstage
  · cases hc
    exact ⟨hcron, hcover⟩

/-- **The channels have answered a start:** the answers recorded and the cron service's start
counted, the running task waits out the service's delay. -/
theorem startsSettled {ex : Exec} (h : LifeBut d₀ ex.seen φ t) (ht : ex.look t ≠ none)
    {calls : List (String × Nat × Except String Unit)} (hφ : φ t = .raising calls) :
    LifeBut d₀ ({ ex with shared := Lifecycle.startsSettled (answersOf calls) ex.shared } : Exec).seen
      (Function.update φ t .starting) t := by
  have hsh : Shaped d₀ ex.shared := h.shaped
  have hs : ex.shared.stage = 1 := h.waits t 1 (by rw [hφ]; rfl)
  obtain ⟨hcron, hcover⟩ := h.raising t calls hφ
  obtain ⟨hshaped, hstage, hcron', hidle⟩ := hsh.startsSettled hs hcron hcover
  refine h.update ht (h.others_of_waits (by rw [hφ]; rfl)) hshaped
    (hshaped.heartbeatTask_eq_none (by omega)) (fun n hn => ?_) (fun _ => by rw [hstage]; rfl)
    (fun _ hc => by cases hc) (fun _ => ⟨hcron', hidle⟩)
  cases hn
  exact hstage

/-- **The waiting start goes on and the gateway runs:** its task becomes work again, and the
heartbeat's loop, when there is one, is a new task that plays the loop. -/
theorem upRunning {ex : Exec} (h : LifeBut d₀ ex.seen φ t) (ht : φ t = .starting)
    (hlook : ex.look t ≠ none) (d : Deployment)
    (hd : d.heartbeat.isSome = ex.shared.heartbeat.isSome) :
    ∃ φ', LifeBut d₀ (Lifecycle.upRunning d ex).seen φ' t ∧ φ' t = .work ∧
      (Lifecycle.upRunning d ex).shared.stage = 2 ∧
      (Lifecycle.upRunning d ex).look t = ex.look t := by
  have hsh : Shaped d₀ ex.shared := h.shaped
  have hs : ex.shared.stage = 1 := h.waits t 1 (by rw [ht]; rfl)
  obtain ⟨hcron, hidle⟩ := h.starting t ht
  obtain ⟨D, hD, hshared, hlaunch, hlook', -⟩ := Lifecycle.upRunning_eq hsh hs d hd
  obtain ⟨hshaped, hstage⟩ := (hsh.keepsLife hD).upRunning (hD.stage.trans hs)
    (hD.cron.trans hcron) (by rw [hD.channels hsh.distinct]; exact hidle) ex.tasks.size
  rw [← hshared] at hshaped hstage
  -- The new loop takes the first slot past the others, which the running task does not hold.
  have hnt : ex.tasks.size ≠ t := by
    rintro rfl
    exact hlook (KeepsDeliveries.look_size ex)
  have hlookU : ∀ u, (Lifecycle.upRunning d ex).look u =
      if ex.shared.heartbeat.isSome = true ∧ u = ex.tasks.size ∧ u ≠ 0 then
        some ⟨ex.launch .heartbeat, false, false⟩
      else ex.look u := by
    intro u
    rw [hlook']
    split
    · rename_i hb
      rw [look_spawnTask]
      simp only [hb, true_and]
    · rename_i hb
      rw [if_neg (fun hu => hb hu.1)]
  have hlookt : (Lifecycle.upRunning d ex).look t = ex.look t := by
    rw [hlookU, if_neg (fun hu => hnt hu.2.1.symm)]
  let φ' : Nat → Part := fun u =>
    if u = t then .work
    else if ex.shared.heartbeat.isSome = true ∧ u = ex.tasks.size then .beat else φ u
  have hφ' : ∀ u, u ≠ t → ex.look u ≠ none → φ' u = φ u := by
    intro u hut hu
    simp only [φ', if_neg hut]
    rw [if_neg]
    rintro ⟨-, rfl⟩
    exact hu (KeepsDeliveries.look_size ex)
  have hplain : ∀ u, (φ' u).waitsAt = none := by
    intro u
    simp only [φ']
    split
    · rfl
    · split
      · rfl
      · rename_i hut _
        exact h.others_of_waits (by rw [ht]; rfl) u hut
  refine ⟨φ', LifeBut.of_plain (hlaunch.trans h.launch) hshaped (fun u v hut hv => ?_)
    (fun u hu hv => ?_) (fun u hu => ?_) hplain (not_waiting (.inr (.inl hstage))), if_pos rfl,
    hstage, hlookt⟩
  · change (Lifecycle.upRunning d ex).look u = some v at hv
    rw [hlookU] at hv
    split at hv
    · -- The new task runs the heartbeat's loop.
      rename_i hn
      cases hv
      have hφu : φ' u = .beat := by
        simp only [φ', if_neg hut]
        rw [if_pos ⟨hn.1, hn.2.1⟩]
      rw [hφu]
      exact sound_beat h.launch u
    · rw [hφ' u hut (by rw [hv]; exact Option.some_ne_none _)]
      exact h.sound u v hut hv
  · change (Lifecycle.upRunning d ex).look u = none at hv
    have hut : u ≠ t := by
      rintro rfl
      rw [hlookt] at hv
      exact hlook hv
    simp only [φ', if_neg hut]
    rw [hlookU] at hv
    split at hv
    · cases hv
    · rename_i hn
      rw [if_neg (fun hbn => hn ⟨hbn.1, hbn.2, hu⟩)]
      exact h.idle u hu hv
  · change (Lifecycle.upRunning d ex).shared.heartbeatTask = some u at hu
    rw [hshared] at hu
    change (D.withHeartbeatTask (some ex.tasks.size)).heartbeatTask = some u at hu
    rw [withHeartbeatTask_heartbeatTask, hD.heartbeat_isSome] at hu
    split at hu
    · rename_i hb
      cases hu
      simp only [φ', if_neg hnt, hb, and_self, if_true]
    · cases hu

/-- **A stop while starting is remembered;** nothing else changes, and the waiting start still
finds its channels and the cron service as it left them. -/
theorem stopRequested {ex : Exec} (h : LifeBut d₀ ex.seen φ t) (hs : ex.shared.stage = 1) :
    LifeBut d₀ ({ ex with shared := (Lifecycle.requestStop ex.shared).1 } : Exec).seen φ t := by
  have hsh : Shaped d₀ ex.shared := h.shaped
  obtain ⟨hshaped, hstage, -, hcron, hchannels⟩ := hsh.stopRequested hs
  have hstage' : (Lifecycle.requestStop ex.shared).1.stage = ex.shared.stage := hstage.trans hs.symm
  exact { h with
    shaped := hshaped
    beat := fun u hu => by
      -- No loop runs while starting.
      change (Lifecycle.requestStop ex.shared).1.heartbeatTask = some u at hu
      rw [hshaped.heartbeatTask_eq_none (by omega)] at hu
      cases hu
    waits := fun u n hu => hstage'.trans (h.waits u n hu)
    waiter := fun hw => by
      change Waiting (Lifecycle.requestStop ex.shared).1.stage at hw
      change ∃ u, (φ u).waitsAt = some (Lifecycle.requestStop ex.shared).1.stage
      rw [hstage'] at hw ⊢
      exact h.waiter hw
    raising := fun u calls hu => by
      change (Lifecycle.requestStop ex.shared).1.cron = _ ∧
        ∀ p ∈ (Lifecycle.requestStop ex.shared).1.channelStatuses, _
      rw [hcron, channelStatuses, hchannels]
      exact h.raising u calls hu
    starting := fun u hu => by
      change (Lifecycle.requestStop ex.shared).1.cron = _ ∧
        ∀ v ∈ (Lifecycle.requestStop ex.shared).1.channelView, _
      rw [hcron, channelView, hchannels]
      exact h.starting u hu }

/-- **A stop leaves `running`:** the running task waits out the cron service's stop delay, and the
heartbeat's loop is cancelled. -/
theorem halted {ex : Exec} (h : LifeBut d₀ ex.seen φ t) (hs : ex.shared.stage = 2)
    (ht : φ t ≠ .beat) (hlook : ex.look t ≠ none) :
    LifeBut d₀ (Lifecycle.stopCalled ex).seen (Function.update φ t .stopping) t ∧
      (Lifecycle.stopCalled ex).look t = ex.look t := by
  have hsh : Shaped d₀ ex.shared := h.shaped
  obtain ⟨hshaped, hstage, -⟩ := hsh.halted hs
  rw [← Lifecycle.stopCalled_shared] at hshaped hstage
  have hplain := h.plain (not_waiting (.inr (.inl hs)))
  -- Only the heartbeat's loop is cancelled; it is not the running task.
  have hlookt : (Lifecycle.stopCalled ex).look t = ex.look t := by
    rw [Lifecycle.look_stopCalled, if_neg]
    rintro ⟨hbt, -⟩
    exact ht (h.beat t hbt)
  have hthere : ∀ u, (Lifecycle.stopCalled ex).look u ≠ none ↔ ex.look u ≠ none := by
    intro u
    rw [Lifecycle.look_stopCalled]
    split
    · cases ex.look u <;> simp
    · exact Iff.rfl
  have hat : ∀ u, (Function.update φ t .stopping u).waitsAt.isSome → u = t := by
    intro u hu
    by_contra hut
    rw [Function.update_of_ne hut, hplain u] at hu
    cases hu
  refine ⟨⟨(Lifecycle.stopCalled_launch ex).trans h.launch, hshaped, fun u v hut hv => ?_,
    fun u hu hv => ?_, fun u hu => ?_, fun u hu => ?_, fun u n hu => ?_,
    fun _ => ⟨t, by rw [Function.update_self]; exact congrArg some hstage.symm⟩,
    fun u u' hu hu' => (hat u hu).trans (hat u' hu').symm, fun u calls hu => ?_, fun u hu => ?_⟩,
    hlookt⟩
  · change (Lifecycle.stopCalled ex).look u = some v at hv
    rw [Function.update_of_ne hut]
    rw [Lifecycle.look_stopCalled] at hv
    split at hv
    · -- The cancelled loop keeps its program.
      rename_i hc
      have hbeat := h.beat u hc.1
      cases hold : ex.look u with
      | none =>
        rw [hold] at hv
        cases hv
      | some v₀ =>
        rw [hold] at hv
        cases hv
        have hv₀ := h.sound u v₀ hut hold
        rw [hbeat] at hv₀ ⊢
        exact hv₀
    · exact h.sound u v hut hv
  · have hut : u ≠ t := by
      rintro rfl
      exact (hthere u).2 hlook hv
    rw [Function.update_of_ne hut]
    exact h.idle u hu (by by_contra hne; exact (hthere u).2 hne hv)
  · change (Lifecycle.stopCalled ex).shared.heartbeatTask = some u at hu
    rw [hshaped.heartbeatTask_eq_none (by omega)] at hu
    cases hu
  · rw [hat u hu]
    exact (hthere t).2 hlook
  · rw [hat u (by rw [hu]; rfl), Function.update_self] at hu
    cases hu
    exact hstage
  · rw [hat u (by rw [hu]; rfl), Function.update_self] at hu
    cases hu
  · rw [hat u (by rw [hu]; rfl), Function.update_self] at hu
    cases hu

/-- **A stop turns to its channels:** the router unsubscribed and the channels called, the running
task waits for their answers. -/
theorem lowering {ex : Exec} (h : LifeBut d₀ ex.seen φ t) (ht : ex.look t ≠ none)
    (hφ : φ t = .stopping) :
    LifeBut d₀ ({ ex with shared := Lifecycle.lowering ex.shared } : Exec).seen
      (Function.update φ t .lowering) t := by
  have hsh : Shaped d₀ ex.shared := h.shaped
  have hs : ex.shared.stage = 3 := h.waits t 3 (by rw [hφ]; rfl)
  obtain ⟨hshaped, hstage, -⟩ := hsh.lowering hs
  refine h.update ht (h.others_of_waits (by rw [hφ]; rfl)) hshaped
    (hshaped.heartbeatTask_eq_none (by omega)) (fun n hn => ?_) (fun _ => by rw [hstage]; rfl)
    (fun _ hc => by cases hc) (fun hc => by cases hc)
  cases hn
  exact hstage

/-- **The channels have answered a stop:** the gateway is stopped for good and the task is work
again. -/
theorem lowered {ex : Exec} (h : LifeBut d₀ ex.seen φ t) (ht : ex.look t ≠ none)
    (hφ : φ t = .lowering) (answers : List (String × Except String Unit)) :
    LifeBut d₀ ({ ex with shared := Lifecycle.lowered answers ex.shared } : Exec).seen
      (Function.update φ t .work) t := by
  have hsh : Shaped d₀ ex.shared := h.shaped
  have hs : ex.shared.stage = 4 := h.waits t 4 (by rw [hφ]; rfl)
  obtain ⟨hshaped, hstage⟩ := hsh.lowered hs answers
  exact h.update ht (h.others_of_waits (by rw [hφ]; rfl)) hshaped
    (hshaped.heartbeatTask_eq_none (by omega)) (fun n hn => by cases hn)
    (fun hw => absurd hw (not_waiting (.inr (.inr hstage)))) (fun _ hc => by cases hc)
    (fun hc => by cases hc)

end LifeBut

end Lifecycle

end ChatGateway
