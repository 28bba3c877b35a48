import ChatGateway.Proofs.ChatLocks.Table

/-! # The invariant of the chat locks along every run

A task's phase says what its program is (`ChatLocks.Fits`): outside the locks it runs work that
leaves them alone, or it is a responder of chats in order that has not run yet; a waiting task
is queued on its chat's mutex with its ticket; a holding task answers, and then releases the
mutex and gives its place up. Each of them runs inside its handler's panic boundary. With the
table's invariant this is `ChatLocks.Inv`, which holds of every configuration the executor
reaches from a fresh deployment, whatever the order of its moves (`ChatLocks.Inv.reaches`).

* One poll of a task keeps the invariant, in each phase: `polled_outside`, and inside the panic
  boundary `settled_ready`, `settled_waiting`, `settled_holding`; `polled_of_fits` puts them
  together for a whole task.
* `runTask_keeps`, `Inv.move`: running a task, and every move of the executor, keep it;
  `inv_start` and `Inv.reaches` make it hold along every run.
-/

namespace ChatGateway

open Scheduling Scheduling.Executor

/-- A handler task is not the heartbeat's timer loop. -/
theorem Handlers.run_ne_heartbeat (h : Subscription) (e : BusEvent) :
    Handlers.run h e ≠ Heartbeats.run := by
  intro heq
  simp only [Handlers.run, Heartbeats.run, Program.bind_def, Scheduling.Program.catching,
    Scheduling.Program.read, Program.bind] at heq
  cases heq

/-- The main program's slot holds no task. -/
@[simp] theorem Scheduling.Executor.look_zero {ι σ : Type} (ex : Executor ι σ) : ex.look 0 = none := by
  simp [look, task?]

/-- A program that has ended is a value or a panic. -/
theorem Scheduling.Program.isDone_eq_true {ι σ α : Type} {p : Program ι σ α}
    (h : p.isDone = true) : (∃ a, p = .pure a) ∨ ∃ m, p = .panic m := by
  cases p with
  | pure a => exact .inl ⟨a, rfl⟩
  | panic m => exact .inr ⟨m, rfl⟩
  | _ => cases h

/-- A task that is there stays there through work that leaves the chat locks alone. -/
theorem KeepsLocks.look_ne_none {ex ex' : Exec} (hk : KeepsLocks ex ex') {t : Nat}
    (ht : ex.look t ≠ none) : ex'.look t ≠ none := by
  obtain ⟨v, hv⟩ := Option.ne_none_iff_exists'.mp ht
  obtain ⟨c, hv', -⟩ := hk.tasks t v hv
  rw [hv']
  exact Option.some_ne_none _

namespace ChatLocks

/-! ## The program of each phase -/

/-- **The lock-phase part of a responder's program:** queued with its ticket, or answering and
then releasing the mutex and giving its place up. -/
def Inner (t : Nat) : ChatPhase → Act (Except String Unit) → Prop
  | .outside, _ => False
  | .waiting pl, i => i = Handlers.waitingOn pl.set pl.msg pl.mutex pl.ticket
  | .holding pl, i => ∃ Q, Program.Within KeepsLocks t false Q ∧
      i = Handlers.holdingFrom pl.set pl.key pl.mutex Q

/-- **A responder of chats in order on an inbound message, before it runs,** which is not the
heartbeat's remembered task. -/
def Ready (s : Seen Job Deployment) (t : Nat) (p : Act Unit) : Prop :=
  s.shared.heartbeatTask ≠ some t ∧
    ∃ sub set msg, sub.subscriber = .responder (some set) ∧ p = Handlers.run sub (.inbound msg)

/-- **The program of a task at its phase:** outside the locks, work that leaves them alone or a
responder that has not run; with a place, the lock-phase part of its responder in the panic
boundary of its handler. -/
def Fits (s : Seen Job Deployment) (t : Nat) (ψ : ChatPhase) (p : Act Unit) : Prop :=
  match ψ.place? with
  | none => Program.Within KeepsLocks t true p ∨ Ready s t p
  | some pl => ∃ start i, Inner t ψ i ∧ p = Handlers.runFrom pl.sub (.inbound pl.msg) start i

/-- **What the invariant asks of a task:** an ended task has nothing left to run, a live one runs
the program of its phase. -/
def Sound (s : Seen Job Deployment) (φ : Nat → ChatPhase) (t : Nat)
    (v : TaskView Job Deployment) : Prop :=
  (v.done = true → v.program = .pure ()) ∧ (v.done = false → Fits s t (φ t) v.program)

/-- **The tasks of the executor:** they run the programs of their jobs, and every task but `t`,
the one that runs now, is sound. -/
structure Tasks (s : Seen Job Deployment) (φ : Nat → ChatPhase) (t : Nat) : Prop where
  launch : s.launch = Job.program
  sound : ∀ u v, u ≠ t → s.look u = some v → Sound s φ u v

variable {s s' : Seen Job Deployment} {φ φ' : Nat → ChatPhase} {t : Nat}

/-- A phase's program depends on the deployment only through the remembered heartbeat task. -/
theorem Fits.of_heartbeat {ψ : ChatPhase} {p : Act Unit} (h : Fits s t ψ p)
    (hhb : s.shared.heartbeatTask ≠ some t → s'.shared.heartbeatTask ≠ some t) :
    Fits s' t ψ p := by
  unfold Fits at h ⊢
  split at h
  · rcases h with hw | ⟨hready, rest⟩
    · exact .inl hw
    · exact .inr ⟨hhb hready, rest⟩
  · exact h

/-- **The tasks stay sound** under a change that keeps the other tasks' views, their phases and
the remembered heartbeat task. -/
theorem Tasks.congr (ho : Tasks s φ t) (hlaunch : s'.launch = s.launch)
    (hlook : ∀ u, u ≠ t → s'.look u = s.look u)
    (hhb : s'.shared.heartbeatTask = s.shared.heartbeatTask) (hφ : ∀ u, u ≠ t → φ' u = φ u) :
    Tasks s' φ' t where
  launch := hlaunch.trans ho.launch
  sound u v hut hv := by
    rw [hlook u hut] at hv
    obtain ⟨hdone, hfits⟩ := ho.sound u v hut hv
    refine ⟨hdone, fun hlive => ?_⟩
    rw [hφ u hut]
    exact (hfits hlive).of_heartbeat (by rw [hhb]; exact id)

/-- **A new task runs the program of its job,** which fits the phase outside the locks: a
responder of chats in order on an inbound message has not run, and every other job leaves the
locks alone. -/
theorem sound_fresh {ex ex' : Exec} (h : Table ex.seen φ) (hlaunch : ex.launch = Job.program)
    (hk : KeepsLocks ex ex') {u : Nat} {v : TaskView Job Deployment} (hnone : ex.look u = none)
    (hv : ex'.look u = some v) : Sound ex'.seen φ u v := by
  obtain ⟨j, c, rfl⟩ := hk.fresh u v hnone hv
  refine ⟨fun hdone => (by cases hdone), fun _ => ?_⟩
  have hout : φ u = .outside := ChatPhase.eq_outside (h.place_of_look_none hnone)
  have hu : u ≠ 0 := by
    rintro rfl
    rw [look_zero] at hv
    cases hv
  unfold Fits
  rw [hout, ChatPhase.place?_outside, hlaunch]
  -- A handler task of a responder of chats in order is the only job that takes a lock.
  by_cases hlock : ∃ sub set msg, j = .handle sub (.inbound msg) ∧
      sub.subscriber = .responder (some set)
  · obtain ⟨sub, set, msg, rfl, hsub⟩ := hlock
    refine .inr ⟨fun hhb => ?_, sub, set, msg, hsub, rfl⟩
    change ex'.shared.heartbeatTask = some u at hhb
    rcases hk.heartbeat with hsame | hnone' | ⟨w, c', hnew, -, hslot⟩
    · rcases (h.heartbeat u (hsame ▸ hhb)).2 with hzero | hthere
      · exact hu hzero
      · exact hthere hnone
    · rw [hnone'] at hhb
      cases hhb
    · rw [hnew] at hhb
      cases hhb
      rcases hslot with hzero | hslot
      · exact hu hzero
      · -- The new heartbeat task runs the heartbeat's loop, not a handler.
        rw [hv, hlaunch] at hslot
        exact Handlers.run_ne_heartbeat sub (.inbound msg) (congrArg TaskView.program
          (Option.some.inj hslot))
  · refine .inl (KeepsLocks.job_within u j fun sub e hj => ?_)
    subst hj
    cases hs : sub.subscriber with
    | responder locks =>
      cases locks with
      | none => cases e <;> rfl
      | some set =>
        cases e with
        | inbound msg => exact absurd ⟨sub, set, msg, rfl, hs⟩ hlock
        | outbound o => rfl
    | scripted name b => rfl
    | router => rfl

/-- **Work that leaves the chat locks alone keeps every task sound.** -/
theorem Tasks.keeps {ex ex' : Exec} (h : Table ex.seen φ) (ho : Tasks ex.seen φ t)
    (hk : KeepsLocks ex ex') : Tasks ex'.seen φ t where
  launch := hk.launch.trans ho.launch
  sound u v hut hv := by
    change ex'.look u = some v at hv
    cases hold : ex.look u with
    | none => exact sound_fresh h ho.launch hk hold hv
    | some v₀ =>
      obtain ⟨c, hv₀, -⟩ := hk.tasks u v₀ hold
      rw [hv] at hv₀
      cases hv₀
      obtain ⟨hdone, hfits⟩ := ho.sound u v₀ hut hold
      refine ⟨hdone, fun hlive => (hfits hlive).of_heartbeat fun hhb hhb' => ?_⟩
      -- A task that was there is not a new heartbeat task.
      change ex'.shared.heartbeatTask = some u at hhb'
      rcases hk.heartbeat with hsame | hnone | ⟨w, c', hnew, hfresh, -⟩
      · exact hhb (hsame ▸ hhb')
      · rw [hnone] at hhb'
        cases hhb'
      · rw [hnew] at hhb'
        cases hhb'
        rw [hfresh] at hold
        cases hold

/-! ## One poll of a task -/

/-- **What a poll of task `t` leaves:** phases under which the table holds and the other tasks
are sound; `t` is still a task, and its program has ended outside the locks, or it runs its
phase. -/
def Polled (t : Nat) (r : Exec × Act Unit) : Prop :=
  ∃ φ, Table r.1.seen φ ∧ Tasks r.1.seen φ t ∧ r.1.look t ≠ none ∧
    (r.2.isDone = true → (φ t).place? = none) ∧ (r.2.isDone = false → Fits r.1.seen t (φ t) r.2)

/-- **What a poll of a responder's lock-phase part leaves:** it has succeeded and is outside the
locks, or it has a place for the same subscription and message, and is at its phase. -/
def Settled (t : Nat) (sub : Subscription) (msg : InboundMessage)
    (r : Exec × Act (Except String Unit)) : Prop :=
  ∃ φ, Table r.1.seen φ ∧ Tasks r.1.seen φ t ∧ r.1.look t ≠ none ∧
    ((r.2 = .pure (.ok ()) ∧ (φ t).place? = none) ∨
      ∃ pl, (φ t).place? = some pl ∧ pl.sub = sub ∧ pl.msg = msg ∧ Inner t (φ t) r.2)

/-- A lock-phase part is still running: the answer of a holder never panics. -/
theorem Inner.isDone {ψ : ChatPhase} {i : Act (Except String Unit)} (ex : Exec)
    (h : Inner t ψ i) : i.isDone = false := by
  cases ψ with
  | outside => cases h
  | waiting pl =>
    change i = _ at h
    subst h
    rfl
  | holding pl =>
    obtain ⟨Q, hQ, rfl⟩ := h
    cases Q with
    | pure u => rfl
    | panic m => cases hQ.eq_true_of_panic ex rfl
    | _ => rfl

/-- **A task outside the locks that runs work leaving them alone** keeps the invariant. -/
theorem polled_outside {ex : Exec} (h : Table ex.seen φ) (ho : Tasks ex.seen φ t)
    (hlook : ex.look t ≠ none) (ht : (φ t).place? = none) {p : Act Unit}
    (hp : Program.Within KeepsLocks t true p) : Polled t (poll t ex p) := by
  obtain ⟨reach, within⟩ := hp.poll_spec ex
  have hk := KeepsLocks.of_reach reach
  refine ⟨φ, h.keeps hk, ho.keeps h hk, hk.look_ne_none hlook, fun _ => ht, fun _ => ?_⟩
  unfold Fits
  rw [ht]
  exact .inl within

/-- **A holder's poll:** its answer runs within the frame; once it ends, the mutex is released
and the place given up in the same poll. -/
theorem settled_holding {ex : Exec} (h : Table ex.seen φ) (ho : Tasks ex.seen φ t)
    (hlook : ex.look t ≠ none) {pl : Place} (ht : φ t = .holding pl) {Q : Act Unit}
    (hQ : Program.Within KeepsLocks t false Q) :
    Settled t pl.sub pl.msg (poll t ex (Handlers.holdingFrom pl.set pl.key pl.mutex Q)) := by
  obtain ⟨reach, within⟩ := hQ.poll_spec ex
  have hk := KeepsLocks.of_reach reach
  have h₁ := h.keeps hk
  have ho₁ := ho.keeps h hk
  have hlook₁ := hk.look_ne_none hlook
  generalize hr : poll t ex Q = r at within h₁ ho₁ hlook₁
  obtain ⟨ex₁, q⟩ := r
  cases hdone : q.isDone with
  | true =>
    rcases Program.isDone_eq_true hdone with ⟨u, rfl⟩ | ⟨m, rfl⟩
    · -- The answer is done: the holder leaves, and is outside the locks.
      rw [Handlers.poll_holdingFrom_pure _ _ _ (by rw [hr])]
      rw [hr]
      obtain ⟨hlook', hlaunch', hshared', -⟩ := release_keeps ex₁ pl.mutex
      refine ⟨Function.update φ t .outside, h₁.leave ht, ?_, ?_, .inl ⟨rfl, by simp⟩⟩
      · refine ho₁.congr hlaunch' (fun u _ => by
          change (ex₁.release pl.mutex).look u = ex₁.look u
          rw [hlook']) ?_
          fun u hut => Function.update_of_ne hut _ _
        change (Handlers.release pl.set pl.key (ex₁.release pl.mutex).shared).heartbeatTask = _
        rw [hshared']
        exact (Handlers.release_shared _ _ _).2
      · change (ex₁.release pl.mutex).look t ≠ none
        rw [hlook']
        exact hlook₁
    · cases within.eq_true_of_panic ex rfl
  | false =>
    rw [Handlers.poll_holdingFrom_blocked _ _ _ (by rw [hr]; exact hdone), hr]
    refine ⟨φ, h₁, ho₁, hlook₁, .inr ⟨pl, by rw [ht]; rfl, rfl, rfl, ?_⟩⟩
    rw [ht]
    exact ⟨q, within, rfl⟩

/-- **A queued responder's poll:** once its ticket holds the mutex it goes on holding it and
answers; until then nothing happens. -/
theorem settled_waiting {ex : Exec} (h : Table ex.seen φ) (ho : Tasks ex.seen φ t)
    (hlook : ex.look t ≠ none) {pl : Place} (ht : φ t = .waiting pl) :
    Settled t pl.sub pl.msg (poll t ex (Handlers.waitingOn pl.set pl.msg pl.mutex pl.ticket)) := by
  rw [Handlers.poll_waitingOn]
  split
  · rename_i hheld
    exact settled_holding (h.grant ht hheld)
      (ho.congr rfl (fun _ _ => rfl) rfl fun u hut => Function.update_of_ne hut _ _) hlook
      (Function.update_self _ _ _) (Handlers.respond_within (KeepsLocks.routine t) pl.msg)
  · exact ⟨φ, h, ho, hlook, .inr ⟨pl, by rw [ht]; rfl, rfl, rfl, by rw [ht]; rfl⟩⟩

/-- **A responder's first poll:** it takes its place on the chat's lock with a fresh ticket, and
holds the mutex and answers, or is queued. -/
theorem settled_ready {ex : Exec} (h : Table ex.seen φ) (ho : Tasks ex.seen φ t)
    (hlive : ∃ v, ex.look t = some v ∧ v.done = false ∧ v.cancelled = false)
    (ht : (φ t).place? = none) (hhb : ex.shared.heartbeatTask ≠ some t) (sub : Subscription)
    (set : Nat) (msg : InboundMessage) :
    Settled t sub msg (poll t ex (Handlers.handle (.responder (some set)) (.inbound msg))) := by
  rw [Handlers.poll_handle_inOrder]
  have he := h.enter ht hlive hhb sub set msg
  dsimp only at he ⊢
  obtain ⟨ex₁, hex₁⟩ : ∃ ex₁ : Exec,
      ex₁ = { ex with shared := (Handlers.acquire set msg.sessionKey ex.shared).1 } := ⟨_, rfl⟩
  obtain ⟨mu, hmu⟩ : ∃ mu, mu = (Handlers.acquire set msg.sessionKey ex.shared).2 := ⟨_, rfl⟩
  rw [← hex₁, ← hmu] at he ⊢
  obtain ⟨hlook', hlaunch', hshared'⟩ := lockAttempt_keeps ex₁ t mu
  -- Only the running task changes phase; the others keep theirs and their views.
  have ho' (ψ : ChatPhase) : Tasks (ex₁.lockAttempt t mu).seen (Function.update φ t ψ) t := by
    refine ho.congr (hlaunch'.trans (by rw [hex₁]; rfl)) (fun u _ => ?_) ?_
      fun u hut => Function.update_of_ne hut _ _
    · change (ex₁.lockAttempt t mu).look u = ex.look u
      rw [hlook', hex₁]
      rfl
    · change (ex₁.lockAttempt t mu).shared.heartbeatTask = ex.shared.heartbeatTask
      rw [hshared', hex₁]
      exact Handlers.acquire_heartbeatTask set msg.sessionKey ex.shared
  have hlook₂ : (ex₁.lockAttempt t mu).look t ≠ none := by
    obtain ⟨v, hv, -⟩ := hlive
    rw [hlook', hex₁]
    change ex.look t ≠ none
    rw [hv]
    exact Option.some_ne_none _
  split
  · rename_i hfree
    rw [if_pos hfree] at he
    exact settled_holding he (ho' _) hlook₂ (Function.update_self _ _ _)
      (Handlers.respond_within (KeepsLocks.routine t) msg)
  · rename_i hbusy
    rw [if_neg hbusy] at he
    refine ⟨_, he, ho' _, hlook₂, .inr ⟨_, by rw [Function.update_self]; rfl, rfl, rfl, ?_⟩⟩
    rw [Function.update_self, hex₁]
    rfl

/-- **A handler task's poll** in the panic boundary: an inner part that succeeds is reported and
the task ends; one that is still running keeps its phase. -/
theorem polled_runFrom {ex : Exec} {sub : Subscription} {msg : InboundMessage} {start : Nat}
    {i : Act (Except String Unit)} (hs : Settled t sub msg (poll t ex i)) :
    Polled t (poll t ex (Handlers.runFrom sub (.inbound msg) start i)) := by
  obtain ⟨φ, h, ho, hlook, hres⟩ := hs
  rcases hres with ⟨hpure, hout⟩ | ⟨pl, hpl, hsub, hmsg, hin⟩
  · rw [Handlers.poll_runFrom_pure _ _ _ hpure]
    have hk := KeepsLocks.write (poll t ex i).1
      (Handlers.report sub (.inbound msg) (.ok (.ok ())) (Duration.ofMillis ((poll t ex i).1.now - start)))
      ((Chore.report sub (.inbound msg) (.ok (.ok ())) _).lockView _)
    exact ⟨φ, h.keeps hk, ho.keeps h hk, hk.look_ne_none hlook, fun _ => hout,
      fun hd => by cases hd⟩
  · rw [Handlers.poll_runFrom_blocked _ _ _ (hin.isDone ex)]
    refine ⟨φ, h, ho, hlook, fun hd => (by cases hd), fun _ => ?_⟩
    unfold Fits
    rw [hpl]
    exact ⟨_, _, hin, by rw [hsub, hmsg]⟩

/-- **One poll of a task at its phase keeps the invariant.** -/
theorem polled_of_fits {ex : Exec} (h : Table ex.seen φ) (ho : Tasks ex.seen φ t)
    (hlive : ∃ v, ex.look t = some v ∧ v.done = false ∧ v.cancelled = false) {p : Act Unit}
    (hp : Fits ex.seen t (φ t) p) : Polled t (poll t ex p) := by
  have hlook : ex.look t ≠ none := by
    obtain ⟨v, hv, -⟩ := hlive
    rw [hv]
    exact Option.some_ne_none _
  unfold Fits at hp
  cases hpl : (φ t).place? with
  | none =>
    rw [hpl] at hp
    rcases hp with hw | ⟨hhb, sub, set, msg, hsub, rfl⟩
    · exact polled_outside h ho hlook hpl hw
    · rw [Handlers.poll_run, hsub]
      exact polled_runFrom (settled_ready h ho hlive hpl hhb sub set msg)
  | some pl =>
    rw [hpl] at hp
    obtain ⟨start, i, hin, rfl⟩ := hp
    refine polled_runFrom ?_
    cases hφ : φ t with
    | outside =>
      rw [hφ] at hpl
      cases hpl
    | waiting pl' =>
      rw [hφ] at hpl hin
      cases hpl
      change i = _ at hin
      subst hin
      exact settled_waiting h ho hlook hφ
    | holding pl' =>
      rw [hφ] at hpl hin
      cases hpl
      obtain ⟨Q, hQ, rfl⟩ := hin
      exact settled_holding h ho hlook hφ hQ

/-! ## Every move of the executor -/

/-- With the main program's slot empty, a running main program leaves every task to check. -/
theorem Tasks.running (ho : Tasks s φ 0) (h0 : s.look 0 = none) (t : Nat) : Tasks s φ t where
  launch := ho.launch
  sound u v _ hv := by
    by_cases hu : u = 0
    · subst hu
      rw [h0] at hv
      cases hv
    · exact ho.sound u v hu hv

/-- **A task's new view** that is sound makes every task sound. -/
theorem Tasks.setLook (ho : Tasks s φ t) {v : TaskView Job Deployment} (hv : Sound s φ t v)
    (t₀ : Nat) : Tasks (s.setLook t (some v)) φ t₀ where
  launch := ho.launch
  sound u w _ hw := by
    simp only [Seen.setLook, Function.update_apply] at hw
    split at hw
    · rename_i hu
      cases hw
      subst hu
      exact hv
    · rename_i hu
      exact ho.sound u w hu hw

/-- **Running a task keeps the invariant,** whichever task the scheduler picks. -/
theorem runTask_keeps {ex : Exec} (h : Table ex.seen φ) (ho : Tasks ex.seen φ 0)
    (main : MainView) (t : Nat) :
    ∃ φ', Table (ex.runTask main t).seen φ' ∧ Tasks (ex.runTask main t).seen φ' 0 := by
  cases hk : ex.task? t with
  | none =>
    have hrun : ex.runTask main t = ex := by
      unfold runTask
      rw [hk]
    rw [hrun]
    exact ⟨φ, h, ho⟩
  | some k =>
    have hview : ex.look t = some k.view := by simp [look, hk]
    have ht0 : t ≠ 0 := by
      rintro rfl
      rw [look_zero] at hview
      cases hview
    have hot := ho.running (look_zero ex) t
    cases hc : k.cancelled with
    | true =>
      -- A cancelled task ends; it had no place, as nothing cancels a task with one.
      rw [runTask_seen_of_cancelled ex main hk hc]
      have hpl : (φ t).place? = none := by
        cases hp : (φ t).place? with
        | none => rfl
        | some pl =>
          obtain ⟨v, hv, -, hcv⟩ := h.live t pl hp
          change ex.look t = some v at hv
          rw [hview] at hv
          cases hv
          change k.cancelled = false at hcv
          rw [hc] at hcv
          cases hcv
      exact ⟨φ, h.setLook (fun pl hp => by rw [hpl] at hp; cases hp),
        hot.setLook ⟨fun _ => rfl, fun hd => by cases hd⟩ 0⟩
    | false =>
      rw [runTask_seen ex main hk hc]
      -- While it runs, the task shows its program, not ended and not cancelled.
      have hmr : (ex.markRunning t).seen = ex.seen.setLook t (some ⟨k.program, false, false⟩) := by
        unfold markRunning
        rw [seen_modifyTask, hk]
        simp only [Option.map_some, Function.comp_apply, Task.view, TaskState.isDone, hc]
      have h₀ : Table (ex.markRunning t).seen φ := by
        rw [hmr]
        exact h.setLook fun _ _ => ⟨rfl, rfl⟩
      have ho₀ : Tasks (ex.markRunning t).seen φ t := by
        rw [hmr]
        exact hot.congr rfl (fun u hu => by simp [Seen.setLook, hu]) rfl fun _ _ => rfl
      have hlive : ∃ v, (ex.markRunning t).look t = some v ∧ v.done = false ∧ v.cancelled = false := by
        refine ⟨⟨k.program, false, false⟩, ?_, rfl, rfl⟩
        change (ex.markRunning t).seen.look t = _
        rw [hmr]
        simp [Seen.setLook]
      have hsound := ho.sound t k.view ht0 hview
      have hpolled : Polled t (poll t (ex.markRunning t) k.program) := by
        cases hdone : k.view.done with
        | true =>
          -- An ended task has nothing left to run.
          have hprog : k.program = .pure () := hsound.1 hdone
          have hpl : (φ t).place? = none := by
            cases hp : (φ t).place? with
            | none => rfl
            | some pl =>
              obtain ⟨v, hv, hdv, -⟩ := h.live t pl hp
              change ex.look t = some v at hv
              rw [hview] at hv
              cases hv
              rw [hdone] at hdv
              cases hdv
          rw [hprog]
          refine ⟨φ, h₀, ho₀, ?_, fun _ => hpl, fun hd => by cases hd⟩
          change (ex.markRunning t).look t ≠ none
          rw [hlive.choose_spec.1]
          exact Option.some_ne_none _
        | false =>
          exact polled_of_fits h₀ ho₀ hlive ((hsound.2 hdone).of_heartbeat (by rw [hmr]; exact id))
      obtain ⟨φ', h', ho', hlook', hdone', hfits'⟩ := hpolled
      generalize poll t (ex.markRunning t) k.program = r at h' ho' hlook' hdone' hfits' ⊢
      obtain ⟨k', hk'⟩ : ∃ k', r.1.task? t = some k' := by
        cases hr : r.1.task? t with
        | none =>
          exact absurd (by simp [look, hr]) hlook'
        | some k' => exact ⟨k', rfl⟩
      dsimp only
      rw [hk', Option.map_some]
      -- The new view of the task is sound, and not cancelled if it has a place.
      have hafter : Sound r.1.seen φ' t (TaskView.after r.2 k'.cancelled) := by
        unfold TaskView.after
        split
        · exact ⟨fun _ => rfl, fun hd => by cases hd⟩
        · rename_i hnd
          exact ⟨fun hd => (by cases hd), fun _ => hfits' (by simpa using hnd)⟩
      refine ⟨φ', h'.setLook (fun pl hpl => ?_), ho'.setLook hafter 0⟩
      have hnd : r.2.isDone = false := by
        cases hd : r.2.isDone with
        | false => rfl
        | true => rw [hdone' hd] at hpl; cases hpl
      obtain ⟨v, hv, -, hcv⟩ := h'.live t pl hpl
      change r.1.look t = some v at hv
      rw [look, hk', Option.map_some] at hv
      cases hv
      unfold TaskView.after
      rw [if_neg (by simp [hnd])]
      exact ⟨rfl, hcv⟩

/-! ## The invariant of a run -/

/-- **The invariant of a configuration:** the lock table and every task fit some phases, and the
main program leaves the chat locks alone. -/
def Inv {α : Type} (c : Exec × Act α) : Prop :=
  (∃ φ, Table c.1.seen φ ∧ Tasks c.1.seen φ 0) ∧ Program.Within KeepsLocks 0 true c.2

/-- **A deployment that has taken no chat lock and remembers no heartbeat task** starts
with every task outside. -/
theorem Table.start (d : Deployment) (hd : d.chatLocks = []) (hhb : d.heartbeatTask = none) :
    Table (Executor.start Job.program d).seen fun _ => .outside := by
  have hlock : ∀ set key, d.chatLock set key = none := by
    intro set key
    simp [Deployment.chatLock, hd]
  have hmu : ∀ m, (Executor.start Job.program d).seen.mutex m = {} := fun _ => rfl
  refine ⟨?live, ?heartbeat, ?distinct, ?below, ?users, ?entry, ?waiting, ?holding, ?queued,
    ?owned, ?tickets, ?ordered, ?after, ?issued⟩
  case live | entry | issued => intro t pl hpl; cases hpl
  case tickets => intro t u pl pl' hpl; cases hpl
  case heartbeat =>
    intro t ht
    change d.heartbeatTask = some t at ht
    rw [hhb] at ht
    cases ht
  case distinct =>
    intro set key _ _ l _ hl
    change d.chatLock set key = some l at hl
    rw [hlock] at hl
    cases hl
  case below | users =>
    intro set key l hl
    change d.chatLock set key = some l at hl
    rw [hlock] at hl
    cases hl
  case waiting | holding => intro t pl hpl; cases hpl
  case queued => intro m t tk hw; simp [hmu] at hw
  case owned | after => intro m tk hh; simp [hmu] at hh
  case ordered => intro m; simp [hmu]

/-- At the start no slot holds a task. -/
theorem look_start (d : Deployment) (t : Nat) : (Executor.start Job.program d).look t = none := by
  simp only [look, task?, Executor.start]
  split
  · rfl
  · rename_i ht
    simp [show ¬t < 1 by omega]

/-- **The invariant holds at the start** of a run whose main program leaves the chat locks alone. -/
theorem inv_start {α : Type} (d : Deployment) (hd : d.chatLocks = []) (hhb : d.heartbeatTask = none)
    {main : Act α} (hmain : Program.Within KeepsLocks 0 true main) :
    Inv (Executor.start Job.program d, main) := by
  refine ⟨⟨fun _ => .outside, Table.start d hd hhb, ⟨rfl, fun u v _ hv => ?_⟩⟩, hmain⟩
  change (Executor.start Job.program d).look u = some v at hv
  rw [look_start] at hv
  cases hv

/-- **Every move keeps the invariant.** -/
theorem Inv.move {α : Type} {c c' : Exec × Act α} (h : Inv c) (hm : Move c c') : Inv c' := by
  obtain ⟨⟨φ, ht, ho⟩, hmain⟩ := h
  cases hm with
  | main =>
    -- The main program's poll keeps the locks; the pruning of its timers is housekeeping.
    rename_i ex main _
    obtain ⟨hreach, hwithin⟩ := hmain.poll_spec { ex with mainWoken := false }
    have hk := KeepsLocks.of_reach hreach
    -- Clearing the main program's wake flag is not seen.
    have ht₀ : Table { ex with mainWoken := false }.seen φ := ht
    have ho₀ : Tasks { ex with mainWoken := false }.seen φ 0 := ho
    refine ⟨⟨φ, ?_, ?_⟩, hwithin⟩
    · rw [pollMain_seen]
      exact ht₀.keeps hk
    · rw [pollMain_seen]
      exact ho₀.keeps ht₀ hk
  | task =>
    rename_i ex main t _
    -- Taking the task off the queue is not seen.
    have ht₀ : Table { ex with queue := ex.queue.erase t }.seen φ := ht
    have ho₀ : Tasks { ex with queue := ex.queue.erase t }.seen φ 0 := ho
    exact ⟨runTask_keeps ht₀ ho₀ _ t, hmain⟩
  | park hp =>
    rw [← park_quiet hp] at ht ho
    exact ⟨⟨φ, ht, ho⟩, hmain⟩
  | yield =>
    rename_i ex main
    rw [← parkYield_quiet ex] at ht ho
    exact ⟨⟨φ, ht, ho⟩, hmain⟩

/-- **The invariant holds along every run.** -/
theorem Inv.reaches {α : Type} {c c' : Exec × Act α} (h : Inv c) (hr : Reaches c c') : Inv c' := by
  induction hr with
  | refl => exact h
  | tail _ hm ih => exact ih.move hm

end ChatLocks

end ChatGateway
