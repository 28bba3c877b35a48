import ChatGateway.Proofs.Delivery.Invariant
import ChatGateway.Proofs.ChatLocks.Runs

/-! # The deliveries along every run

`Delivery.Deliveries` holds of every configuration the executor reaches from a fresh deployment,
whatever the order of its moves (`Delivery.Deliveries.reaches`). Running a task keeps it in each
of the ways a task can run (`Delivery.Deliveries.runTask`):

* a cancelled task ends; no task of a delivery is ever cancelled;
* a task with nothing left to run ends again, as it ended;
* a dispatcher that runs starts the next handler's task and records it
  (`Delivery.Deliveries.startHandler`), or waits for the first poll of the last one, or ends once
  every handler has its task;
* every other task stays within the frame `KeepsDeliveries`; a handler task, inside its panic
  boundary, either goes on with the rest of its handler or ends as a success.
-/

namespace ChatGateway

open Scheduling Scheduling.Executor

/-! ## What a run of a task shows -/

namespace Scheduling.Executor

variable {ι σ : Type}

section Run

variable (ex : Executor ι σ) (main : MainView) {t : Nat} {k : Task ι σ}
  (hk : ex.task? t = some k) (hc : k.cancelled = false)

include hk hc

/-- A run shows the deployment its poll left. -/
theorem runTask_shared :
    (ex.runTask main t).shared = (poll t (ex.markRunning t) k.program).1.shared :=
  congrArg Seen.shared (runTask_seen ex main hk hc)

/-- A run keeps how tasks are launched. -/
theorem runTask_launch :
    (ex.runTask main t).launch = (poll t (ex.markRunning t) k.program).1.launch :=
  congrArg Seen.launch (runTask_seen ex main hk hc)

/-- **A run shows every other task as its poll left it.** -/
theorem runTask_look_of_ne {u : Nat} (hu : u ≠ t) :
    (ex.runTask main t).look u = (poll t (ex.markRunning t) k.program).1.look u := by
  have h := congrFun (congrArg Seen.look (runTask_seen ex main hk hc)) u
  exact h.trans (Function.update_of_ne hu _ _)

/-- **A run shows the task itself with what is left of its program.** -/
theorem runTask_look_self :
    (ex.runTask main t).look t = ((poll t (ex.markRunning t) k.program).1.task? t).map
      fun k' => TaskView.after (poll t (ex.markRunning t) k.program).2 k'.cancelled := by
  have h := congrFun (congrArg Seen.look (runTask_seen ex main hk hc)) t
  exact h.trans (Function.update_self _ _ _)

/-- After a run the task has been polled. -/
theorem runTask_hasStarted : (ex.runTask main t).hasStarted t = true := by
  obtain ⟨k', hk', hpolled, -⟩ := runTask_polled ex main hk hc
  simp [hasStarted, hk', hpolled]

end Run

/-- Marking a task running changes no other task. -/
theorem look_markRunning_of_ne (ex : Executor ι σ) {t u : Nat} (hu : u ≠ t) :
    (ex.markRunning t).look u = ex.look u := by
  unfold markRunning
  rw [look_modifyTask, if_neg hu]

/-- Marking a task running leaves whether the others have been polled. -/
theorem hasStarted_markRunning_of_ne (ex : Executor ι σ) {t u : Nat} (hu : u ≠ t) :
    (ex.markRunning t).hasStarted u = ex.hasStarted u := by
  have h : (ex.markRunning t).task? u = ex.task? u := by
    unfold markRunning
    rw [task?_modifyTask, if_neg hu]
  simp only [hasStarted, outcome?, h]

/-- A task's view shows whether it ended. -/
theorem isDone_of_look {ex : Executor ι σ} {u : Nat} {v : TaskView ι σ} {k : Task ι σ}
    (hv : ex.look u = some v) (hk : ex.task? u = some k) : k.state.isDone = v.done := by
  simp only [look, hk, Option.map_some, Option.some.injEq] at hv
  rw [← hv]
  rfl

/-- A task whose view shows it ended has nothing left to run. -/
theorem program_of_look {ex : Executor ι σ} {u : Nat} {p : Program ι σ Unit} {c : Bool}
    (hv : ex.look u = some (TaskView.after p c)) :
    ∀ k, ex.task? u = some k → k.state.isDone = true → k.program = .pure () := by
  intro k hk hd
  simp only [look, hk, Option.map_some, Option.some.injEq] at hv
  unfold TaskView.after at hv
  split at hv
  · exact congrArg TaskView.program hv
  · have := congrArg TaskView.done hv
    simp only [Task.view, hd] at this
    cases this

end Scheduling.Executor

namespace Delivery

variable {ex ex' : Exec} {D : Plan}

/-! ## No task of a delivery is cancelled -/

/-- A dispatcher is not cancelled. -/
theorem DispatcherAt.not_cancelled {n d : Nat} {hs : List Subscription} {e : BusEvent}
    {us : List Nat} (h : DispatcherAt ex n d hs e us) {v : TaskView Job Deployment}
    (hv : ex.look d = some v) : v.cancelled = false := by
  rcases h with ⟨-, hd⟩ | ⟨u, -, hd⟩ | ⟨hend, -, -⟩
  · rw [hd] at hv
    cases hv
    rfl
  · rw [hd] at hv
    cases hv
    rfl
  · rw [hend.look] at hv
    cases hv
    rfl

/-- A handler task is not cancelled. -/
theorem HandlerTask.not_cancelled {e : BusEvent} {hd : Subscription} {u : Nat}
    (h : HandlerTask ex e hd u) {v : TaskView Job Deployment} (hv : ex.look u = some v) :
    v.cancelled = false := by
  rcases h with ⟨p, -, hu⟩ | hend
  · rw [hu] at hv
    cases hv
    rfl
  · rw [hend.look] at hv
    cases hv
    rfl

/-- **A task that ends as a success:** its poll left nothing to run and it was not cancelled. -/
theorem endedOk_runTask (main : MainView) {t : Nat} {k : Task Job Deployment}
    (hk : ex.task? t = some k) (hc : k.cancelled = false)
    (hp : (poll t (ex.markRunning t) k.program).2 = .pure ())
    (hcan : ∀ k₁, (poll t (ex.markRunning t) k.program).1.task? t = some k₁ → k₁.cancelled = false) :
    EndedOk (ex.runTask main t) t := by
  obtain ⟨k', hk', -, hdone⟩ := runTask_polled ex main hk hc
  have hv := runTask_look_self ex main hk hc
  rw [hp] at hv
  cases h₁ : (poll t (ex.markRunning t) k.program).1.task? t with
  | none =>
    rw [h₁] at hv
    simp [look, hk'] at hv
  | some k₁ =>
    rw [h₁, Option.map_some, look, hk', Option.map_some, Option.some.injEq, hcan k₁ h₁] at hv
    have hprog := congrArg TaskView.program hv
    have hcan' := congrArg TaskView.cancelled hv
    exact ⟨k', hk', hdone hp, hprog, hcan'⟩

/-- An element of a list is its last one or comes before it. -/
theorem mem_dropLast_or_eq_of_getLast? {α : Type} {l : List α} {u x : α} (hx : x ∈ l)
    (hu : l.getLast? = some u) : x ∈ l.dropLast ∨ x = u := by
  rw [← List.dropLast_append_getLast? u hu] at hx
  simpa using hx

/-! ## The dispatcher's and the handlers' programs -/

/-- A dispatcher with a handler left has not ended. -/
theorem dispatch_cons_ne_pure (n : Nat) (hd : Subscription) (hs : List Subscription) (e : BusEvent) :
    dispatch n (hd :: hs) e ≠ .pure () := by
  rw [dispatch_cons]
  intro h
  cases h

/-- A dispatcher that has ended had no handler left. -/
theorem eq_nil_of_dispatch_eq_pure {n : Nat} {hs : List Subscription} {e : BusEvent}
    (h : dispatch n hs e = .pure ()) : hs = [] := by
  cases hs with
  | nil => rfl
  | cons hd hs => exact absurd h (dispatch_cons_ne_pure n hd hs e)

/-- What is left of a program within the frame is within it. -/
theorem within_after {p : Act Unit} {t : Nat} (hp : Program.Within KeepsDeliveries t true p)
    (c : Bool) : Program.Within KeepsDeliveries t true (TaskView.after p c).program := by
  unfold TaskView.after
  split
  · exact .pure ()
  · exact hp

/-- **Once the last recorded task has been polled, all have.** -/
theorem Dispatched.all_started {n d : Nat} {hs : List Subscription} {e : BusEvent}
    (hdn : Dispatched ex n d hs e) {u : Nat} (hu : (recorded n ex.shared).getLast? = some u)
    (hsu : ex.hasStarted u = true) : ∀ x ∈ recorded n ex.shared, ex.hasStarted x = true := by
  intro x hx
  rcases mem_dropLast_or_eq_of_getLast? hx hu with hx | rfl
  · exact hdn.polled x hx
  · exact hsu

/-- There are no more tasks recorded than handlers. -/
theorem Dispatched.length_le {n d : Nat} {hs : List Subscription} {e : BusEvent}
    (hdn : Dispatched ex n d hs e) : (recorded n ex.shared).length ≤ hs.length := by
  have hlen := hdn.handlers.length_eq
  rw [List.length_take] at hlen
  omega

/-! ## A change of one task -/

namespace Deliveries

/-- **A change of one task's view keeps the invariant** when the other tasks keep their views and
records, the shared deployment is the same, and the task stays what the invariant says it is. -/
theorem retask (h : Deliveries ex D) {t : Nat} {w : TaskView Job Deployment}
    (hlaunch : ex'.launch = ex.launch) (hshared : ex'.shared = ex.shared)
    (hlook : ∀ u, u ≠ t → ex'.look u = ex.look u) (hw : ex'.look t = some w)
    (hkept : KeepsEndedBut t ex ex') (hstarted : ex'.hasStarted t = true)
    (hfinished : ∀ k, ex'.task? t = some k → k.state.isDone = true → k.program = .pure ())
    (hdisp : ∀ n < ex.shared.nextDispatch, (D n).1 = t →
      DispatcherAt ex' n t (D n).2.1 (D n).2.2 (recorded n ex.shared))
    (hhandler : ∀ n < ex.shared.nextDispatch, t ∈ recorded n ex.shared →
      ∀ hd, HandlerTask ex (D n).2.2 hd t → HandlerTask ex' (D n).2.2 hd t)
    (hwithin : (∃ n < ex.shared.nextDispatch, (D n).1 = t) ∨
      Program.Within KeepsDeliveries t true w.program) : Deliveries ex' D := by
  have hstarted' := fun u => hasStarted_of_but (u := u) hkept hstarted
  have hrec : ∀ n, recorded n ex'.shared = recorded n ex.shared := fun n => by rw [hshared]
  refine ⟨hlaunch.trans h.launch,
    Nat.pos_iff_ne_zero.mp (Nat.lt_of_lt_of_le (Nat.pos_of_ne_zero h.size) hkept.size),
    ?dispatched, ?distinct, ?apart, ?unopened, ?within, ?heartbeat, ?finished⟩
  case dispatched =>
    intro n hn
    rw [hshared] at hn
    have hdn := h.dispatched n hn
    refine hdn.transfer (hrec n) (fun hat => ?_) (fun hd u hu hhd => ?_)
      fun u hu hs => hstarted' u (hdn.look_ne_none hu) hs
    · by_cases hdt : (D n).1 = t
      · rw [hdt]
        exact hdisp n hn hdt
      · exact hat.transfer (fun p hv => (hlook _ hdt).trans hv)
          (fun hend => hend.of_kept (hkept.task _ hdt))
          fun u hu hs => hstarted' u (hdn.look_ne_none hu) hs
    · by_cases hut : u = t
      · subst hut
        exact hhandler n hn hu hd hhd
      · exact hhd.transfer (fun p hv => (hlook u hut).trans hv)
          fun hend => hend.of_kept (hkept.task u hut)
  case distinct =>
    intro n hn m hm
    rw [hshared] at hn hm
    exact h.distinct n hn m hm
  case apart =>
    intro n hn m hm
    rw [hshared] at hn hm ⊢
    exact h.apart n hn m hm
  case unopened =>
    intro n hn
    rw [hshared] at hn ⊢
    exact h.unopened n hn
  case within =>
    intro u v hv
    rw [hshared]
    by_cases hut : u = t
    · subst hut
      rw [hw] at hv
      cases hv
      exact hwithin
    · rw [hlook u hut] at hv
      exact h.within u v hv
  case heartbeat =>
    intro u hu
    rw [hshared] at hu ⊢
    obtain ⟨hex, hnot⟩ := h.heartbeat u hu
    refine ⟨?_, hnot⟩
    by_cases hut : u = t
    · rw [hut, hw]
      exact .inr (Option.some_ne_none _)
    · rw [hlook u hut]
      exact hex
  case finished =>
    intro u k hu hd
    by_cases hut : u = t
    · subst hut
      exact hfinished k hu hd
    · exact h.finished u k ((hkept.task u hut).none_new k hu hd) hd

/-! ## Running a task -/

section Run

variable (main : MainView) {t : Nat} {k : Task Job Deployment}

/-- A run whose poll changes nothing but the task shows what is left of its program. -/
theorem look_runQuiet (hk : ex.task? t = some k) (hc : k.cancelled = false) {p : Act Unit}
    (hpoll : poll t (ex.markRunning t) k.program = (ex.markRunning t, p)) :
    (ex.runTask main t).look t = some (TaskView.after p false) := by
  rw [runTask_look_self ex main hk hc, hpoll, task?_markRunning ex hk, Option.map_some]
  simp only [hc]

/-- Such a run ends the task as a success when nothing is left. -/
theorem endedOk_runQuiet (hk : ex.task? t = some k) (hc : k.cancelled = false)
    (hpoll : poll t (ex.markRunning t) k.program = (ex.markRunning t, .pure ())) :
    EndedOk (ex.runTask main t) t := by
  refine endedOk_runTask main hk hc (by rw [hpoll]) fun k₁ h₁ => ?_
  rw [hpoll, task?_markRunning ex hk] at h₁
  cases h₁
  exact hc

/-- Such a run keeps the shared deployment. -/
theorem shared_runQuiet (hk : ex.task? t = some k) (hc : k.cancelled = false) {p : Act Unit}
    (hpoll : poll t (ex.markRunning t) k.program = (ex.markRunning t, p)) :
    (ex.runTask main t).shared = ex.shared := by
  rw [runTask_shared ex main hk hc, hpoll]
  rfl

/-- **A run whose poll changes nothing but the task** keeps the invariant when the task stays
what the invariant says it is. -/
theorem runQuiet (h : Deliveries ex D) (hk : ex.task? t = some k) (hc : k.cancelled = false)
    {p : Act Unit} (hpoll : poll t (ex.markRunning t) k.program = (ex.markRunning t, p))
    (hdisp : ∀ n < ex.shared.nextDispatch, (D n).1 = t →
      DispatcherAt (ex.runTask main t) n t (D n).2.1 (D n).2.2 (recorded n ex.shared))
    (hhandler : ∀ n < ex.shared.nextDispatch, t ∈ recorded n ex.shared →
      ∀ hd, HandlerTask ex (D n).2.2 hd t → HandlerTask (ex.runTask main t) (D n).2.2 hd t)
    (hwithin : (∃ n < ex.shared.nextDispatch, (D n).1 = t) ∨
      Program.Within KeepsDeliveries t true (TaskView.after p false).program) :
    Deliveries (ex.runTask main t) D := by
  have hlook := look_runQuiet main hk hc hpoll
  refine h.retask ?launch (shared_runQuiet main hk hc hpoll) ?look hlook
    (runTask_keepsEndedBut ex main t) (runTask_hasStarted ex main hk hc) (program_of_look hlook)
    hdisp hhandler hwithin
  case launch =>
    rw [runTask_launch ex main hk hc, hpoll]
    rfl
  case look =>
    intro u hu
    rw [runTask_look_of_ne ex main hk hc hu, hpoll]
    exact look_markRunning_of_ne ex hu

/-- **A cancelled task ends;** it is none of the tasks of a delivery, which are never
cancelled. -/
theorem runCancelled (h : Deliveries ex D) (hk : ex.task? t = some k) (hc : k.cancelled = true) :
    Deliveries (ex.runTask main t) D ∧
      (ex.runTask main t).shared.nextDispatch = ex.shared.nextDispatch := by
  have hseen := runTask_seen_of_cancelled ex main hk hc
  have hview : ex.look t = some k.view := by simp [look, hk]
  -- The task ends with its record replaced, as a failure.
  have htask : (ex.runTask main t).task? t =
      some { k with program := .pure (), state := .done false } := by
    have hfin := task?_finish ex main hk false
    unfold Executor.runTask
    rw [hk]
    simp only [hc, if_true] at hfin ⊢
    exact ((KeepsEnded.wakeAll _ _).task t).ended _ hfin rfl
  have hshared : (ex.runTask main t).shared = ex.shared := congrArg Seen.shared hseen
  refine ⟨h.retask (w := ⟨.pure (), true, true⟩) (congrArg Seen.launch hseen) hshared
    (fun u hu => (congrFun (congrArg Seen.look hseen) u).trans (Function.update_of_ne hu _ _))
    ((congrFun (congrArg Seen.look hseen) t).trans (Function.update_self _ _ _))
    (runTask_keepsEndedBut ex main t) ?started ?finished ?disp ?handler (.inr (.pure ())),
    by rw [hshared]⟩
  case started => simp [hasStarted, htask, outcome?]
  case finished =>
    intro k' hk' _
    rw [htask] at hk'
    cases hk'
    rfl
  case disp =>
    intro n hn hdt
    have hat := (h.dispatched n hn).dispatcher
    rw [hdt] at hat
    have hcv := hat.not_cancelled hview
    simp [Task.view, hc] at hcv
  case handler =>
    intro n hn hu hd hhd
    have hcv := hhd.not_cancelled hview
    simp [Task.view, hc] at hcv

/-- **A task with nothing left to run ends again,** as it ended: a dispatcher that had no handler
to start ends as one that started them all. -/
theorem runEnded (h : Deliveries ex D) (hk : ex.task? t = some k) (hc : k.cancelled = false)
    (hpure : k.program = .pure ()) :
    Deliveries (ex.runTask main t) D ∧
      (ex.runTask main t).shared.nextDispatch = ex.shared.nextDispatch := by
  have hpoll : poll t (ex.markRunning t) k.program = (ex.markRunning t, .pure ()) := by
    rw [hpure]
    rfl
  have hview : ex.look t = some ⟨.pure (), k.state.isDone, false⟩ := by
    simp [look, hk, Task.view, hpure, hc]
  have hend := endedOk_runQuiet main hk hc hpoll
  have hkept := runTask_keepsEndedBut ex main t
  refine ⟨h.runQuiet main hk hc hpoll ?disp ?handler (.inr (.pure ())),
    by rw [shared_runQuiet main hk hc hpoll]⟩
  case disp =>
    intro n hn hdt
    have hdn := h.dispatched n hn
    have hat := hdn.dispatcher
    rw [hdt] at hat
    rcases hat with ⟨hus, hv⟩ | ⟨u, -, hv⟩ | ⟨-, hlen, hall⟩
    · -- It had no handler to start.
      rw [hview] at hv
      have hnil := eq_nil_of_dispatch_eq_pure (congrArg TaskView.program (Option.some.inj hv)).symm
      refine .inr (.inr ⟨hend, by rw [hus, hnil]; rfl, fun u hu => ?_⟩)
      rw [hus] at hu
      cases hu
    · rw [hview] at hv
      cases hv
    · refine .inr (.inr ⟨hend, hlen, fun u hu => ?_⟩)
      have hut : u ≠ t := fun hut => hdn.apart (by rw [hdt, ← hut]; exact hu)
      exact hasStarted_of_kept (hkept.task u hut) (hdn.look_ne_none hu) (hall u hu)
  case handler =>
    intro n hn hu hd hhd
    rcases hhd with ⟨p, hrep, hv⟩ | -
    · -- The handler's program has not ended, so it is not this task's.
      rw [hview] at hv
      have hp : Program.pure () = p := congrArg TaskView.program (Option.some.inj hv)
      have hdone := hrep.isDone
      rw [← hp] at hdone
      cases hdone
    · exact .inr hend

/-- **The dispatcher starts the next handler:** the handler's task is spawned and recorded under
the dispatch number, and the dispatcher waits for the task's first poll. -/
theorem startHandler (h : Deliveries ex D) (hk : ex.task? t = some k) (hc : k.cancelled = false)
    {n : Nat} (hn : n < ex.shared.nextDispatch) (hdt : (D n).1 = t) {hd : Subscription}
    {rest : List Subscription} (hdrop : (D n).2.1.drop (recorded n ex.shared).length = hd :: rest)
    (hall : ∀ u ∈ recorded n ex.shared, ex.hasStarted u = true)
    (hpoll : poll t (ex.markRunning t) k.program =
      (handlerStarted (ex.markRunning t) n hd (D n).2.2,
        .started ex.tasks.size fun _ => dispatch n rest (D n).2.2)) :
    Deliveries (ex.runTask main t) D ∧
      (ex.runTask main t).shared.nextDispatch = ex.shared.nextDispatch := by
  have hdn := h.dispatched n hn
  have hkept := runTask_keepsEndedBut ex main t
  have hsize : (ex.markRunning t).tasks.size = ex.tasks.size := by
    simp [markRunning, modifyTask]
  -- The new task's slot was empty, unlike the slot of every task that is there.
  have hfresh : ∀ u, ex.look u ≠ none → u ≠ ex.tasks.size := by
    rintro u hu rfl
    exact hu (KeepsDeliveries.look_size ex)
  have hview : ex.look t = some k.view := by simp [look, hk]
  have htsize : t ≠ ex.tasks.size := hfresh t (by rw [hview]; exact Option.some_ne_none _)
  have hrecorded : ∀ m < ex.shared.nextDispatch, ∀ u ∈ recorded m ex.shared, ex.look u ≠ none :=
    fun m hm u hu => (h.dispatched m hm).look_ne_none hu
  -- What the run shows: the record, the new task, and the others as they were.
  have hshared : (ex.runTask main t).shared = record n ex.tasks.size ex.shared := by
    rw [runTask_shared ex main hk hc, hpoll]
    simp only [handlerStarted, spawnTask_id, hsize]
    rfl
  have hlook : ∀ u, u ≠ t → (ex.runTask main t).look u =
      if u = ex.tasks.size then some ⟨Job.program (.handle hd (D n).2.2), false, false⟩
      else ex.look u := by
    intro u hu
    rw [runTask_look_of_ne ex main hk hc hu, hpoll]
    change ((ex.markRunning t).spawnTask (.handle hd (D n).2.2)).1.look u = _
    rw [look_spawnTask, hsize, look_markRunning_of_ne ex hu]
    by_cases hus : u = ex.tasks.size
    · rw [if_pos ⟨hus, by rw [hus]; exact h.size⟩, if_pos hus]
      rw [show (ex.markRunning t).launch = Job.program from h.launch]
    · rw [if_neg fun h' => hus h'.1, if_neg hus]
  have hold : ∀ u, u ≠ t → ex.look u ≠ none → (ex.runTask main t).look u = ex.look u := by
    intro u hu hex
    rw [hlook u hu, if_neg (hfresh u hex)]
  have hview_old : ∀ u, u ≠ t → ∀ v, ex.look u = some v → (ex.runTask main t).look u = some v :=
    fun u hu v hv => (hold u hu (by rw [hv]; exact Option.some_ne_none _)).trans hv
  have hnew : (ex.runTask main t).look ex.tasks.size =
      some ⟨Handlers.run hd (D n).2.2, false, false⟩ := by
    rw [hlook _ htsize.symm, if_pos rfl]
    rfl
  have hself : (ex.runTask main t).look t =
      some ⟨.started ex.tasks.size fun _ => dispatch n rest (D n).2.2, false, false⟩ := by
    have htask : (handlerStarted (ex.markRunning t) n hd (D n).2.2).task? t =
        some { k with state := .running, rewake := false } := by
      change ((ex.markRunning t).spawnTask (.handle hd (D n).2.2)).1.task? t = _
      rw [task?_spawnTask, hsize, if_neg fun h' => htsize h'.1, task?_markRunning ex hk]
    rw [runTask_look_self ex main hk hc, hpoll, htask, Option.map_some]
    simp [TaskView.after, Program.isDone, hc]
  have hstarted := fun u => hasStarted_of_but (u := u) hkept (runTask_hasStarted ex main hk hc)
  have hrec : ∀ m, recorded m (ex.runTask main t).shared =
      if m = n then recorded n ex.shared ++ [ex.tasks.size] else recorded m ex.shared := by
    intro m
    rw [hshared, recorded_record]
  have hnext : (ex.runTask main t).shared.nextDispatch = ex.shared.nextDispatch := by
    rw [hshared]
    rfl
  have hhb : (ex.runTask main t).shared.heartbeatTask = ex.shared.heartbeatTask := by
    rw [hshared]
    rfl
  -- A task is recorded under the dispatch number afterwards if it was before, or is the new one.
  have hmem : ∀ m u, u ∈ recorded m (ex.runTask main t).shared →
      u ∈ recorded m ex.shared ∨ (m = n ∧ u = ex.tasks.size) := by
    intro m u hu
    rw [hrec] at hu
    split at hu
    · rename_i hm
      subst hm
      rcases List.mem_append.mp hu with hu | hu
      · exact .inl hu
      · exact .inr ⟨rfl, List.mem_singleton.mp hu⟩
    · exact .inl hu
  refine ⟨⟨?launch, Nat.pos_iff_ne_zero.mp (Nat.lt_of_lt_of_le (Nat.pos_of_ne_zero h.size) hkept.size),
    ?dispatched, ?distinct, ?apart, ?unopened, ?within, ?heartbeat, ?finished⟩, hnext⟩
  case launch =>
    rw [runTask_launch ex main hk hc, hpoll]
    exact h.launch
  case dispatched =>
    intro m hm
    rw [hnext] at hm
    by_cases hmn : m = n
    · -- The dispatch that records the new task.
      subst hmn
      rw [hdt]
      have hrec_n : recorded m (ex.runTask main t).shared =
          recorded m ex.shared ++ [ex.tasks.size] := by
        rw [hrec, if_pos rfl]
      have hnotin : ex.tasks.size ∉ recorded m ex.shared :=
        fun hu => hfresh _ (hrecorded m hm _ hu) rfl
      refine ⟨?handlers, ?nodup, ?polled, ?dispatcher, ?outside⟩
      case handlers =>
        rw [hrec_n, List.length_append, List.length_singleton, List.take_add, hdrop]
        refine List.rel_append (forall₂_imp_of_mem hdn.handlers fun hd' u hu hhd => ?_)
          (List.Forall₂.cons (.inl ⟨_, .inl rfl, hnew⟩) .nil)
        have hut : u ≠ t := fun hut => hdn.apart (by rw [hdt, ← hut]; exact hu)
        exact hhd.transfer (fun p hv => hview_old u hut _ hv)
          fun hend => hend.of_kept (hkept.task u hut)
      case nodup =>
        rw [hrec_n, List.nodup_append]
        refine ⟨hdn.nodup, List.nodup_cons.mpr ⟨List.not_mem_nil, List.nodup_nil⟩, ?_⟩
        intro x hx y hy
        rw [List.mem_singleton] at hy
        subst hy
        rintro rfl
        exact hnotin hx
      case polled =>
        rw [hrec_n, List.dropLast_concat]
        intro u hu
        exact hstarted u (hrecorded m hm u hu) (hall u hu)
      case dispatcher =>
        have hdrop' : (D m).2.1.drop (recorded m ex.shared ++ [ex.tasks.size]).length = rest := by
          rw [List.length_append, List.length_singleton, ← List.drop_drop, hdrop]
          rfl
        rw [hrec_n]
        refine .inr (.inl ⟨ex.tasks.size, by simp, ?_⟩)
        rw [hdrop', hself]
      case outside =>
        rw [hrec_n]
        intro hu
        rcases List.mem_append.mp hu with hu | hu
        · exact hdn.apart (by rw [hdt]; exact hu)
        · exact htsize (List.mem_singleton.mp hu)
    · -- Every other dispatch keeps its tasks, none of which is the dispatcher that ran.
      have hdm := h.dispatched m hm
      have hmt : (D m).1 ≠ t := fun hmt => hmn (h.distinct m hm n hn (hmt.trans hdt.symm))
      have htm : ∀ u ∈ recorded m ex.shared, u ≠ t := fun u hu hut =>
        h.apart n hn m hm (by rw [hdt, ← hut]; exact hu)
      refine hdm.transfer (by rw [hrec, if_neg hmn]) (fun hat => ?_) (fun hd' u hu hhd => ?_)
        fun u hu hs => hstarted u (hrecorded m hm u hu) hs
      · exact hat.transfer
          (fun p hv => hview_old _ hmt _ hv)
          (fun hend => hend.of_kept (hkept.task _ hmt))
          fun u hu hs => hstarted u (hrecorded m hm u hu) hs
      · exact hhd.transfer
          (fun p hv => hview_old u (htm u hu) _ hv)
          fun hend => hend.of_kept (hkept.task u (htm u hu))
  case distinct =>
    intro a ha b hb
    rw [hnext] at ha hb
    exact h.distinct a ha b hb
  case apart =>
    intro a ha b hb hu
    rw [hnext] at ha hb
    rcases hmem b _ hu with hu | ⟨-, hsz⟩
    · exact h.apart a ha b hb hu
    · exact hfresh _ (h.look_tracked ha (.inl rfl)) hsz
  case unopened =>
    intro m hm
    rw [hnext] at hm
    rw [hrec, if_neg (by omega)]
    exact h.unopened m hm
  case within =>
    intro u v hv
    rw [hnext]
    by_cases hut : u = t
    · exact .inl ⟨n, hn, hdt.trans hut.symm⟩
    · rw [hlook u hut] at hv
      split at hv
      · -- The new task runs its handler.
        cases hv
        exact .inr (KeepsDeliveries.job_within u (.handle hd (D n).2.2) fun _ _ _ h' => by cases h')
      · exact h.within u v hv
  case heartbeat =>
    intro u hu
    rw [hhb] at hu
    rw [hnext]
    obtain ⟨hex, hnot⟩ := h.heartbeat u hu
    -- The heartbeat task is not the new one, whose slot was empty.
    have husize : u ≠ ex.tasks.size := by
      rcases hex with hzero | hex
      · rw [hzero]
        exact Ne.symm h.size
      · exact hfresh u hex
    refine ⟨?_, fun m hm => ⟨(hnot m hm).1, fun hu' => ?_⟩⟩
    · rcases hex with hzero | hex
      · exact .inl hzero
      · refine .inr ?_
        by_cases hut : u = t
        · rw [hut, hself]
          exact Option.some_ne_none _
        · rw [hold u hut hex]
          exact hex
    · rcases hmem m u hu' with hu' | ⟨-, hsz⟩
      · exact (hnot m hm).2 hu'
      · exact husize hsz
  case finished =>
    intro u k' hu hdone
    by_cases hut : u = t
    · subst hut
      rw [isDone_of_look hself hu] at hdone
      cases hdone
    · by_cases hus : u = ex.tasks.size
      · subst hus
        rw [isDone_of_look hnew hu] at hdone
        cases hdone
      · exact h.finished u k' ((hkept.task u hut).none_new k' hu hdone) hdone

/-- **A dispatcher's run:** it starts the next handler, or waits for the first poll of the last
one's task, or ends once every handler has its task. -/
theorem runDispatcher (h : Deliveries ex D) (hk : ex.task? t = some k) (hc : k.cancelled = false)
    (hpure : k.program ≠ .pure ()) {n : Nat} (hn : n < ex.shared.nextDispatch) (hdt : (D n).1 = t) :
    Deliveries (ex.runTask main t) D ∧
      (ex.runTask main t).shared.nextDispatch = ex.shared.nextDispatch := by
  have hdn := h.dispatched n hn
  have hkept := runTask_keepsEndedBut ex main t
  have hview : ex.look t = some k.view := by simp [look, hk]
  have hsz : (ex.markRunning t).tasks.size = ex.tasks.size := by
    simp [markRunning, modifyTask]
  have hsize : (ex.markRunning t).tasks.size ≠ 0 := by
    rw [hsz]
    exact h.size
  -- The dispatcher is the dispatcher of `n` only, and no recorded task.
  have hself : ∀ m < ex.shared.nextDispatch, (D m).1 = t → m = n :=
    fun m hm hmt => h.distinct m hm n hn (hmt.trans hdt.symm)
  have hnot : ∀ m < ex.shared.nextDispatch, t ∉ recorded m ex.shared :=
    fun m hm hu => h.apart n hn m hm (by rw [hdt]; exact hu)
  -- A run that leaves the dispatcher's record alone keeps the invariant once it is where it is.
  have hquiet : ∀ {p : Act Unit}, poll t (ex.markRunning t) k.program = (ex.markRunning t, p) →
      DispatcherAt (ex.runTask main t) n t (D n).2.1 (D n).2.2 (recorded n ex.shared) →
      Deliveries (ex.runTask main t) D ∧
        (ex.runTask main t).shared.nextDispatch = ex.shared.nextDispatch := by
    intro p hpoll hat
    refine ⟨h.runQuiet main hk hc hpoll (fun m hm hmt => ?_)
      (fun m hm hu => absurd hu (hnot m hm)) (.inl ⟨n, hn, hdt⟩),
      by rw [shared_runQuiet main hk hc hpoll]⟩
    obtain rfl := hself m hm hmt
    exact hat
  have hat := hdn.dispatcher
  rw [hdt] at hat
  rcases hat with ⟨hus, hv⟩ | ⟨u, hu, hv⟩ | ⟨hend, -, -⟩
  · -- It has not run: it starts the first handler.
    rw [hview] at hv
    have hprog : k.program = dispatch n (D n).2.1 (D n).2.2 :=
      congrArg TaskView.program (Option.some.inj hv)
    cases hhs : (D n).2.1 with
    | nil => exact absurd (by rw [hprog, hhs]; rfl) hpure
    | cons hd rest =>
      refine h.startHandler main hk hc hn hdt (by rw [hus, hhs]; rfl) (by rw [hus]; simp) ?_
      rw [hprog, hhs, poll_dispatch_cons t (ex.markRunning t) n hd rest (D n).2.2 hsize, hsz]
  · -- It waits for the first poll of the last handler's task.
    rw [hview] at hv
    have hprog : k.program = .started u fun _ =>
        dispatch n ((D n).2.1.drop (recorded n ex.shared).length) (D n).2.2 :=
      congrArg TaskView.program (Option.some.inj hv)
    have hut : u ≠ t := fun hut => hnot n hn (by rw [← hut]; exact List.mem_of_getLast? hu)
    cases hsu : ex.hasStarted u with
    | false =>
      -- Not polled yet: the dispatcher stays as it is.
      have hpoll : poll t (ex.markRunning t) k.program = (ex.markRunning t, k.program) := by
        rw [hprog]
        exact poll_started_dispatch_of_not t _ u n _ _
          (by rw [hasStarted_markRunning_of_ne ex hut, hsu])
      refine hquiet hpoll (.inr (.inl ⟨u, hu, ?_⟩))
      rw [look_runQuiet main hk hc hpoll, hprog]
      rfl
    | true =>
      -- Polled: the dispatcher goes on with the handlers left.
      have hall := hdn.all_started hu hsu
      have hpoll₁ : poll t (ex.markRunning t) k.program = poll t (ex.markRunning t)
          (dispatch n ((D n).2.1.drop (recorded n ex.shared).length) (D n).2.2) := by
        rw [hprog]
        exact poll_started_dispatch t _ u n _ _ (by rw [hasStarted_markRunning_of_ne ex hut, hsu])
      cases hdrop : (D n).2.1.drop (recorded n ex.shared).length with
      | nil =>
        -- None is left: it ends, every handler having its task.
        rw [hdrop] at hpoll₁
        have hpoll := hpoll₁.trans (poll_dispatch_nil t _ n _)
        have hlen : (recorded n ex.shared).length = (D n).2.1.length := by
          have hle := hdn.length_le
          have hdl := congrArg List.length hdrop
          rw [List.length_drop, List.length_nil] at hdl
          omega
        refine hquiet hpoll (.inr (.inr ⟨endedOk_runQuiet main hk hc hpoll, hlen, fun x hx => ?_⟩))
        have hxt : x ≠ t := fun hxt => hnot n hn (by rw [← hxt]; exact hx)
        exact hasStarted_of_kept (hkept.task x hxt) (hdn.look_ne_none hx) (hall x hx)
      | cons hd rest =>
        refine h.startHandler main hk hc hn hdt hdrop hall ?_
        rw [hpoll₁, hdrop, poll_dispatch_cons t (ex.markRunning t) n hd rest (D n).2.2 hsize, hsz]
  · -- It has ended, and nothing is left to run.
    obtain ⟨k', hk', -, hprog, -⟩ := hend
    rw [hk] at hk'
    cases hk'
    exact absurd hprog hpure

/-- Marking a task that has not ended running is a step of the frame. -/
theorem keepsDeliveries_markRunning (hk : ex.task? t = some k) (hlive : k.state.isDone = false) :
    KeepsDeliveries ex (ex.markRunning t) :=
  KeepsDeliveries.of_same (congrArg Seen.look (markRunning_quiet ex hk hlive)) rfl rfl
    (KeepsEnded.modifyTask ex t _ fun k' hk' => by
      rw [hk] at hk'
      cases hk'
      exact ⟨hlive, rfl, rfl⟩)

/-- **The end of a run of a task that is no dispatcher:** every plan that holds once the task's
poll is over, and under which the task is no dispatcher, still holds once the run is over. A
handler task, inside its panic boundary, goes on with the rest of its handler or ends as a
success. -/
theorem runOther_of_polled (hk : ex.task? t = some k) (hc : k.cancelled = false)
    (hlive : k.state.isDone = false) (hwithin : Program.Within KeepsDeliveries t true k.program)
    {D₁ : Plan} (h₁ : Deliveries (poll t (ex.markRunning t) k.program).1 D₁)
    (hnd : ∀ n < (poll t (ex.markRunning t) k.program).1.shared.nextDispatch, (D₁ n).1 ≠ t) :
    Deliveries (ex.runTask main t) D₁ := by
  have hview : ex.look t = some k.view := by simp [look, hk]
  -- The poll is a run of steps of the frame, which keep the task's own program.
  obtain ⟨hreach, hres⟩ := hwithin.poll_spec (ex.markRunning t)
  obtain ⟨c, hc₁⟩ :=
    look_of_reach (Relation.ReflTransGen.head (keepsDeliveries_markRunning hk hlive) hreach) hview
  obtain ⟨k₁, hk₁, hv₁⟩ : ∃ k₁, (poll t (ex.markRunning t) k.program).1.task? t = some k₁ ∧
      k₁.view = { k.view with cancelled := c } := by
    simp only [look, Option.map_eq_some_iff] at hc₁
    exact hc₁
  have hcan : k₁.cancelled = c := congrArg TaskView.cancelled hv₁
  have hlook₁ : (poll t (ex.markRunning t) k.program).1.look t = some ⟨k.program, false, c⟩ := by
    rw [hc₁]
    simp [Task.view, hlive]
  have hself : (ex.runTask main t).look t =
      some (TaskView.after (poll t (ex.markRunning t) k.program).2 c) := by
    rw [runTask_look_self ex main hk hc, hk₁, Option.map_some, hcan]
  refine h₁.retask (runTask_launch ex main hk hc) (runTask_shared ex main hk hc)
    (fun u hu => runTask_look_of_ne ex main hk hc hu) hself ?kept
    (runTask_hasStarted ex main hk hc) (program_of_look hself)
    (fun n hn hdt => absurd hdt (hnd n hn)) ?handler (.inr (within_after hres c))
  case kept =>
    rw [runTask_eq ex main hk hc]
    exact afterPoll_keepsEndedBut _ _ _ _ _
  case handler =>
    intro n hn hu hd hhd
    rcases hhd with ⟨p, hrep, hv⟩ | hend
    · -- Inside the boundary, the handler goes on or its task ends as a success.
      rw [hlook₁] at hv
      have hprog : k.program = p := congrArg TaskView.program (Option.some.inj hv)
      have hcf : c = false := congrArg TaskView.cancelled (Option.some.inj hv)
      rw [← hprog] at hrep
      rcases Handlers.poll_reporting hrep t (ex.markRunning t) with hp | hq
      · refine .inr (endedOk_runTask main hk hc hp fun k' hk' => ?_)
        rw [hk₁] at hk'
        cases hk'
        rw [hcan, hcf]
      · refine .inl ⟨_, hq, ?_⟩
        rw [hself, hcf, TaskView.after, if_neg (by rw [hq.isDone]; exact Bool.false_ne_true)]
    · -- A task that has ended is not running.
      rw [hend.look] at hlook₁
      have hdone := congrArg TaskView.done (Option.some.inj hlook₁)
      cases hdone

/-- **A run of any other task** keeps the invariant, under the plan its poll leaves. -/
theorem runOther (h : Deliveries ex D) (hk : ex.task? t = some k) (hc : k.cancelled = false)
    (hpure : k.program ≠ .pure ()) (hnot : ¬∃ n < ex.shared.nextDispatch, (D n).1 = t) :
    ∃ D', Deliveries (ex.runTask main t) D' ∧
      ex.shared.nextDispatch ≤ (ex.runTask main t).shared.nextDispatch ∧
      ∀ n < ex.shared.nextDispatch, D' n = D n := by
  have hview : ex.look t = some k.view := by simp [look, hk]
  -- The task has not ended, so marking it running is housekeeping.
  have hlive : k.state.isDone = false := by
    cases hd : k.state.isDone with
    | false => rfl
    | true => exact absurd (h.finished t k hk hd) hpure
  have hwithin : Program.Within KeepsDeliveries t true k.program := by
    rcases h.within t k.view hview with hd | hw
    · exact absurd hd hnot
    · exact hw
  obtain ⟨hreach, -⟩ := hwithin.poll_spec (ex.markRunning t)
  obtain ⟨D', h', hle, hD', hnew⟩ :=
    h.reach (Relation.ReflTransGen.head (keepsDeliveries_markRunning hk hlive) hreach)
  refine ⟨D', runOther_of_polled main hk hc hlive hwithin h' fun n hn hdt => ?_,
    by rw [runTask_shared ex main hk hc]; exact hle, hD'⟩
  -- A dispatcher taken before is another task, and one taken in the poll is a new task.
  by_cases hold : n < ex.shared.nextDispatch
  · exact hnot ⟨n, hold, (hD' n hold).symm ▸ hdt⟩
  · have hnone := hnew n (Nat.not_lt.mp hold) hn
    rw [hdt, hview] at hnone
    cases hnone

/-- **Running any task keeps the invariant,** under a plan that keeps every dispatch number taken
before. -/
theorem runTask (h : Deliveries ex D) (t : Nat) :
    ∃ D', Deliveries (ex.runTask main t) D' ∧
      ex.shared.nextDispatch ≤ (ex.runTask main t).shared.nextDispatch ∧
      ∀ n < ex.shared.nextDispatch, D' n = D n := by
  -- A run that takes no dispatch number keeps the plan.
  have hsame : Deliveries (ex.runTask main t) D ∧
      (ex.runTask main t).shared.nextDispatch = ex.shared.nextDispatch →
      ∃ D', Deliveries (ex.runTask main t) D' ∧
        ex.shared.nextDispatch ≤ (ex.runTask main t).shared.nextDispatch ∧
        ∀ n < ex.shared.nextDispatch, D' n = D n :=
    fun ⟨h', hnext⟩ => ⟨D, h', Nat.le_of_eq hnext.symm, fun _ _ => rfl⟩
  cases hk : ex.task? t with
  | none =>
    have hrun : ex.runTask main t = ex := by
      unfold Executor.runTask
      rw [hk]
    rw [hrun]
    exact ⟨D, h, Nat.le_refl _, fun _ _ => rfl⟩
  | some k =>
    cases hc : k.cancelled with
    | true => exact hsame (h.runCancelled main hk hc)
    | false =>
      by_cases hpure : k.program = .pure ()
      · exact hsame (h.runEnded main hk hc hpure)
      · by_cases hdisp : ∃ n < ex.shared.nextDispatch, (D n).1 = t
        · obtain ⟨n, hn, hdt⟩ := hdisp
          exact hsame (h.runDispatcher main hk hc hpure hn hdt)
        · exact h.runOther main hk hc hpure hdisp

end Run

end Deliveries

end Delivery

end ChatGateway
