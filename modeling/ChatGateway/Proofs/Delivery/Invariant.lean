import Mathlib.Data.List.Forall2
import ChatGateway.Proofs.Delivery.Frame
import ChatGateway.Proofs.Scheduling.Moves

/-! # The invariant of the deliveries

Every publish on an open bus takes a dispatch number `n` and starts one dispatcher task `d` with
the handlers `hs` subscribed to the event's topic at that moment. From then on the executor
shows, for every number taken, a delivery in progress (`Delivery.Dispatched`):

* the tasks recorded under `n` are one task for each handler of a prefix of `hs`, in order, all
  distinct; each runs its handler inside the panic boundary and is not cancelled, or has ended as
  a success (`Delivery.HandlerTask`);
* each recorded task but the last has been polled;
* the dispatcher has not run and nothing is recorded, or it waits for the first poll of the last
  recorded task, or it has ended as a success after starting a task for every handler, all of
  them polled (`Delivery.DispatcherAt`).

`Delivery.Deliveries` adds what keeps this true while other tasks run: the dispatchers of
distinct numbers are distinct tasks, nothing is recorded under a number not taken yet, every
task but a dispatcher stays within the frame `KeepsDeliveries`, and the heartbeat's timer loop,
the one task that may be cancelled, is none of the tasks of a delivery. A task that has ended
has nothing left to run.

* `Delivery.Dispatched.transfer`: a delivery in progress depends only on the recorded tasks and
  on what its dispatcher and its handler tasks show.
* `Delivery.Deliveries.step`, `Delivery.Deliveries.reach`: every step of the frame keeps the
  invariant, with the dispatcher of a publish added.
-/

namespace ChatGateway

open Scheduling Scheduling.Executor

/-- A list related element by element to another has, for each of its elements, one it is
related to. -/
theorem exists_rel_of_mem_right {α β : Type} {R : α → β → Prop} :
    ∀ {l₁ : List α} {l₂ : List β}, List.Forall₂ R l₁ l₂ → ∀ {b : β}, b ∈ l₂ → ∃ a, R a b
  | _, _, .nil, _, hb => by cases hb
  | _, _, .cons hab h, _, hb => by
    rcases List.mem_cons.1 hb with rfl | hb
    · exact ⟨_, hab⟩
    · exact exists_rel_of_mem_right h hb

/-- Relating two lists element by element, a relation that holds of the elements of the
right-hand list may be weakened there. -/
theorem forall₂_imp_of_mem {α β : Type} {R S : α → β → Prop} {l₁ : List α} {l₂ : List β}
    (h : List.Forall₂ R l₁ l₂) (hRS : ∀ a b, b ∈ l₂ → R a b → S a b) : List.Forall₂ S l₁ l₂ := by
  rw [List.forall₂_iff_zip] at h ⊢
  exact ⟨h.1, fun hab => hRS _ _ (List.of_mem_zip hab).2 (h.2 hab)⟩

/-- **A task that is not cancelled and is not the heartbeat's keeps its view** through a step of
the frame. -/
theorem KeepsDeliveries.look_eq {ex ex' : Exec} (hk : KeepsDeliveries ex ex') {u : Nat}
    {p : Act Unit} {b : Bool} (hv : ex.look u = some ⟨p, b, false⟩)
    (hhb : ex.shared.heartbeatTask ≠ some u) : ex'.look u = some ⟨p, b, false⟩ := by
  obtain ⟨c, hc', himp⟩ := hk.tasks u _ hv
  cases c with
  | false => exact hc'
  | true =>
    rcases himp rfl with h | h
    · cases h
    · exact absurd h hhb

namespace Delivery

/-! ## A delivery in progress -/

/-- **A task that has ended as a success,** with the finished program and not cancelled. -/
def EndedOk (ex : Exec) (u : Nat) : Prop :=
  ∃ k, ex.task? u = some k ∧ k.state = .done true ∧ k.program = .pure () ∧ k.cancelled = false

/-- **A handler task of a delivery of `e`:** it runs handler `h` inside the panic boundary and is
not cancelled, or it has ended as a success. -/
def HandlerTask (ex : Exec) (e : BusEvent) (h : Subscription) (u : Nat) : Prop :=
  (∃ p, Handlers.Reporting h e p ∧ ex.look u = some ⟨p, false, false⟩) ∨ EndedOk ex u

/-- **Where the dispatcher `d` of dispatch `n` is,** given the tasks `us` recorded so far: it
has not run, or it waits for the first poll of the last of them, or it has ended as a success
after a task for every handler, all of them polled. -/
def DispatcherAt (ex : Exec) (n d : Nat) (hs : List Subscription) (e : BusEvent)
    (us : List Nat) : Prop :=
  (us = [] ∧ ex.look d = some ⟨dispatch n hs e, false, false⟩) ∨
  (∃ u, us.getLast? = some u ∧
    ex.look d = some ⟨.started u fun _ => dispatch n (hs.drop us.length) e, false, false⟩) ∨
  (EndedOk ex d ∧ us.length = hs.length ∧ ∀ u ∈ us, ex.hasStarted u = true)

/-- **A delivery in progress:** dispatch number `n` with its dispatcher task `d`, the handlers
`hs` subscribed when the event `e` was published, and the tasks recorded under `n`. -/
structure Dispatched (ex : Exec) (n d : Nat) (hs : List Subscription) (e : BusEvent) : Prop where
  handlers : List.Forall₂ (HandlerTask ex e) (hs.take (recorded n ex.shared).length)
    (recorded n ex.shared)
  nodup : (recorded n ex.shared).Nodup
  polled : ∀ u ∈ (recorded n ex.shared).dropLast, ex.hasStarted u = true
  dispatcher : DispatcherAt ex n d hs e (recorded n ex.shared)
  apart : d ∉ recorded n ex.shared

/-- What an ended task shows. -/
theorem EndedOk.look {ex : Exec} {u : Nat} (h : EndedOk ex u) :
    ex.look u = some ⟨.pure (), true, false⟩ := by
  obtain ⟨k, hk, hs, hp, hc⟩ := h
  simp only [Executor.look, hk, Option.map_some, Task.view, hs, hp, hc, TaskState.isDone]

/-- A task that has ended keeps its record. -/
theorem EndedOk.of_kept {ex ex' : Exec} {u : Nat} (h : EndedOk ex u)
    (hk : TaskKept (ex.task? u) (ex'.task? u)) : EndedOk ex' u := by
  obtain ⟨k, hu, hs, hp, hc⟩ := h
  exact ⟨k, hk.ended k hu (by rw [hs]; rfl), hs, hp, hc⟩

/-- **A task that has been polled stays so,** while its record is kept. -/
theorem hasStarted_of_kept {ex ex' : Exec} {u : Nat} (hk : TaskKept (ex.task? u) (ex'.task? u))
    (hex : ex.look u ≠ none) (hs : ex.hasStarted u = true) : ex'.hasStarted u = true := by
  obtain ⟨k, hu⟩ : ∃ k, ex.task? u = some k := by
    cases h : ex.task? u with
    | none => exact absurd (by simp [Executor.look, h]) hex
    | some k => exact ⟨k, rfl⟩
  obtain ⟨k', hu', hp⟩ := hk.polled k hu
  simp only [hasStarted, hu, hu'] at hs ⊢
  cases hpol : k.polled with
  | true => rw [hp, hpol, Bool.true_or]
  | false =>
    -- Not polled: it has ended, and an ended task keeps its record.
    rw [hpol, Bool.false_or, outcome?_of_task? hu] at hs
    have hdone : k.state.isDone = true := by
      cases hstate : k.state <;> simp_all [TaskState.isDone]
    have hkept := hk.ended k hu hdone
    rw [hu'] at hkept
    cases hkept
    rw [outcome?_of_task? hu', hs, Bool.or_true]

/-- **Every task that had been polled still has** once only task `t` has changed, itself
polled. -/
theorem hasStarted_of_but {ex ex' : Exec} {t u : Nat} (hkept : KeepsEndedBut t ex ex')
    (ht : ex'.hasStarted t = true) (hex : ex.look u ≠ none) (hs : ex.hasStarted u = true) :
    ex'.hasStarted u = true := by
  by_cases hut : u = t
  · rw [hut]
    exact ht
  · exact hasStarted_of_kept (hkept.task u hut) hex hs

/-- A handler task is there. -/
theorem HandlerTask.look_ne_none {ex : Exec} {e : BusEvent} {h : Subscription} {u : Nat}
    (hu : HandlerTask ex e h u) : ex.look u ≠ none := by
  rcases hu with ⟨p, -, hv⟩ | hend
  · rw [hv]
    exact Option.some_ne_none _
  · rw [hend.look]
    exact Option.some_ne_none _

/-- **A handler task stays one** while its view, if it runs, and its record, if it ended, are
kept. -/
theorem HandlerTask.transfer {ex ex' : Exec} {e : BusEvent} {h : Subscription} {u : Nat}
    (hu : HandlerTask ex e h u)
    (hlook : ∀ p, ex.look u = some ⟨p, false, false⟩ → ex'.look u = some ⟨p, false, false⟩)
    (hend : EndedOk ex u → EndedOk ex' u) : HandlerTask ex' e h u := by
  rcases hu with ⟨p, hp, hv⟩ | hended
  · exact .inl ⟨p, hp, hlook _ hv⟩
  · exact .inr (hend hended)

/-- The same for the dispatcher. -/
theorem DispatcherAt.transfer {ex ex' : Exec} {n d : Nat} {hs : List Subscription}
    {e : BusEvent} {us : List Nat} (h : DispatcherAt ex n d hs e us)
    (hlook : ∀ p, ex.look d = some ⟨p, false, false⟩ → ex'.look d = some ⟨p, false, false⟩)
    (hend : EndedOk ex d → EndedOk ex' d)
    (hstarted : ∀ u ∈ us, ex.hasStarted u = true → ex'.hasStarted u = true) :
    DispatcherAt ex' n d hs e us := by
  rcases h with ⟨hus, hv⟩ | ⟨u, hu, hv⟩ | ⟨hd, hlen, hall⟩
  · exact .inl ⟨hus, hlook _ hv⟩
  · exact .inr (.inl ⟨u, hu, hlook _ hv⟩)
  · exact .inr (.inr ⟨hend hd, hlen, fun u hu => hstarted u hu (hall u hu)⟩)

/-- The dispatcher is there. -/
theorem DispatcherAt.look_ne_none {ex : Exec} {n d : Nat} {hs : List Subscription}
    {e : BusEvent} {us : List Nat} (h : DispatcherAt ex n d hs e us) : ex.look d ≠ none := by
  rcases h with ⟨-, hv⟩ | ⟨u, -, hv⟩ | ⟨hd, -, -⟩
  · rw [hv]
    exact Option.some_ne_none _
  · rw [hv]
    exact Option.some_ne_none _
  · rw [hd.look]
    exact Option.some_ne_none _

namespace Dispatched

variable {ex ex' : Exec} {n d : Nat} {hs : List Subscription} {e : BusEvent}

/-- The tasks recorded under a dispatch are there. -/
theorem look_ne_none (h : Dispatched ex n d hs e) {u : Nat} (hu : u ∈ recorded n ex.shared) :
    ex.look u ≠ none := by
  obtain ⟨hd, hhd⟩ := exists_rel_of_mem_right h.handlers hu
  exact hhd.look_ne_none

/-- **A delivery in progress depends only on the recorded tasks** and on what its dispatcher and
its handler tasks show. -/
theorem transfer (h : Dispatched ex n d hs e)
    (hrec : recorded n ex'.shared = recorded n ex.shared)
    (hd : DispatcherAt ex n d hs e (recorded n ex.shared) →
      DispatcherAt ex' n d hs e (recorded n ex.shared))
    (hu : ∀ h u, u ∈ recorded n ex.shared → HandlerTask ex e h u → HandlerTask ex' e h u)
    (hstarted : ∀ u ∈ recorded n ex.shared, ex.hasStarted u = true → ex'.hasStarted u = true) :
    Dispatched ex' n d hs e where
  handlers := by
    rw [hrec]
    exact forall₂_imp_of_mem h.handlers fun hd u hu' => hu hd u hu'
  nodup := by
    rw [hrec]
    exact h.nodup
  polled u hu' := by
    rw [hrec] at hu'
    exact hstarted u (List.dropLast_subset _ hu') (h.polled u hu')
  dispatcher := by
    rw [hrec]
    exact hd h.dispatcher
  apart := by
    rw [hrec]
    exact h.apart

end Dispatched

/-! ## The invariant -/

/-- **The plan of the deliveries:** the dispatcher task, the handlers and the event of each
dispatch number. -/
abbrev Plan := Nat → Nat × List Subscription × BusEvent

/-- **The invariant of the deliveries** under plan `D`. -/
structure Deliveries (ex : Exec) (D : Plan) : Prop where
  launch : ex.launch = Job.program
  size : ex.tasks.size ≠ 0
  dispatched : ∀ n < ex.shared.nextDispatch, Dispatched ex n (D n).1 (D n).2.1 (D n).2.2
  distinct : ∀ n < ex.shared.nextDispatch, ∀ m < ex.shared.nextDispatch, (D n).1 = (D m).1 → n = m
  apart : ∀ n < ex.shared.nextDispatch, ∀ m < ex.shared.nextDispatch,
    (D n).1 ∉ recorded m ex.shared
  unopened : ∀ n, ex.shared.nextDispatch ≤ n → recorded n ex.shared = []
  within : ∀ t v, ex.look t = some v →
    (∃ n < ex.shared.nextDispatch, (D n).1 = t) ∨ Program.Within KeepsDeliveries t true v.program
  heartbeat : ∀ t, ex.shared.heartbeatTask = some t → (t = 0 ∨ ex.look t ≠ none) ∧
    ∀ n < ex.shared.nextDispatch, (D n).1 ≠ t ∧ t ∉ recorded n ex.shared
  finished : ∀ t k, ex.task? t = some k → k.state.isDone = true → k.program = .pure ()

/-- **Through steps of the frame a task keeps its program** and whether it ended. -/
theorem look_of_reach {ex ex' : Exec} (hr : Relation.ReflTransGen KeepsDeliveries ex ex')
    {u : Nat} {v : TaskView Job Deployment} (hv : ex.look u = some v) :
    ∃ c, ex'.look u = some { v with cancelled := c } := by
  induction hr with
  | refl => exact ⟨v.cancelled, hv⟩
  | tail _ hstep ih =>
    obtain ⟨c, hc⟩ := ih
    obtain ⟨c', hc', -⟩ := hstep.tasks u _ hc
    exact ⟨c', hc'⟩

/-- A task that is there stays there through steps of the frame. -/
theorem look_ne_none_of_reach {ex ex' : Exec} (hr : Relation.ReflTransGen KeepsDeliveries ex ex')
    {u : Nat} {v : TaskView Job Deployment} (hv : ex.look u = some v) : ex'.look u ≠ none := by
  obtain ⟨c, hc⟩ := look_of_reach hr hv
  rw [hc]
  exact Option.some_ne_none _

namespace Deliveries

variable {ex ex' : Exec} {D : Plan}

/-- **A delivery in progress stays one through a step of the frame:** nothing it depends on
changes. -/
theorem dispatched_step (h : Deliveries ex D) (hk : KeepsDeliveries ex ex') {n : Nat}
    (hn : n < ex.shared.nextDispatch) : Dispatched ex' n (D n).1 (D n).2.1 (D n).2.2 := by
  have hdn := h.dispatched n hn
  -- None of the tasks of the delivery is the heartbeat's.
  have hhb : ∀ u, u = (D n).1 ∨ u ∈ recorded n ex.shared → ex.shared.heartbeatTask ≠ some u := by
    rintro u hu hhb
    obtain ⟨-, hnot⟩ := h.heartbeat u hhb
    rcases hu with rfl | hu
    · exact (hnot n hn).1 rfl
    · exact (hnot n hn).2 hu
  refine hdn.transfer ?rec ?disp ?handler ?started
  case rec =>
    unfold recorded
    rw [hk.dispatches]
  case disp =>
    intro hat
    exact hat.transfer (fun p hv => hk.look_eq hv (hhb _ (.inl rfl)))
      (fun hend => hend.of_kept (hk.ended.task _))
      (fun u hu hs => hasStarted_of_kept (hk.ended.task u) (hdn.look_ne_none hu) hs)
  case handler =>
    intro hd u hu hhd
    exact hhd.transfer (fun p hv => hk.look_eq hv (hhb u (.inr hu)))
      (fun hend => hend.of_kept (hk.ended.task u))
  case started =>
    intro u hu hs
    exact hasStarted_of_kept (hk.ended.task u) (hdn.look_ne_none hu) hs

/-- Every task of a delivery is there. -/
theorem look_tracked (h : Deliveries ex D) {n : Nat} (hn : n < ex.shared.nextDispatch) {u : Nat}
    (hu : u = (D n).1 ∨ u ∈ recorded n ex.shared) : ex.look u ≠ none := by
  rcases hu with rfl | hu
  · exact (h.dispatched n hn).dispatcher.look_ne_none
  · exact (h.dispatched n hn).look_ne_none hu

/-- **A step of the frame that takes no dispatch number** keeps the invariant under the same
plan. -/
theorem step_same (h : Deliveries ex D) (hk : KeepsDeliveries ex ex')
    (hnext : ex'.shared.nextDispatch = ex.shared.nextDispatch) : Deliveries ex' D where
  launch := hk.launch.trans h.launch
  size := Nat.pos_iff_ne_zero.mp (Nat.lt_of_lt_of_le (Nat.pos_of_ne_zero h.size) hk.ended.size)
  dispatched n hn := h.dispatched_step hk (hnext ▸ hn)
  distinct n hn m hm := h.distinct n (hnext ▸ hn) m (hnext ▸ hm)
  apart n hn m hm := by
    unfold recorded
    rw [hk.dispatches]
    exact h.apart n (hnext ▸ hn) m (hnext ▸ hm)
  unopened n hn := by
    unfold recorded
    rw [hk.dispatches]
    exact h.unopened n (hnext ▸ hn)
  within t v hv := by
    rw [hnext]
    cases hold : ex.look t with
    | some v₀ =>
      -- An old task keeps its program.
      obtain ⟨c, hc, -⟩ := hk.tasks t v₀ hold
      rw [hv] at hc
      cases hc
      exact h.within t v₀ hold
    | none =>
      -- A new task runs a job that is not a dispatcher.
      obtain ⟨j, c, rfl, hj⟩ := hk.fresh hnext t v hold hv
      refine .inr ?_
      rw [h.launch]
      exact KeepsDeliveries.job_within t j hj
  heartbeat t ht := by
    rw [hnext]
    rcases hk.heartbeat with hsame | hnone | ⟨t', hnew, hfresh, hthere, -⟩
    · rw [hsame] at ht
      obtain ⟨hex, hnot⟩ := h.heartbeat t ht
      refine ⟨?_, fun n hn => ?_⟩
      · rcases hex with hzero | hex
        · exact .inl hzero
        · refine .inr ?_
          cases hv : ex.look t with
          | none => exact absurd hv hex
          | some v =>
            obtain ⟨c, hc, -⟩ := hk.tasks t v hv
            rw [hc]
            exact Option.some_ne_none _
      · have hrec : recorded n ex'.shared = recorded n ex.shared := by
          unfold recorded
          rw [hk.dispatches]
        rw [hrec]
        exact hnot n hn
    · rw [hnone] at ht
      cases ht
    · -- A new heartbeat task was not there before, unlike every task of a delivery.
      rw [hnew] at ht
      cases ht
      refine ⟨hthere, fun n hn => ⟨fun hd => ?_, fun hu => ?_⟩⟩
      · exact h.look_tracked hn (.inl hd.symm) hfresh
      · have hrec : recorded n ex'.shared = recorded n ex.shared := by
          unfold recorded
          rw [hk.dispatches]
        rw [hrec] at hu
        exact h.look_tracked hn (.inr hu) hfresh
  finished t k ht hd := h.finished t k ((hk.ended.task t).none_new k ht hd) hd

/-- The plan once dispatch number `n` has its dispatcher. -/
theorem update_of_lt {D : Plan} {n m : Nat} (hm : m < n) (x : Nat × List Subscription × BusEvent) :
    Function.update D n x m = D m :=
  Function.update_of_ne (Nat.ne_of_lt hm) x D

/-- **A publish keeps the invariant,** with the new dispatcher added to the plan. -/
theorem step_opened (h : Deliveries ex D) (hk : KeepsDeliveries ex ex')
    (hnext : ex'.shared.nextDispatch = ex.shared.nextDispatch + 1) {hs : List Subscription}
    {e : BusEvent}
    (hnew : ex.tasks.size ≠ 0 → ex'.look ex.tasks.size =
      some ⟨ex.launch (.dispatch ex.shared.nextDispatch hs e), false, false⟩)
    (honly : ∀ t v, ex.look t = none → ex'.look t = some v → t = ex.tasks.size) :
    Deliveries ex' (Function.update D ex.shared.nextDispatch (ex.tasks.size, hs, e)) := by
  have hrec : ∀ n, recorded n ex'.shared = recorded n ex.shared := by
    intro n
    unfold recorded
    rw [hk.dispatches]
  -- The new dispatcher takes the first slot past the others, where no task of a delivery is.
  have hfree : ∀ n < ex.shared.nextDispatch, (D n).1 ≠ ex.tasks.size := by
    intro n hn hd
    exact h.look_tracked hn (.inl hd.symm) (KeepsDeliveries.look_size ex)
  refine ⟨hk.launch.trans h.launch,
    Nat.pos_iff_ne_zero.mp (Nat.lt_of_lt_of_le (Nat.pos_of_ne_zero h.size) hk.ended.size),
    ?dispatched, ?distinct, ?apart, ?unopened, ?within, ?heartbeat,
    fun t k ht hd => h.finished t k ((hk.ended.task t).none_new k ht hd) hd⟩
  case dispatched =>
    intro n hn
    rw [hnext] at hn
    rcases Nat.lt_succ_iff_lt_or_eq.mp hn with hn | rfl
    · rw [update_of_lt hn]
      exact h.dispatched_step hk hn
    · rw [Function.update_self]
      have hnil : recorded ex.shared.nextDispatch ex'.shared = [] := by
        rw [hrec]
        exact h.unopened _ (Nat.le_refl _)
      refine ⟨?_, ?_, ?_, ?_, ?_⟩
      · rw [hnil]
        exact .nil
      · rw [hnil]
        exact List.nodup_nil
      · intro u hu
        rw [hnil] at hu
        cases hu
      · refine .inl ⟨hnil, ?_⟩
        rw [hnew h.size, h.launch]
        rfl
      · rw [hnil]
        exact List.not_mem_nil
  case distinct =>
    intro n hn m hm hnm
    rw [hnext] at hn hm
    rcases Nat.lt_succ_iff_lt_or_eq.mp hn with hn | rfl <;>
      rcases Nat.lt_succ_iff_lt_or_eq.mp hm with hm | rfl
    · rw [update_of_lt hn, update_of_lt hm] at hnm
      exact h.distinct n hn m hm hnm
    · rw [update_of_lt hn, Function.update_self] at hnm
      exact absurd hnm (hfree n hn)
    · rw [update_of_lt hm, Function.update_self] at hnm
      exact absurd hnm.symm (hfree m hm)
    · rfl
  case apart =>
    intro n hn m hm
    rw [hnext] at hn hm
    rw [hrec]
    rcases Nat.lt_succ_iff_lt_or_eq.mp hm with hm | rfl
    · rcases Nat.lt_succ_iff_lt_or_eq.mp hn with hn | rfl
      · rw [update_of_lt hn]
        exact h.apart n hn m hm
      · -- The new dispatcher was not there, unlike every recorded task.
        rw [Function.update_self]
        intro hu
        exact (h.dispatched m hm).look_ne_none hu (KeepsDeliveries.look_size ex)
    · rw [h.unopened _ (Nat.le_refl _)]
      exact List.not_mem_nil
  case unopened =>
    intro n hn
    rw [hrec]
    exact h.unopened n (by omega)
  case within =>
    intro t v hv
    cases hold : ex.look t with
    | some v₀ =>
      -- An old task keeps its program, and a dispatcher stays one.
      obtain ⟨c, hc, -⟩ := hk.tasks t v₀ hold
      rw [hv] at hc
      cases hc
      rcases h.within t v₀ hold with ⟨n, hn, hd⟩ | hw
      · refine .inl ⟨n, by omega, ?_⟩
        rw [update_of_lt hn]
        exact hd
      · exact .inr hw
    | none =>
      -- The one new task is the new dispatcher.
      refine .inl ⟨ex.shared.nextDispatch, by omega, ?_⟩
      rw [Function.update_self]
      exact (honly t v hold hv).symm
  case heartbeat =>
    intro t ht
    rcases hk.heartbeat with hsame | hnone | ⟨t', -, -, -, hsame⟩
    · rw [hsame] at ht
      obtain ⟨hex, hnot⟩ := h.heartbeat t ht
      -- The heartbeat task is the main program's slot or an old task, not the new dispatcher.
      have hne : t ≠ ex.tasks.size := by
        rintro rfl
        rcases hex with hzero | hex
        · exact h.size hzero
        · exact hex (KeepsDeliveries.look_size ex)
      refine ⟨?_, fun n hn => ?_⟩
      · rcases hex with hzero | hex
        · exact .inl hzero
        · refine .inr ?_
          cases hv : ex.look t with
          | none => exact absurd hv hex
          | some v =>
            obtain ⟨c, hc, -⟩ := hk.tasks t v hv
            rw [hc]
            exact Option.some_ne_none _
      · rw [hnext] at hn
        rw [hrec]
        rcases Nat.lt_succ_iff_lt_or_eq.mp hn with hn | rfl
        · rw [update_of_lt hn]
          exact hnot n hn
        · rw [Function.update_self, h.unopened _ (Nat.le_refl _)]
          exact ⟨fun hd => hne hd.symm, List.not_mem_nil⟩
    · rw [hnone] at ht
      cases ht
    · rw [hnext] at hsame
      omega

/-- **Every step of the frame keeps the invariant,** under a plan that keeps every dispatch
number taken before. -/
theorem step (h : Deliveries ex D) (hk : KeepsDeliveries ex ex') :
    ∃ D', Deliveries ex' D' ∧ ex.shared.nextDispatch ≤ ex'.shared.nextDispatch ∧
      (∀ n < ex.shared.nextDispatch, D' n = D n) ∧
      ∀ n, ex.shared.nextDispatch ≤ n → n < ex'.shared.nextDispatch → ex.look (D' n).1 = none := by
  rcases hk.opened with hsame | ⟨hnext, hs, e, hnew, honly⟩
  · exact ⟨D, h.step_same hk hsame, Nat.le_of_eq hsame.symm, fun _ _ => rfl,
      fun n hn hn' => absurd (hsame ▸ hn') (Nat.not_lt.mpr hn)⟩
  · refine ⟨_, h.step_opened hk hnext hnew honly, by omega, fun n hn => update_of_lt hn _,
      fun n hn hn' => ?_⟩
    -- The one number taken is the next one, and its dispatcher takes an empty slot.
    have hn_eq : n = ex.shared.nextDispatch := by omega
    subst hn_eq
    rw [Function.update_self]
    exact KeepsDeliveries.look_size ex

/-- **Along a run of frame steps** the invariant holds, under a plan that keeps every dispatch
number taken before. -/
theorem reach (h : Deliveries ex D) (hr : Relation.ReflTransGen KeepsDeliveries ex ex') :
    ∃ D', Deliveries ex' D' ∧ ex.shared.nextDispatch ≤ ex'.shared.nextDispatch ∧
      (∀ n < ex.shared.nextDispatch, D' n = D n) ∧
      ∀ n, ex.shared.nextDispatch ≤ n → n < ex'.shared.nextDispatch → ex.look (D' n).1 = none := by
  induction hr with
  | refl => exact ⟨D, h, Nat.le_refl _, fun _ _ => rfl, fun n hn hn' => absurd hn' (Nat.not_lt.mpr hn)⟩
  | @tail ex₁ _ hr₁ hstep ih =>
    obtain ⟨D₁, h₁, hle₁, hD₁, hnew₁⟩ := ih
    obtain ⟨D₂, h₂, hle₂, hD₂, hnew₂⟩ := h₁.step hstep
    refine ⟨D₂, h₂, Nat.le_trans hle₁ hle₂, fun n hn => ?_, fun n hn hn' => ?_⟩
    · rw [hD₂ n (Nat.lt_of_lt_of_le hn hle₁), hD₁ n hn]
    · by_cases hmid : n < ex₁.shared.nextDispatch
      · -- Taken in the first part of the run.
        rw [hD₂ n hmid]
        exact hnew₁ n hn hmid
      · -- Taken in the last step: its dispatcher was not there before it, nor at the start.
        have hnone := hnew₂ n (Nat.not_lt.mp hmid) hn'
        cases hold : ex.look (D₂ n).1 with
        | none => rfl
        | some v => exact absurd hnone (look_ne_none_of_reach hr₁ hold)

end Deliveries

end Delivery

end ChatGateway
