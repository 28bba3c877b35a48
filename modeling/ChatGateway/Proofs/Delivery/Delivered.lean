import ChatGateway.Proofs.Delivery.Runs
import ChatGateway.Proofs.Gateway.Calls

/-! # Every publish is delivered to the handlers of its moment

The invariant of the deliveries holds along every run from a fresh deployment
(`Delivery.Deliveries.start`, `Delivery.Deliveries.reaches`), whatever the order of the
executor's moves and whatever the handlers do, and no dispatch number's dispatcher, handlers or
event ever change once the number is taken. From it:

* `Delivery.Deliveries.published`: a publish on an open bus takes the next dispatch number for the
  handlers subscribed to the event's topic at that moment;
* `Delivery.Deliveries.outcome?_dispatcher`: a dispatcher has not ended, or it has ended as a
  success after starting a task for every handler;
* `Delivery.Deliveries.poll_settled_waits`: waiting for a delivery passes on only once every
  handler's task has ended; until then its poll changes nothing.

`Delivery.publish_delivers` puts these together with the handler's panic boundary.
-/

namespace ChatGateway

open Scheduling Scheduling.Executor

namespace Delivery

namespace Deliveries

variable {ex : Exec} {D : Plan}

/-! ## Along every run -/

/-- **A change the invariant does not see** keeps it, under the same plan. -/
theorem quiet (h : Deliveries ex D) {ex' : Exec} (hq : Quiet ex ex') (hended : KeepsEnded ex ex') :
    Deliveries ex' D :=
  h.step_same (KeepsDeliveries.of_same (congrArg Seen.look hq) (congrArg Seen.launch hq)
    (congrArg Seen.shared hq) hended) (congrArg Deployment.nextDispatch (congrArg Seen.shared hq))

/-- **Every move of the executor keeps the invariant,** under a plan that keeps every dispatch
number taken before, while the main program stays within the frame. -/
theorem move {α : Type} {c c' : Exec × Act α} (h : Deliveries c.1 D)
    (hmain : Program.Within KeepsDeliveries 0 true c.2) (hm : Move c c') :
    ∃ D', Deliveries c'.1 D' ∧ c.1.shared.nextDispatch ≤ c'.1.shared.nextDispatch ∧
      (∀ n < c.1.shared.nextDispatch, D' n = D n) ∧ Program.Within KeepsDeliveries 0 true c'.2 := by
  cases hm with
  | main =>
    rename_i ex main _
    -- The main program's poll is a run of steps of the frame; waking and pruning are
    -- housekeeping.
    obtain ⟨hreach, hwithin⟩ := hmain.poll_spec { ex with mainWoken := false }
    have hwake : KeepsDeliveries ex { ex with mainWoken := false } :=
      KeepsDeliveries.of_same rfl rfl rfl (.of_tasks rfl)
    have hprune : KeepsDeliveries (poll 0 { ex with mainWoken := false } main).1
        (ex.pollMain main).1 :=
      KeepsDeliveries.of_same rfl rfl rfl (KeepsEnded.pruneTimers _ _ _)
    obtain ⟨D', h', hle, hD', -⟩ := h.reach ((Relation.ReflTransGen.head hwake hreach).tail hprune)
    exact ⟨D', h', hle, hD', hwithin⟩
  | task =>
    rename_i ex main t _
    -- Taking the task off the queue is housekeeping.
    have hq : Deliveries { ex with queue := ex.queue.erase t } D :=
      h.quiet rfl (.of_tasks rfl)
    obtain ⟨D', h', hle, hD'⟩ := hq.runTask (viewOf main) t
    exact ⟨D', h', hle, hD', hmain⟩
  | park hp =>
    exact ⟨D, h.quiet (park_quiet hp) (KeepsEnded.park hp),
      Nat.le_of_eq (congrArg Deployment.nextDispatch (congrArg Seen.shared (park_quiet hp))).symm,
      fun _ _ => rfl, hmain⟩
  | yield =>
    rename_i ex main
    exact ⟨D, h.quiet (parkYield_quiet ex) (KeepsEnded.parkYield ex),
      Nat.le_of_eq (congrArg Deployment.nextDispatch (congrArg Seen.shared (parkYield_quiet ex))).symm,
      fun _ _ => rfl, hmain⟩

/-- **The invariant holds along every run,** and no dispatch number taken changes its plan. -/
theorem reaches {α : Type} {c c' : Exec × Act α} (h : Deliveries c.1 D)
    (hmain : Program.Within KeepsDeliveries 0 true c.2) (hr : Reaches c c') :
    ∃ D', Deliveries c'.1 D' ∧ c.1.shared.nextDispatch ≤ c'.1.shared.nextDispatch ∧
      (∀ n < c.1.shared.nextDispatch, D' n = D n) ∧ Program.Within KeepsDeliveries 0 true c'.2 := by
  induction hr with
  | refl => exact ⟨D, h, Nat.le_refl _, fun _ _ => rfl, hmain⟩
  | tail _ hm ih =>
    obtain ⟨D₁, h₁, hle₁, hD₁, hw₁⟩ := ih
    obtain ⟨D₂, h₂, hle₂, hD₂, hw₂⟩ := h₁.move hw₁ hm
    refine ⟨D₂, h₂, Nat.le_trans hle₁ hle₂, fun n hn => ?_, hw₂⟩
    rw [hD₂ n (Nat.lt_of_lt_of_le hn hle₁), hD₁ n hn]

/-- **A fresh deployment** that has taken no dispatch number and remembers no heartbeat task
starts the invariant, under any plan. -/
theorem start (d : Deployment) (hd : d.dispatches = []) (hn : d.nextDispatch = 0)
    (hhb : d.heartbeatTask = none) (D : Plan) : Deliveries (Executor.start Job.program d) D where
  launch := rfl
  size := by simp [Executor.start]
  dispatched n hn' := by
    change n < d.nextDispatch at hn'
    omega
  distinct n hn' := by
    change n < d.nextDispatch at hn'
    omega
  apart n hn' := by
    change n < d.nextDispatch at hn'
    omega
  unopened n _ := by
    change recorded n d = []
    simp [recorded, hd]
  within t v hv := by
    rw [ChatLocks.look_start] at hv
    cases hv
  heartbeat t ht := by
    change d.heartbeatTask = some t at ht
    rw [hhb] at ht
    cases ht
  finished t k hk _ := by
    have hnone := ChatLocks.look_start d t
    simp [look, hk] at hnone

/-! ## A publish -/

/-- **A publish on an open bus** takes the next dispatch number for the handlers subscribed to
the event's topic at that moment, with its dispatcher in the first free slot. -/
theorem published (h : Deliveries ex D) (e : BusEvent) :
    Deliveries (Delivery.published ex e) (Function.update D ex.shared.nextDispatch
      (ex.tasks.size, ex.shared.bus.handlersOf e.topic, e)) := by
  refine h.step_opened (KeepsDeliveries.published ex e) rfl (fun hsize => ?_) fun t v hold hv => ?_
  · unfold Delivery.published
    rw [look_spawnTask, if_pos ⟨rfl, hsize⟩]
  · unfold Delivery.published at hv
    rw [look_spawnTask] at hv
    split at hv
    · rename_i ht
      exact ht.1
    · change ex.look t = some v at hv
      rw [hold] at hv
      cases hv

/-! ## Waiting for a delivery -/

/-- A task whose view shows it has not ended has no outcome yet. -/
theorem outcome?_of_look {u : Nat} {p : Act Unit} {c : Bool}
    (hv : ex.look u = some ⟨p, false, c⟩) : ex.outcome? u = none := by
  obtain ⟨k, hk, hview⟩ : ∃ k, ex.task? u = some k ∧ k.view = ⟨p, false, c⟩ := by
    simp only [look, Option.map_eq_some_iff] at hv
    exact hv
  have hdone : k.state.isDone = false := congrArg TaskView.done hview
  rw [outcome?_of_task? hk]
  cases hs : k.state <;> simp_all [TaskState.isDone]

/-- **A dispatcher has not ended, or it has ended as a success** after starting a task for every
handler; it never ends as a failure. -/
theorem outcome?_dispatcher (h : Deliveries ex D) {n : Nat} (hn : n < ex.shared.nextDispatch) :
    ex.outcome? (D n).1 = none ∨
      (ex.outcome? (D n).1 = some true ∧ (recorded n ex.shared).length = (D n).2.1.length) := by
  rcases (h.dispatched n hn).dispatcher with ⟨-, hv⟩ | ⟨u, -, hv⟩ | ⟨⟨k, hk, hs, -, -⟩, hlen, -⟩
  · exact .inl (outcome?_of_look hv)
  · exact .inl (outcome?_of_look hv)
  · refine .inr ⟨?_, hlen⟩
    rw [outcome?_of_task? hk, hs]

/-- **Waiting for a delivery passes on only once every handler's task has ended.** While the
dispatcher runs, the poll changes nothing and waits. Once it has ended, a task having been
started for every handler, the wait goes on with those tasks within the same poll and passes on
only when all of them have ended; otherwise it waits for the first that has not. -/
theorem poll_settled_waits (h : Deliveries ex D) {n : Nat} (hn : n < ex.shared.nextDispatch)
    (me c : Nat) {α : Type} (k : Unit → Act α) :
    poll me ex ((settled ⟨c, some ((D n).1, n)⟩).bind k) =
        (ex, (settled ⟨c, some ((D n).1, n)⟩).bind k) ∨
      ((recorded n ex.shared).length = (D n).2.1.length ∧
        poll me ex ((settled ⟨c, some ((D n).1, n)⟩).bind k) =
          if (recorded n ex.shared).all fun u => (ex.outcome? u).isSome then poll me ex (k ())
          else (ex, (awaitAll ((recorded n ex.shared).dropWhile
            fun u => (ex.outcome? u).isSome)).bind k)) := by
  rw [poll_settled]
  rcases h.outcome?_dispatcher hn with hnone | ⟨hok, hlen⟩
  · rw [hnone]
    exact .inl rfl
  · rw [hok]
    exact .inr ⟨hlen, poll_awaitAll me ex _ k⟩

end Deliveries

end Delivery

/-! ## The handler's panic boundary -/

namespace Handlers

/-- **A handler that panics** is reported as a panic, and its task ends. -/
theorem poll_runFrom_panic {t : Nat} {ex : Exec} (h : Subscription) (e : BusEvent) (start : Nat)
    {inner : Act (Except String Unit)} {m : String} (hm : (poll t ex inner).2 = .panic m) :
    poll t ex (runFrom h e start inner) =
      ({ (poll t ex inner).1 with
          shared := report h e (.error m) (Duration.ofMillis ((poll t ex inner).1.now - start))
            (poll t ex inner).1.shared }, .pure ()) := by
  rw [poll_runFrom]
  generalize poll t ex inner = r at hm ⊢
  obtain ⟨ex', q⟩ := r
  dsimp only at hm
  subst hm
  rfl

end Handlers

namespace Delivery

/-- **Publishing delivers an event to the handlers of its moment, each inside its own panic
boundary, and waiting for the delivery waits for all of them.**

* A publish ends within its poll, without waiting for any handler. On a closed bus it starts
  nothing and counts no handler; on an open one it starts the dispatcher of the handlers
  subscribed to the event's topic now, counts them, and takes the next dispatch number for them.
* From a fresh deployment, whatever the order of the executor's moves and whatever the handlers
  do, every state shows a delivery in progress for every dispatch number taken
  (`Delivery.Dispatched`: one task for each handler, in subscription order, each started only
  once the one before has been polled, none cancelled), and every later step keeps the
  dispatcher, handlers and event of every number taken, so later subscriptions change nothing:
  the rest of a poll, the end of the run of a task that is no dispatcher, and every move.
* Waiting for a delivery passes on only once a task has been started for every handler and all
  of them have ended.
* A handler task reads the clock at its first poll and reports its handler's outcome in the poll
  in which the handler returns, fails or panics, and then ends: one call on the subscription's
  counters with the time since that first poll, a failure unless it succeeded, and one incident
  for a failure or a panic. -/
theorem publish_delivers :
    (∀ (me : Nat) (ex : Exec) (e : BusEvent), poll me ex (publish e) =
      if ex.shared.bus.closed then (ex, .pure {})
      else (published ex e, .pure ⟨(ex.shared.bus.handlersOf e.topic).length,
        some (ex.tasks.size, ex.shared.nextDispatch)⟩)) ∧
    (∀ (ex : Exec) (D : Plan) (e : BusEvent), Deliveries ex D →
      Deliveries (published ex e) (Function.update D ex.shared.nextDispatch
        (ex.tasks.size, ex.shared.bus.handlersOf e.topic, e))) ∧
    (∀ (ex ex' : Exec) (D : Plan), Deliveries ex D → Relation.ReflTransGen KeepsDeliveries ex ex' →
      ∃ D', Deliveries ex' D' ∧ ∀ n < ex.shared.nextDispatch, D' n = D n) ∧
    (∀ (ex : Exec) (main : MainView) (t : Nat) (k : Task Job Deployment), ex.task? t = some k →
      k.cancelled = false → k.state.isDone = false →
      Program.Within KeepsDeliveries t true k.program → ∀ D₁ : Plan,
      Deliveries (poll t (ex.markRunning t) k.program).1 D₁ →
      (∀ n < (poll t (ex.markRunning t) k.program).1.shared.nextDispatch, (D₁ n).1 ≠ t) →
      Deliveries (ex.runTask main t) D₁) ∧
    (∀ d : Deployment, d.dispatches = [] → d.nextDispatch = 0 → d.heartbeatTask = none →
      ∀ D : Plan, Deliveries (Executor.start Job.program d) D) ∧
    (∀ {α : Type} (c c' : Exec × Act α) (D : Plan), Deliveries c.1 D →
      Program.Within KeepsDeliveries 0 true c.2 → Reaches c c' →
      ∃ D', Deliveries c'.1 D' ∧ ∀ n < c.1.shared.nextDispatch, D' n = D n) ∧
    (∀ (ex : Exec) (D : Plan) (n : Nat), Deliveries ex D → n < ex.shared.nextDispatch →
      ∀ (me c : Nat) {α : Type} (k : Unit → Act α),
        poll me ex ((settled ⟨c, some ((D n).1, n)⟩).bind k) =
            (ex, (settled ⟨c, some ((D n).1, n)⟩).bind k) ∨
          ((recorded n ex.shared).length = (D n).2.1.length ∧
            poll me ex ((settled ⟨c, some ((D n).1, n)⟩).bind k) =
              if (recorded n ex.shared).all fun u => (ex.outcome? u).isSome then poll me ex (k ())
              else (ex, (awaitAll ((recorded n ex.shared).dropWhile
                fun u => (ex.outcome? u).isSome)).bind k))) ∧
    (∀ (me : Nat) (ex : Exec) (ts : List Nat) {α : Type} (k : Unit → Act α),
      poll me ex ((awaitAll ts).bind k) =
        if ts.all fun t => (ex.outcome? t).isSome then poll me ex (k ())
        else (ex, (awaitAll (ts.dropWhile fun t => (ex.outcome? t).isSome)).bind k)) ∧
    (∀ (t : Nat) (ex : Exec) (h : Subscription) (e : BusEvent),
      poll t ex (Handlers.run h e) =
        poll t ex (Handlers.runFrom h e ex.now (Handlers.handle h.subscriber e))) ∧
    (∀ (t : Nat) (ex : Exec) (h : Subscription) (e : BusEvent) (start : Nat)
      (inner : Act (Except String Unit)),
      ((poll t ex inner).2.isDone = false →
        poll t ex (Handlers.runFrom h e start inner) =
          ((poll t ex inner).1, Handlers.runFrom h e start (poll t ex inner).2)) ∧
      (∀ r, (poll t ex inner).2 = .pure r →
        poll t ex (Handlers.runFrom h e start inner) =
          ({ (poll t ex inner).1 with
            shared := Handlers.report h e (.ok r) (Duration.ofMillis ((poll t ex inner).1.now - start))
              (poll t ex inner).1.shared }, .pure ())) ∧
      (∀ m, (poll t ex inner).2 = .panic m →
        poll t ex (Handlers.runFrom h e start inner) =
          ({ (poll t ex inner).1 with
            shared := Handlers.report h e (.error m)
              (Duration.ofMillis ((poll t ex inner).1.now - start)) (poll t ex inner).1.shared },
            .pure ()))) ∧
    (∀ (h : Subscription) (e : BusEvent) (r : Except String (Except String Unit))
      (latency : Duration) (d : Deployment),
      (Handlers.report h e r latency d).bus.stats? h.topic h.id =
        (d.bus.stats? h.topic h.id).map (HandlerStats.count (Handlers.succeeded r) latency) ∧
      (Handlers.report h e r latency d).incidents =
        d.incidents ++ if d.recording then Handlers.incidentsOf h e r else []) := by
  refine ⟨poll_publish, fun ex D e h => h.published e, fun ex ex' D h hr => ?_,
    fun ex main t k hk hc hlive hwithin D₁ h₁ hnd =>
      Deliveries.runOther_of_polled main hk hc hlive hwithin h₁ hnd, Deliveries.start,
    fun c c' D h hmain hr => ?_, fun ex D n h hn me c _ k => h.poll_settled_waits hn me c k,
    fun me ex ts _ k => poll_awaitAll me ex ts k, Handlers.poll_run,
    fun t ex h e start inner => ⟨Handlers.poll_runFrom_blocked h e start,
      fun r => Handlers.poll_runFrom_pure h e start, fun m => Handlers.poll_runFrom_panic h e start⟩,
    fun h e r latency d => ⟨Handlers.report_stats h e r latency d,
      Handlers.report_incidents h e r latency d⟩⟩
  · obtain ⟨D', h', -, hD', -⟩ := h.reach hr
    exact ⟨D', h', hD'⟩
  · obtain ⟨D', h', -, hD', -⟩ := h.reaches hmain hr
    exact ⟨D', h', hD'⟩

end Delivery

end ChatGateway
