import ChatGateway.Proofs.ChatLocks.Shapes

/-! # One poll of each part of a delivery

A publish hands its event to a dispatcher task (`Delivery.poll_publish`). The parts that follow
each end or block within one poll as their poll equations say:

* the dispatcher (`Delivery.poll_dispatch_cons`) starts the next handler's task, records it under
  the dispatch number and waits for that task's first poll; with no handler left it ends;
* a handler task (`Handlers.poll_runFrom`) reports its handler's outcome in the poll in which the
  handler ends, with a value, an error or a panic; `Handlers.report_stats` and
  `Handlers.report_incidents` say what the report writes: one call on the subscription's
  counters with the time since the task's first poll, and one failure and one incident when the
  handler failed or panicked;
* waiting for the delivery (`Delivery.poll_settled`, `Delivery.poll_awaitAll`) passes on only
  once the dispatcher has ended and then every task recorded under its number has ended.
-/

namespace ChatGateway

open Scheduling Scheduling.Executor

/-! ## What a handler's report writes -/

namespace HandlerStats

/-- Counts one call that took `latency`, as a success or as a failure. -/
def count (ok : Bool) (latency : Duration) (s : HandlerStats) : HandlerStats :=
  if ok then s.recordSuccess latency else s.recordFailure latency

@[simp] theorem count_calls (ok : Bool) (latency : Duration) (s : HandlerStats) :
    (s.count ok latency).calls = s.calls + 1 := by
  unfold count
  split <;> rfl

@[simp] theorem count_failures (ok : Bool) (latency : Duration) (s : HandlerStats) :
    (s.count ok latency).failures = if ok then s.failures else s.failures + 1 := by
  unfold count
  split <;> rfl

end HandlerStats

/-- **Counting a call of a subscription** counts it on that subscription's statistics. -/
theorem Bus.stats?_recordCall (b : Bus) (topic : Topic) (id : Nat) (ok : Bool) (latency : Duration) :
    (b.recordCall id ok latency).stats? topic id =
      (b.stats? topic id).map (HandlerStats.count ok latency) := by
  unfold stats? recordCall
  -- Counting keeps every subscription's topic and id, so the same subscription is found.
  have hfind : (fun s : Subscription => s.topic == topic && s.id == id) ∘
      (fun s => if s.id == id then
        { s with stats := if ok then s.stats.recordSuccess latency else s.stats.recordFailure latency }
        else s) = fun s => s.topic == topic && s.id == id := by
    funext s
    simp only [Function.comp_apply]
    split <;> rfl
  simp only [List.find?_map, hfind, Option.map_map]
  cases hs : b.subscriptions.find? (fun s => s.topic == topic && s.id == id) with
  | none => rfl
  | some s =>
    have hid : (s.id == id) = true := by
      have := List.find?_some hs
      simp only [Bool.and_eq_true] at this
      exact this.2
    simp only [Option.map_some, Function.comp_apply, hid, if_true]
    rfl

namespace Handlers

/-- Whether a handler's outcome is a success: it returned `Ok`. -/
def succeeded : Except String (Except String Unit) → Bool
  | .ok (.ok ()) => true
  | _ => false

/-- **The incidents a handler's outcome is reported with:** one `handlerFailed` with the error
for a failure, one `handlerPanicked` for a panic, none for a success. -/
def incidentsOf (h : Subscription) (e : BusEvent) : Except String (Except String Unit) → List Incident
  | .ok (.ok ()) => []
  | .ok (.error err) => [.handlerFailed e.topic h.subscriber.name err]
  | .error _ => [.handlerPanicked e.topic h.subscriber.name]

/-- **A report counts one call** on the subscription's statistics, a failure unless the handler
succeeded. -/
theorem report_stats (h : Subscription) (e : BusEvent) (r : Except String (Except String Unit))
    (latency : Duration) (d : Deployment) :
    (report h e r latency d).bus.stats? h.topic h.id =
      (d.bus.stats? h.topic h.id).map (HandlerStats.count (succeeded r) latency) := by
  have hbus : (report h e r latency d).bus = d.bus.recordCall h.id (succeeded r) latency := by
    unfold report Deployment.observe
    split
    · rfl
    · split <;> rfl
    · split <;> rfl
  rw [hbus, Bus.stats?_recordCall]

/-- **A report tells the observer of each failure and each panic once,** and of nothing else. -/
theorem report_incidents (h : Subscription) (e : BusEvent) (r : Except String (Except String Unit))
    (latency : Duration) (d : Deployment) :
    (report h e r latency d).incidents =
      d.incidents ++ if d.recording then incidentsOf h e r else [] := by
  unfold report Deployment.observe
  split
  · simp [incidentsOf]
  · split <;> simp_all [incidentsOf]
  · split <;> simp_all [incidentsOf]

end Handlers

namespace Delivery

/-! ## The dispatcher -/

/-- **The handler tasks recorded under dispatch number `n`,** in the order they were started. -/
def recorded (n : Nat) (d : Deployment) : List Nat :=
  ((d.dispatches.find? (·.1 == n)).map (·.2)).getD []

/-- **Recording a task** appends it to its own dispatch's list and leaves the others. -/
theorem recorded_record (n task : Nat) (d : Deployment) (m : Nat) :
    recorded m (record n task d) = if m = n then recorded n d ++ [task] else recorded m d := by
  unfold recorded record
  by_cases hm : m = n
  · subst hm
    cases h : d.dispatches.find? (·.1 == m) with
    | none => simp
    | some p => simp
  · have hne : (n == m) = false := by simpa using Ne.symm hm
    -- The other dispatches' entries are untouched, and the new head is not `m`'s.
    have hkeep : ∀ a : Nat × List Nat, (a.1 == m) = true → (a.1 != n) = true := by
      intro a ha
      simp only [beq_iff_eq] at ha
      simp [ha, hm]
    cases h : d.dispatches.find? (·.1 == n) with
    | none => simp [hne, hm]
    | some p =>
      simp only [List.find?_cons, hne, List.find?_filter, hm, if_false]
      congr 3
      funext a
      cases ha : a.1 == m
      · simp
      · simp [hkeep a ha]

/-- **The executor after the dispatcher starts a handler:** the handler's task is spawned and
recorded under the dispatch number. -/
def handlerStarted (ex : Exec) (n : Nat) (h : Subscription) (e : BusEvent) : Exec :=
  let r := ex.spawnTask (.handle h e)
  { r.1 with shared := record n r.2 r.1.shared }

/-- A task just started has not been polled. -/
theorem hasStarted_handlerStarted (ex : Exec) (n : Nat) (h : Subscription) (e : BusEvent)
    (hsize : ex.tasks.size ≠ 0) : (handlerStarted ex n h e).hasStarted ex.tasks.size = false := by
  have htask : (handlerStarted ex n h e).task? ex.tasks.size =
      some { program := ex.launch (.handle h e), state := .queued } := by
    simp [handlerStarted, task?, spawnTask, hsize]
  simp [hasStarted, outcome?, htask]

/-- The dispatcher of a handler and then the rest. -/
theorem dispatch_cons (n : Nat) (h : Subscription) (hs : List Subscription) (e : BusEvent) :
    dispatch n (h :: hs) e =
      (Scheduling.Program.fork (.handle h e)).bind fun task =>
        (Scheduling.Program.modify (record n task)).bind fun _ =>
          .started task fun _ => dispatch n hs e := rfl

/-- With no handler left, the dispatcher ends. -/
theorem poll_dispatch_nil (me : Nat) (ex : Exec) (n : Nat) (e : BusEvent) :
    poll me ex (dispatch n [] e) = (ex, .pure ()) := rfl

/-- **One poll of the dispatcher** starts the next handler's task, records it, and waits for
the task's first poll. -/
theorem poll_dispatch_cons (me : Nat) (ex : Exec) (n : Nat) (h : Subscription)
    (hs : List Subscription) (e : BusEvent) (hsize : ex.tasks.size ≠ 0) :
    poll me ex (dispatch n (h :: hs) e) =
      (handlerStarted ex n h e, .started ex.tasks.size fun _ => dispatch n hs e) := by
  have hstart := hasStarted_handlerStarted ex n h e hsize
  rw [dispatch_cons]
  simp only [Scheduling.Program.fork, Scheduling.Program.modify, Program.bind, poll, spawnTask_id]
  simp only [handlerStarted, spawnTask_id] at hstart
  simp only [hstart, Bool.false_eq_true, if_false]
  rfl

/-- Once the task it waits for has been polled, the dispatcher goes on with the rest. -/
theorem poll_started_dispatch (me : Nat) (ex : Exec) (u n : Nat) (hs : List Subscription)
    (e : BusEvent) (hu : ex.hasStarted u = true) :
    poll me ex (.started u fun _ => dispatch n hs e) = poll me ex (dispatch n hs e) := by
  simp only [poll, hu, if_true]

/-- Until then it stays as it is. -/
theorem poll_started_dispatch_of_not (me : Nat) (ex : Exec) (u n : Nat) (hs : List Subscription)
    (e : BusEvent) (hu : ex.hasStarted u = false) :
    poll me ex (.started u fun _ => dispatch n hs e) = (ex, .started u fun _ => dispatch n hs e) := by
  simp only [poll, hu, Bool.false_eq_true, if_false]

/-! ## Waiting for a delivery -/

/-- **Waits for each task in turn.** -/
def awaitAll (ts : List Nat) : Act Unit :=
  ts.forM fun t => do
    let _ ← Scheduling.Program.await t
    pure ()

/-- Waiting for a delivery waits for its dispatcher and then for each recorded task. -/
theorem settled_some (c d n : Nat) :
    settled ⟨c, some (d, n)⟩ =
      (Scheduling.Program.await d).bind fun ok =>
        if ok then (Scheduling.Program.read (recorded n)).bind awaitAll else .pure () := rfl

/-- A wait for a task and then for the rest. -/
theorem awaitAll_cons (t : Nat) (ts : List Nat) :
    awaitAll (t :: ts) = .join t fun _ => awaitAll ts := rfl

/-- **A poll of a wait for tasks** passes on within the poll when every task has ended, and
otherwise waits for the first that has not. -/
theorem poll_awaitAll {α : Type} (me : Nat) (ex : Exec) (ts : List Nat) (k : Unit → Act α) :
    poll me ex ((awaitAll ts).bind k) =
      if ts.all fun t => (ex.outcome? t).isSome then poll me ex (k ())
      else (ex, (awaitAll (ts.dropWhile fun t => (ex.outcome? t).isSome)).bind k) := by
  induction ts with
  | nil => rfl
  | cons t ts ih =>
    rw [awaitAll_cons]
    cases h : ex.outcome? t with
    | none =>
      simp only [List.all_cons, h, Option.isSome_none, Bool.false_and, Bool.false_eq_true,
        if_false, List.dropWhile_cons, Program.bind, poll]
      rfl
    | some ok =>
      simp only [List.all_cons, h, Option.isSome_some, Bool.true_and, List.dropWhile_cons,
        if_true, Program.bind, poll]
      exact ih

/-- **A poll of a wait for a delivery** waits while the dispatcher runs; a dispatcher that
failed lets it pass, and one that succeeded hands it to the tasks recorded under its number. -/
theorem poll_settled {α : Type} (me : Nat) (ex : Exec) (c d n : Nat) (k : Unit → Act α) :
    poll me ex ((settled ⟨c, some (d, n)⟩).bind k) =
      match ex.outcome? d with
      | none => (ex, (settled ⟨c, some (d, n)⟩).bind k)
      | some false => poll me ex (k ())
      | some true => poll me ex ((awaitAll (recorded n ex.shared)).bind k) := by
  rw [settled_some]
  cases h : ex.outcome? d with
  | none => simp only [Scheduling.Program.await, Program.bind, poll, h]
  | some ok =>
    cases ok with
    | false => simp only [Scheduling.Program.await, Program.bind, poll, h, Bool.false_eq_true,
        if_false]
    | true =>
      simp only [Scheduling.Program.await, Scheduling.Program.read, Program.bind, poll, h, if_true]

end Delivery

end ChatGateway
