import ChatGateway.Scheduling.Program

/-! # A single-threaded executor with a virtual clock

The executor runs one *main* program and the tasks it spawns on one thread, with a clock that
moves only when nothing else can happen:

* Spawned and woken tasks wait in a first-in first-out run queue. Each pick runs one task until
  it blocks or finishes; a task woken while it runs is queued again after its poll.
* The main program is not queued: waking it sets a flag, and it is polled first whenever the
  flag is set, before the next batch of at most 61 queued tasks.
* Timers are kept by deadline and then by registration. After a batch, the timers that are due
  fire, waking their tasks in that order, and tasks that yielded are woken. When the queue is
  empty, main is not woken and no task yielded, the clock jumps to the earliest timer.
* A line *stalls* when nothing can run and no timer is due before `Executor.stallLimit`.

Waking is the only way a blocked program is polled again, and a poll of a blocked program that
is not ready changes nothing, so what runs and in which order follows from the run queue alone.
A loop whose round ends without blocking wakes its own task and ends the poll: the next round
runs once the task is picked again.
-/

namespace ChatGateway

namespace Scheduling

/-- **Where a task is in its life.** -/
inductive TaskState where
  | idle
  | queued
  | running
  | done (ok : Bool)
  deriving Repr, DecidableEq

/-- **A spawned task:** its residual program and scheduling flags. -/
structure Task (ι σ : Type) where
  program : Program ι σ Unit
  state : TaskState
  polled : Bool := false
  cancelled : Bool := false
  rewake : Bool := false

/-- **A registered timer:** it wakes `owner` when the clock reaches `deadline`. -/
structure Timer where
  id : Nat
  deadline : Nat
  owner : Nat
  deriving Repr

/-- **A fair mutex:** the ticket holding it and the queue of waiting tasks with their tickets. -/
structure MutexState where
  holder : Option Nat := none
  waiters : List (Nat × Nat) := []
  deriving Repr

/-- **The executor state.** Task 0 is the main program, which is kept outside `tasks`. -/
structure Executor (ι σ : Type) where
  launch : ι → Program ι σ Unit
  shared : σ
  now : Nat := 0
  tasks : Array (Task ι σ) := #[]
  queue : List Nat := []
  mainWoken : Bool := true
  deferred : List Nat := []
  timers : List Timer := []
  nextId : Nat := 1
  mutexes : List (Nat × MutexState) := []

namespace Executor

variable {ι σ : Type}

/-- Thirty days of virtual time: a line that needs the clock to reach it has stalled. -/
def stallLimit : Nat := 2592000000

/-- A fresh executor that runs jobs with `launch`; the main program is woken. -/
def start (launch : ι → Program ι σ Unit) (shared : σ) : Executor ι σ :=
  { launch, shared, tasks := #[{ program := .pure (), state := .done true }] }

/-- The task with an id, if it exists. -/
def task? (ex : Executor ι σ) (t : Nat) : Option (Task ι σ) :=
  if t = 0 then none else ex.tasks[t]?

/-- Changes one task. -/
def modifyTask (ex : Executor ι σ) (t : Nat) (f : Task ι σ → Task ι σ) : Executor ι σ :=
  { ex with tasks := ex.tasks.modify t f }

/-- **Wakes a task:** an idle task joins the end of the run queue, a running one is queued
again after its poll, and waking the main program sets its flag. -/
def wake (ex : Executor ι σ) (t : Nat) : Executor ι σ :=
  if t = 0 then { ex with mainWoken := true }
  else
    match ex.task? t with
    | some task =>
      match task.state with
      | .idle =>
        { ex.modifyTask t (fun k => { k with state := .queued }) with queue := ex.queue ++ [t] }
      | .running => ex.modifyTask t fun k => { k with rewake := true }
      | _ => ex
    | none => ex

/-- Wakes several tasks in order. -/
def wakeAll (ex : Executor ι σ) (ts : List Nat) : Executor ι σ := ts.foldl wake ex

/-- Inserts a timer after every timer with an earlier or equal deadline. -/
def insertTimer (tm : Timer) : List Timer → List Timer
  | [] => [tm]
  | t :: rest => if tm.deadline < t.deadline then tm :: t :: rest else t :: insertTimer tm rest

/-- Registers a timer for task `owner`. -/
def addTimer (ex : Executor ι σ) (deadline owner : Nat) : Executor ι σ × Nat :=
  let timers := insertTimer ⟨ex.nextId, deadline, owner⟩ ex.timers
  ({ ex with timers, nextId := ex.nextId + 1 }, ex.nextId)

/-- A fresh ticket or timer number. -/
def fresh (ex : Executor ι σ) : Executor ι σ × Nat :=
  ({ ex with nextId := ex.nextId + 1 }, ex.nextId)

/-- Adds a task running `job` to the end of the run queue. -/
def spawnTask (ex : Executor ι σ) (job : ι) : Executor ι σ × Nat :=
  let id := ex.tasks.size
  let tasks := ex.tasks.push { program := ex.launch job, state := .queued }
  ({ ex with tasks, queue := ex.queue ++ [id] }, id)

/-- How a task ended, once it has. -/
def outcome? (ex : Executor ι σ) (t : Nat) : Option Bool :=
  match ex.task? t with
  | some { state := .done ok, .. } => some ok
  | some _ => none
  | none => some false

/-- Whether a task has been polled at least once, or ended. -/
def hasStarted (ex : Executor ι σ) (t : Nat) : Bool :=
  match ex.task? t with
  | some task => task.polled || (ex.outcome? t).isSome
  | none => true

/-- Cancels a task: it is queued, if idle, to be dropped. -/
def abortTask (ex : Executor ι σ) (t : Nat) : Executor ι σ :=
  match ex.outcome? t with
  | some _ => ex
  | none => (ex.modifyTask t fun k => { k with cancelled := true }).wake t

/-- The state of a mutex. -/
def mutex (ex : Executor ι σ) (m : Nat) : MutexState :=
  ((ex.mutexes.find? (·.1 == m)).map (·.2)).getD {}

/-- Replaces the state of a mutex. -/
def setMutex (ex : Executor ι σ) (m : Nat) (s : MutexState) : Executor ι σ :=
  { ex with mutexes := (m, s) :: ex.mutexes.filter (·.1 != m) }

/-- Releases a mutex: the first waiter, if any, holds it next and is woken. -/
def release (ex : Executor ι σ) (m : Nat) : Executor ι σ :=
  match (ex.mutex m).waiters with
  | [] => ex.setMutex m {}
  | (task, ticket) :: rest => (ex.setMutex m { holder := some ticket, waiters := rest }).wake task

/-- **Polls a program of task `me` until it blocks or finishes.** Every synchronous step goes
into a continuation of the program, so a poll always ends: the recursion follows the program's
own structure. -/
def poll {α : Type} (me : Nat) (ex : Executor ι σ) : Program ι σ α → Executor ι σ × Program ι σ α
  | .pure a => (ex, .pure a)
  | .panic m => (ex, .panic m)
  | .step f k =>
    let (s, b) := f ex.shared
    poll me { ex with shared := s } (k b)
  | .clock k => poll me ex (k ex.now)
  | .sleepUntil d t k =>
    if d ≤ ex.now then poll me ex (k ())
    else
      match t with
      | some id => (ex, .sleepUntil d (some id) k)
      | none =>
        let (ex, id) := ex.addTimer d me
        (ex, .sleepUntil d (some id) k)
  | .pending => (ex, .pending)
  | .spawn q k =>
    let (ex, id) := ex.spawnTask q
    poll me ex (k id)
  | .join t k =>
    match ex.outcome? t with
    | some ok => poll me ex (k ok)
    | none => (ex, .join t k)
  | .started t k => if ex.hasStarted t then poll me ex (k ()) else (ex, .started t k)
  | .finished t k => poll me ex (k (ex.outcome? t).isSome)
  | .abort t k => poll me (ex.abortTask t) (k ())
  | .lock m none k =>
    let s := ex.mutex m
    let (ex, ticket) := ex.fresh
    if s.holder.isNone && s.waiters.isEmpty then
      poll me (ex.setMutex m { s with holder := some ticket }) (k ())
    else
      (ex.setMutex m { s with waiters := s.waiters ++ [(me, ticket)] }, .lock m (some ticket) k)
  | .lock m (some ticket) k =>
    if (ex.mutex m).holder = some ticket then poll me ex (k ()) else (ex, .lock m (some ticket) k)
  | .unlock m k => poll me (ex.release m) (k ())
  | .yieldNow true k => poll me ex (k ())
  | .yieldNow false k => ({ ex with deferred := ex.deferred ++ [me] }, .yieldNow true k)
  | .guard inner k =>
    let (ex, inner) := poll me ex inner
    match inner with
    | .pure b => poll me ex (k (.ok b))
    | .panic m => poll me ex (k (.error m))
    | blocked => (ex, .guard blocked k)
  | .timeout d t inner k =>
    let (ex, inner) := poll me ex inner
    match inner with
    | .pure b => poll me ex (k (some b))
    | .panic m => (ex, .panic m)
    | blocked =>
      if d ≤ ex.now then poll me ex (k none)
      else
        match t with
        | some _ => (ex, .timeout d t blocked k)
        | none =>
          let (ex, id) := ex.addTimer d me
          (ex, .timeout d (some id) blocked k)
  | .both q r k =>
    let (ex, q) := poll me ex q
    match q with
    | .panic m => (ex, .panic m)
    | q =>
      let (ex, r) := poll me ex r
      match q, r with
      | _, .panic m => (ex, .panic m)
      | .pure b, .pure c => poll me ex (k (b, c))
      | q, r => (ex, .both q r k)
  | .loop body current k =>
    let (ex, current) := poll me ex current
    match current with
    | .pure (.inr c) => poll me ex (k c)
    | .pure (.inl b) => (ex.wake me, .loop body (body b) k)
    | .panic m => (ex, .panic m)
    | blocked => (ex, .loop body blocked k)

/-- The tasks a blocked program waits to finish. -/
def joinTargets {α : Type} : Program ι σ α → List Nat
  | .join t _ => [t]
  | .guard inner _ => joinTargets inner
  | .timeout _ _ inner _ => joinTargets inner
  | .both p q _ => joinTargets p ++ joinTargets q
  | .loop _ c _ => joinTargets c
  | _ => []

/-- The tasks a blocked program waits to be polled once. -/
def startTargets {α : Type} : Program ι σ α → List Nat
  | .started t _ => [t]
  | .guard inner _ => startTargets inner
  | .timeout _ _ inner _ => startTargets inner
  | .both p q _ => startTargets p ++ startTargets q
  | .loop _ c _ => startTargets c
  | _ => []

/-- The live tasks whose programs wait on `t` in the sense of `targets`. -/
def waitingOn (ex : Executor ι σ) (main : List Nat) (targets : Program ι σ Unit → List Nat)
    (t : Nat) : List Nat :=
  (if main.contains t then [0] else []) ++
    ((List.range ex.tasks.size).filter fun i =>
      match ex.tasks[i]? with
      | some task => i ≠ 0 && !(task.state matches .done _) && (targets task.program).contains t
      | none => false)

/-- Drops the timers of task `t` that its program no longer waits on. -/
def pruneTimers (ex : Executor ι σ) (t : Nat) (live : List Nat) : Executor ι σ :=
  { ex with timers := ex.timers.filter fun tm => tm.owner != t || live.contains tm.id }

/-- What a poll of the main program left: its residual program. -/
structure MainView where
  joins : List Nat
  starts : List Nat

/-- Ends a task and wakes those waiting for it. -/
def finish (ex : Executor ι σ) (main : MainView) (t : Nat) (ok : Bool) : Executor ι σ :=
  let ex := ex.modifyTask t fun k => { k with program := .pure (), state := .done ok }
  let ex := ex.pruneTimers t []
  ex.wakeAll (ex.waitingOn main.joins joinTargets t)

/-- **Runs one picked task:** drops it when cancelled, otherwise polls it. -/
def runTask (ex : Executor ι σ) (main : MainView) (t : Nat) : Executor ι σ :=
  match ex.task? t with
  | none => ex
  | some task =>
    if task.cancelled then
      let ex := ex.finish main t false
      ex.wakeAll (ex.waitingOn main.starts startTargets t)
    else
      let ex := ex.modifyTask t fun k => { k with state := .running, rewake := false }
      let (ex, p) := poll t ex task.program
      let ex := ex.pruneTimers t p.timerIds
      let ex := ex.modifyTask t fun k => { k with polled := true }
      let ex := match p with
        | .pure () => ex.finish main t true
        | .panic _ => ex.finish main t false
        | p =>
          let again := (ex.task? t).any (·.rewake)
          let ex := ex.modifyTask t fun k =>
            { k with program := p, state := .idle, rewake := false }
          if again then ex.wake t else ex
      if task.polled then ex else ex.wakeAll (ex.waitingOn main.starts startTargets t)

/-- Fires the due timers in order and wakes their owners. -/
def fireDue (ex : Executor ι σ) : Executor ι σ :=
  let due := ex.timers.filter (·.deadline ≤ ex.now)
  let ex := { ex with timers := ex.timers.filter (·.deadline > ex.now) }
  ex.wakeAll (due.map (·.owner))

/-- Fires due timers and wakes the tasks that yielded. -/
def parkYield (ex : Executor ι σ) : Executor ι σ :=
  let ex := ex.fireDue
  let d := ex.deferred
  { ex with deferred := [] }.wakeAll d

/-- **Waits for something to happen:** the clock jumps to the earliest timer unless the main
program is already woken; `none` when nothing will ever happen before the stall limit. -/
def park (ex : Executor ι σ) : Option (Executor ι σ) :=
  if ex.mainWoken then some ex.parkYield
  else
    match ex.timers with
    | [] => none
    | tm :: _ =>
      if tm.deadline ≥ stallLimit then none
      else some { ex with now := max ex.now tm.deadline }.parkYield

/-- Runs at most `n` queued tasks; `true` when the queue ran empty. -/
def runBatch (main : MainView) : Nat → Executor ι σ → Executor ι σ × Bool
  | 0, ex => (ex, false)
  | n + 1, ex =>
    match ex.queue with
    | [] => (ex, true)
    | t :: rest => runBatch main n ({ ex with queue := rest }.runTask main t)

/-- **How a line of work ended.** -/
inductive Ending (α : Type) where
  | finished (a : α)
  | panicked (message : String)
  | stalled
  deriving Repr

/-- The number of queued tasks run between two looks at the clock. -/
def batchSize : Nat := 61

/-- **Runs the main program to its end,** with `fuel` rounds of the scheduling loop. -/
def blockOn {α : Type} : Nat → Executor ι σ → Program ι σ α → Executor ι σ × Ending α
  | 0, ex, _ => (ex, .stalled)
  | fuel + 1, ex, main =>
    let (ex, main) :=
      if ex.mainWoken then
        let (ex, p) := poll 0 { ex with mainWoken := false } main
        (ex.pruneTimers 0 p.timerIds, p)
      else (ex, main)
    match main with
    | .pure a => (ex, .finished a)
    | .panic m => (ex, .panicked m)
    | main =>
      let view : MainView := ⟨joinTargets main, startTargets main⟩
      let (ex, emptied) := runBatch view batchSize ex
      let next :=
        if emptied && ex.deferred.isEmpty then ex.park
        else some ex.parkYield
      match next with
      | some ex => blockOn fuel ex main
      | none => (ex, .stalled)

/-- Rounds of the scheduling loop allowed for one line. -/
def roundLimit : Nat := 10000000

/-- **Runs a main program on a fresh executor over `shared`,** starting tasks with `launch`. -/
def run {α : Type} (launch : ι → Program ι σ Unit) (shared : σ) (main : Program ι σ α) :
    σ × Ending α :=
  let (ex, e) := blockOn roundLimit (start launch shared) main
  (ex.shared, e)

end Executor

end Scheduling

end ChatGateway
