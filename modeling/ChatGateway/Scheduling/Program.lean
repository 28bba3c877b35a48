/-! # Cooperative programs

A `Program ι σ α` is a cooperative computation over a shared state `σ` that ends with an `α`. It
is a chain of *effects*, each with a continuation: synchronous updates of the shared state,
reading the virtual clock, sleeping until a deadline, spawning and joining tasks, taking and
releasing mutexes, yielding, and the combinators that poll several computations inside one
task (`guard` catches a panic, `timeout` races a computation against a deadline, `both` runs two
computations side by side).

A spawned task is named by a *job* of type `ι`, a value saying what the task does; the executor
turns a job into its program. Programs that start one another are thus plain data, and the
functions that build them need not call each other.

A program runs until it *blocks* on an effect that is not ready; the executor of
`ChatGateway.Scheduling.Executor` polls it again when it is woken. Polling a blocked program
again before its condition holds changes nothing, so a program can be polled any number of times.

* `Program.bind` sequences programs; `Program` is a monad, so programs are written with `do`.
* `Program.iterate` runs a loop with no bound on its rounds; it is a constructor of its own, since
  a round that does not block must still end the poll that ran it.
* `Program.timerIds` lists the timers a blocked program waits on; the executor drops every other
  timer of the task after each poll, which is how a dropped sleep stops waking its task.
-/

namespace ChatGateway

namespace Scheduling

/-- **A cooperative computation over shared state `σ` with result `α`.** -/
inductive Program (ι σ : Type) : Type → Type 1 where
  /-- Finished with a value. -/
  | pure {α : Type} (a : α) : Program ι σ α
  /-- Unwinding with a panic message. The payload is always a text, so a panic whose payload is
  not one, which a catch reports as `unknown panic`, is here a panic with that text. -/
  | panic {α : Type} (message : String) : Program ι σ α
  /-- A synchronous update of the shared state. -/
  | step {α β : Type} (f : σ → σ × β) (k : β → Program ι σ α) : Program ι σ α
  /-- Reads the virtual clock, in milliseconds. -/
  | clock {α : Type} (k : Nat → Program ι σ α) : Program ι σ α
  /-- Waits until the clock reaches `deadline`; `timer` is the registered timer, once polled. -/
  | sleepUntil {α : Type} (deadline : Nat) (timer : Option Nat) (k : Unit → Program ι σ α) :
      Program ι σ α
  /-- Never finishes. -/
  | pending {α : Type} : Program ι σ α
  /-- Starts a new task running `job` and continues with its id. -/
  | spawn {α : Type} (job : ι) (k : Nat → Program ι σ α) : Program ι σ α
  /-- Waits for a task to finish; `true` when it finished without panicking or being aborted. -/
  | join {α : Type} (task : Nat) (k : Bool → Program ι σ α) : Program ι σ α
  /-- Waits until a task has been polled once. -/
  | started {α : Type} (task : Nat) (k : Unit → Program ι σ α) : Program ι σ α
  /-- Reads whether a task has finished. -/
  | finished {α : Type} (task : Nat) (k : Bool → Program ι σ α) : Program ι σ α
  /-- Cancels a task: it is dropped the next time the executor picks it. -/
  | abort {α : Type} (task : Nat) (k : Unit → Program ι σ α) : Program ι σ α
  /-- Takes a mutex, queueing fairly behind earlier waiters; `ticket` is the place in the queue. -/
  | lock {α : Type} (mutex : Nat) (ticket : Option Nat) (k : Unit → Program ι σ α) : Program ι σ α
  /-- Releases a mutex, handing it to the first waiter. -/
  | unlock {α : Type} (mutex : Nat) (k : Unit → Program ι σ α) : Program ι σ α
  /-- Lets every other runnable task run before continuing. -/
  | yieldNow {α : Type} (yielded : Bool) (k : Unit → Program ι σ α) : Program ι σ α
  /-- Runs `inner`, turning a panic into an error value. -/
  | guard {α β : Type} (inner : Program ι σ β) (k : Except String β → Program ι σ α) : Program ι σ α
  /-- Runs `inner` until `deadline`: `none` when the deadline came first. -/
  | timeout {α β : Type} (deadline : Nat) (timer : Option Nat) (inner : Program ι σ β)
      (k : Option β → Program ι σ α) : Program ι σ α
  /-- Runs two computations side by side, polling the first one first. -/
  | both {α β γ : Type} (first : Program ι σ β) (second : Program ι σ γ)
      (k : β × γ → Program ι σ α) : Program ι σ α
  /-- Runs round after round of `body`, with `current` the round under way: a round that ends
  with `inl b` is followed by the round `body b`, and one that ends with `inr c` ends the loop
  with `c`. Between two rounds the task lets the tasks queued before it run. -/
  | loop {α β γ : Type} (body : β → Program ι σ (β ⊕ γ)) (current : Program ι σ (β ⊕ γ))
      (k : γ → Program ι σ α) : Program ι σ α

namespace Program

variable {ι σ : Type}

/-- **Sequencing:** runs `p`, then `f` on its result; a panic skips `f`. -/
def bind {α β : Type} : Program ι σ α → (α → Program ι σ β) → Program ι σ β
  | .pure a, f => f a
  | .panic m, _ => .panic m
  | .step g k, f => .step g fun b => bind (k b) f
  | .clock k, f => .clock fun t => bind (k t) f
  | .sleepUntil d t k, f => .sleepUntil d t fun u => bind (k u) f
  | .pending, _ => .pending
  | .spawn p k, f => .spawn p fun i => bind (k i) f
  | .join t k, f => .join t fun b => bind (k b) f
  | .started t k, f => .started t fun u => bind (k u) f
  | .finished t k, f => .finished t fun b => bind (k b) f
  | .abort t k, f => .abort t fun u => bind (k u) f
  | .lock m t k, f => .lock m t fun u => bind (k u) f
  | .unlock m k, f => .unlock m fun u => bind (k u) f
  | .yieldNow y k, f => .yieldNow y fun u => bind (k u) f
  | .guard inner k, f => .guard inner fun r => bind (k r) f
  | .timeout d t inner k, f => .timeout d t inner fun r => bind (k r) f
  | .both p q k, f => .both p q fun r => bind (k r) f
  | .loop body c k, f => .loop body c fun r => bind (k r) f

instance : Monad (Program ι σ) where
  pure := Program.pure
  bind := Program.bind

/-- A synchronous update that returns a value. -/
def update {β : Type} (f : σ → σ × β) : Program ι σ β := .step f .pure

/-- A synchronous update without a value. -/
def modify (f : σ → σ) : Program ι σ Unit := .step (fun s => (f s, ())) .pure

/-- Reads the shared state. -/
def read {β : Type} (f : σ → β) : Program ι σ β := .step (fun s => (s, f s)) .pure

/-- The virtual clock. -/
def now : Program ι σ Nat := .clock .pure

/-- Sleeps for `ms` milliseconds of virtual time; zero does not suspend. -/
def sleep (ms : Nat) : Program ι σ Unit := .clock fun t => .sleepUntil (t + ms) none .pure

/-- Starts a task running `job`. -/
def fork (job : ι) : Program ι σ Nat := .spawn job .pure

/-- Waits for a task. -/
def await (task : Nat) : Program ι σ Bool := .join task .pure

/-- Yields once. -/
def yield : Program ι σ Unit := .yieldNow false .pure

/-- Runs a program, catching its panic. -/
def catching {β : Type} (p : Program ι σ β) : Program ι σ (Except String β) := .guard p .pure

/-- Runs a program with a time limit of `ms` from now. -/
def within {β : Type} (ms : Nat) (p : Program ι σ β) : Program ι σ (Option β) :=
  .clock fun t => .timeout (t + ms) none p .pure

/-- Runs two programs side by side. -/
def zip {β γ : Type} (p : Program ι σ β) (q : Program ι σ γ) : Program ι σ (β × γ) :=
  .both p q .pure

/-- **Runs rounds of `body` from `b`** until one of them ends the loop. -/
def iterate {β γ : Type} (body : β → Program ι σ (β ⊕ γ)) (b : β) : Program ι σ γ :=
  .loop body (body b) .pure

/-- Runs programs side by side, polling them in order, and collects their results in order. -/
def all {β : Type} : List (Program ι σ β) → Program ι σ (List β)
  | [] => .pure []
  | [p] => bind p fun b => .pure [b]
  | p :: ps => .both p (all ps) fun (b, bs) => .pure (b :: bs)

/-- The timers a blocked program waits on. -/
def timerIds {α : Type} : Program ι σ α → List Nat
  | .sleepUntil _ (some t) _ => [t]
  | .guard inner _ => timerIds inner
  | .timeout _ t inner _ => timerIds inner ++ t.toList
  | .both p q _ => timerIds p ++ timerIds q
  | .loop _ c _ => timerIds c
  | _ => []

/-- Whether a program has finished, with a value or a panic. -/
def isDone {α : Type} : Program ι σ α → Bool
  | .pure _ => true
  | .panic _ => true
  | _ => false

end Program

end Scheduling

end ChatGateway
