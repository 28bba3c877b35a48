import ChatGateway.Proofs.Gateway.Jobs

/-! # The stages of a responder that answers chats in order

A handler task runs its handler inside a panic boundary and then reports the outcome
(`Handlers.runFrom`). The responder of chats in order goes through three stages inside that
boundary, and its program shows which one it is in:

* *ready*: it has not run; its first poll takes a place on the chat's lock and asks for the
  mutex, in one go;
* *waiting* (`Handlers.waitingOn`): it is queued on the mutex with its ticket;
* *holding* (`Handlers.holdingFrom`): it holds the mutex and answers; when the answer is done it
  releases the mutex and gives up its place, again in one go, and reports.

The poll equations here say exactly what one poll does in each stage.
-/

namespace ChatGateway

open Scheduling Scheduling.Executor

/-- Whether a mutex is free: nobody holds it and nobody waits for it. -/
def Scheduling.MutexState.isFree (s : MutexState) : Bool :=
  s.holder.isNone && s.waiters.isEmpty

namespace Handlers

/-- **A handler task that began at `start` and whose handler has come to `inner`:** the rest of
`inner` inside the panic boundary, then the report of its outcome with the time since `start`. -/
def runFrom (h : Subscription) (e : BusEvent) (start : Nat) (inner : Act (Except String Unit)) :
    Act Unit :=
  (Scheduling.Program.catching inner).bind fun r => Scheduling.Program.now.bind fun finish =>
    Scheduling.Program.modify (report h e r (Duration.ofMillis (finish - start)))

/-- A handler task reads the clock, and goes on with its whole handler from then. -/
theorem run_eq_runFrom (h : Subscription) (e : BusEvent) :
    run h e = .clock fun start => runFrom h e start (handle h.subscriber e) := rfl

/-- **The first poll of a handler task** starts its handler at the time of the poll. -/
theorem poll_run (t : Nat) (ex : Exec) (h : Subscription) (e : BusEvent) :
    poll t ex (run h e) = poll t ex (runFrom h e ex.now (handle h.subscriber e)) := rfl

/-- **A responder that holds its chat's lock:** the rest of its answer, then the mutex is
released and its place on the lock given up. -/
def holdingFrom (set : Nat) (key : String) (mutex : Nat) (answer : Act Unit) :
    Act (Except String Unit) :=
  answer.bind fun _ => (Scheduling.Program.unlock mutex Scheduling.Program.pure).bind fun _ =>
    (Scheduling.Program.modify (release set key)).bind fun _ => Scheduling.Program.pure (.ok ())

/-- **A responder queued on its chat's mutex** with `ticket`. -/
def waitingOn (set : Nat) (m : InboundMessage) (mutex ticket : Nat) : Act (Except String Unit) :=
  .lock mutex (some ticket) fun _ => holdingFrom set m.sessionKey mutex (respond m)

/-- The responder of chats in order, before it runs. -/
theorem handle_inOrder (set : Nat) (m : InboundMessage) :
    handle (.responder (some set)) (.inbound m) =
      (Scheduling.Program.update (acquire set m.sessionKey)).bind fun mutex =>
        .lock mutex none fun _ => holdingFrom set m.sessionKey mutex (respond m) := rfl

/-! ## One poll in each stage -/

/-- **A poll of a handler task** polls its handler; a handler that ends, with a value or a
panic, is reported within the same poll, and the task ends. -/
theorem poll_runFrom (t : Nat) (ex : Exec) (h : Subscription) (e : BusEvent) (start : Nat)
    (inner : Act (Except String Unit)) :
    poll t ex (runFrom h e start inner) =
      match poll t ex inner with
      | (ex', .pure r) =>
        ({ ex' with shared := report h e (.ok r) (Duration.ofMillis (ex'.now - start)) ex'.shared },
          .pure ())
      | (ex', .panic p) =>
        ({ ex' with shared := report h e (.error p) (Duration.ofMillis (ex'.now - start)) ex'.shared },
          .pure ())
      | (ex', q) => (ex', runFrom h e start q) := by
  unfold runFrom
  rw [poll_bind]
  simp only [Scheduling.Program.catching, poll]
  generalize poll t ex inner = r
  obtain ⟨ex', q⟩ := r
  cases q <;> rfl

/-- **A handler task that has not ended:** not yet polled, or inside its panic boundary since the
time of its first poll. -/
def Reporting (h : Subscription) (e : BusEvent) (p : Act Unit) : Prop :=
  p = run h e ∨ ∃ start inner, p = runFrom h e start inner

/-- A handler task that has not ended is not done. -/
theorem Reporting.isDone {h : Subscription} {e : BusEvent} {p : Act Unit} (hp : Reporting h e p) :
    p.isDone = false := by
  rcases hp with rfl | ⟨_, _, rfl⟩ <;> rfl

/-- **One poll of a handler task** leaves it inside its panic boundary, or ended. -/
theorem poll_reporting {h : Subscription} {e : BusEvent} {p : Act Unit} (hp : Reporting h e p)
    (t : Nat) (ex : Exec) : (poll t ex p).2 = .pure () ∨ Reporting h e (poll t ex p).2 := by
  obtain ⟨start, inner, hrun⟩ : ∃ start inner, poll t ex p = poll t ex (runFrom h e start inner) := by
    rcases hp with rfl | ⟨start, inner, rfl⟩
    · exact ⟨_, _, poll_run t ex h e⟩
    · exact ⟨start, inner, rfl⟩
  rw [hrun, poll_runFrom]
  generalize poll t ex inner = r
  obtain ⟨ex', q⟩ := r
  cases q with
  | pure r => exact .inl rfl
  | panic m => exact .inl rfl
  | _ => exact .inr (.inr ⟨_, _, rfl⟩)

/-- A handler that blocks leaves its task blocked in the same boundary. -/
theorem poll_runFrom_blocked {t : Nat} {ex : Exec} (h : Subscription) (e : BusEvent) (start : Nat)
    {inner : Act (Except String Unit)} (hb : (poll t ex inner).2.isDone = false) :
    poll t ex (runFrom h e start inner) =
      ((poll t ex inner).1, runFrom h e start (poll t ex inner).2) := by
  rw [poll_runFrom]
  generalize poll t ex inner = r at hb ⊢
  obtain ⟨ex', q⟩ := r
  cases q with
  | pure a => cases hb
  | panic m => cases hb
  | _ => rfl

/-- A handler that ends with a value is reported as its outcome, and the task ends. -/
theorem poll_runFrom_pure {t : Nat} {ex : Exec} (h : Subscription) (e : BusEvent) (start : Nat)
    {inner : Act (Except String Unit)} {r : Except String Unit}
    (hr : (poll t ex inner).2 = .pure r) :
    poll t ex (runFrom h e start inner) =
      ({ (poll t ex inner).1 with
          shared := report h e (.ok r) (Duration.ofMillis ((poll t ex inner).1.now - start))
            (poll t ex inner).1.shared }, .pure ()) := by
  rw [poll_runFrom]
  generalize poll t ex inner = r' at hr ⊢
  obtain ⟨ex', q⟩ := r'
  dsimp only at hr
  subst hr
  rfl

/-- **A poll of a responder that holds its chat's lock** polls its answer; an answer that ends
releases the mutex and gives up the place on the lock within the same poll. -/
theorem poll_holdingFrom (t : Nat) (ex : Exec) (set : Nat) (key : String) (mutex : Nat)
    (answer : Act Unit) :
    poll t ex (holdingFrom set key mutex answer) =
      match poll t ex answer with
      | (ex', .pure _) =>
        ({ ex'.release mutex with shared := release set key (ex'.release mutex).shared },
          .pure (.ok ()))
      | (ex', .panic p) => (ex', .panic p)
      | (ex', q) => (ex', holdingFrom set key mutex q) := by
  unfold holdingFrom
  rw [poll_bind]
  generalize poll t ex answer = r
  obtain ⟨ex', q⟩ := r
  cases q <;> rfl

/-- An answer that blocks leaves the responder holding the lock. -/
theorem poll_holdingFrom_blocked {t : Nat} {ex : Exec} (set : Nat) (key : String) (mutex : Nat)
    {answer : Act Unit} (hb : (poll t ex answer).2.isDone = false) :
    poll t ex (holdingFrom set key mutex answer) =
      ((poll t ex answer).1, holdingFrom set key mutex (poll t ex answer).2) := by
  rw [poll_holdingFrom]
  generalize poll t ex answer = r at hb ⊢
  obtain ⟨ex', q⟩ := r
  cases q with
  | pure a => cases hb
  | panic m => cases hb
  | _ => rfl

/-- An answer that ends releases the mutex and gives the place up within the same poll. -/
theorem poll_holdingFrom_pure {t : Nat} {ex : Exec} (set : Nat) (key : String) (mutex : Nat)
    {answer : Act Unit} {u : Unit} (hr : (poll t ex answer).2 = .pure u) :
    poll t ex (holdingFrom set key mutex answer) =
      ({ (poll t ex answer).1.release mutex with
          shared := release set key ((poll t ex answer).1.release mutex).shared },
        .pure (.ok ())) := by
  rw [poll_holdingFrom]
  generalize poll t ex answer = r' at hr ⊢
  obtain ⟨ex', q⟩ := r'
  dsimp only at hr
  subst hr
  rfl

/-- **A poll of a queued responder:** it goes on once its ticket holds the mutex, and otherwise
stays as it is. -/
theorem poll_waitingOn (t : Nat) (ex : Exec) (set : Nat) (m : InboundMessage)
    (mutex ticket : Nat) :
    poll t ex (waitingOn set m mutex ticket) =
      if (ex.mutex mutex).holder = some ticket then
        poll t ex (holdingFrom set m.sessionKey mutex (respond m))
      else (ex, waitingOn set m mutex ticket) := rfl

/-- **The first poll of a responder of chats in order:** it takes its place on the chat's lock
and asks for the mutex with a fresh ticket; with the mutex free it goes on holding it, and
otherwise it is queued. -/
theorem poll_handle_inOrder (t : Nat) (ex : Exec) (set : Nat) (m : InboundMessage) :
    poll t ex (handle (.responder (some set)) (.inbound m)) =
      let ex₁ : Exec := { ex with shared := (acquire set m.sessionKey ex.shared).1 }
      let mutex := (acquire set m.sessionKey ex.shared).2
      if (ex₁.mutex mutex).isFree then
        poll t (ex₁.lockAttempt t mutex) (holdingFrom set m.sessionKey mutex (respond m))
      else (ex₁.lockAttempt t mutex, waitingOn set m mutex ex₁.nextId) := by
  rw [handle_inOrder]
  simp only [Scheduling.Program.update, Program.bind, poll, lockAttempt, MutexState.isFree]
  split <;> rfl

end Handlers

end ChatGateway
