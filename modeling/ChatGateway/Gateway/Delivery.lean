import ChatGateway.Gateway.Deployment

/-! # Publishing events

`publish` hands an event to every handler subscribed to its topic at that moment. It returns at
once with a `Delivery`; one dispatcher task then starts the handlers one by one, in subscription
order, each only after the previous one has been polled once, and each in its own task, so that
a handler that fails or panics cannot affect the others. A closed bus delivers nothing.

`Delivery.settled` waits until every handler started by the publish has finished.

`Publisher.publish` is how a channel puts a received message on the bus: the message is stamped
with the channel's name, validated, and its sender checked against the channel's allowlist; a
refused sender is reported to the observer, and only a message that passes both checks is
published.
-/

namespace ChatGateway

open Scheduling.Program (update modify read fork await)

/-- **What one publish started:** the number of handlers, and the dispatcher task with the
number under which it records its handler tasks. -/
structure Delivery where
  handlerCount : Nat := 0
  dispatcher : Option (Nat × Nat) := none
  deriving Repr

namespace Delivery

/-- **Publishes an event** to the handlers of its topic. -/
def publish (e : BusEvent) : Act Delivery := do
  let started ← update fun (d : Deployment) =>
    if d.bus.closed then (d, none)
    else
      let handlers := d.bus.handlersOf e.topic
      ({ d with nextDispatch := d.nextDispatch + 1 }, some (d.nextDispatch, handlers))
  match started with
  | none => pure {}
  | some (n, handlers) =>
    let task ← fork (.dispatch n handlers e)
    pure { handlerCount := handlers.length, dispatcher := some (task, n) }

/-- Records a handler task under dispatch number `n`. -/
def record (n task : Nat) (d : Deployment) : Deployment :=
  { d with dispatches := match d.dispatches.find? (·.1 == n) with
    | some (_, ts) => (n, ts ++ [task]) :: d.dispatches.filter (·.1 != n)
    | none => (n, [task]) :: d.dispatches }

/-- **The dispatcher:** starts each handler and waits for its first poll before the next. -/
def dispatch (n : Nat) (handlers : List Subscription) (e : BusEvent) : Act Unit :=
  handlers.forM fun h => do
    let task ← fork (.handle h e)
    modify (record n task)
    .started task pure

/-- **Waits until every handler of the publish has finished.** -/
def settled (r : Delivery) : Act Unit :=
  match r.dispatcher with
  | none => pure ()
  | some (task, n) => do
    let ok ← await task
    if ok then
      let tasks ← read fun (d : Deployment) => ((d.dispatches.find? (·.1 == n)).map (·.2)).getD []
      tasks.forM fun t => do
        let _ ← await t
        pure ()

end Delivery

namespace Publisher

/-- **Publishes an inbound message through a channel's publisher,** or says why it was refused. -/
def publish (p : Publisher) (m : InboundMessage) : Act (Except ChannelError Delivery) := do
  let prepared : Except ChannelError InboundMessage ← update fun (d : Deployment) =>
    match p.prepare m with
    | .ok m => (d, .ok m)
    | .error (e, incident) => (incident.toList.foldl Deployment.observe d, .error e)
  match prepared with
  | .error e => pure (.error e)
  | .ok m => do
    let delivery ← Delivery.publish (.inbound m)
    pure (.ok delivery)

end Publisher

end ChatGateway
