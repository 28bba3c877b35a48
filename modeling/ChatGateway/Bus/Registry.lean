import ChatGateway.Bus.Event
import ChatGateway.Bus.Stats
import ChatGateway.Text.Debug

/-! # Subscriptions of the event bus

The `Bus` holds the subscriptions of both topics in the order they were made, each with its own
`HandlerStats`, and whether the bus is closed.

* `Bus.subscribe` always takes the next id, `sub-1`, `sub-2`, …; on a closed bus it registers
  nothing, so the id it returns is inert.
* `Bus.close` drops every subscription for good.
* The handlers of an event are the subscriptions of its topic, in subscription order.

What a subscription does with an event is a `Subscriber`: a scripted `HandlerBehavior`, the
responder that answers inbound messages with the reasoning engine, or the router that delivers
outbound messages to channels.
-/

namespace ChatGateway

/-- **What a scripted bus handler does with an event,** after its delay. -/
inductive HandlerAction where
  /-- Appends the event to the event log. -/
  | record
  /-- Fails with a message. -/
  | fail (message : String)
  /-- Panics with a message. -/
  | panic (message : String)
  /-- Fails when the event's content is `content`, and records otherwise. -/
  | failOn (content message : String)
  deriving Repr

/-- **A scripted bus handler:** its action and its delay. -/
structure HandlerBehavior where
  action : HandlerAction := .record
  delayMs : Nat := 0
  deriving Repr

namespace HandlerBehavior

/-- **Reads a behavior;** an unknown kind records. -/
def ofJson (j : Json) : HandlerBehavior :=
  let text (k : String) : String := ((j.get? k).bind Json.str?).getD ""
  let action : HandlerAction :=
    match (j.get? "kind").bind Json.str? with
    | some "fail" => .fail (text "message")
    | some "panic" => .panic (text "message")
    | some "fail_on" => .failOn (text "content") (text "message")
    | _ => .record
  { action, delayMs := ((j.get? "delay_ms").bind Json.nat?).getD 0 }

end HandlerBehavior

/-- **What a subscription does with an event.** -/
inductive Subscriber where
  /-- A scripted handler with a name. -/
  | scripted (name : String) (behavior : HandlerBehavior)
  /-- The responder; `locks` names its per-chat locks when chats are handled in order. -/
  | responder (locks : Option Nat)
  /-- The router of outbound messages to channels. -/
  | router
  deriving Repr

namespace Subscriber

/-- The name of a handler, as incidents report it. -/
def name : Subscriber → String
  | .scripted n _ => n
  | .responder _ => "bus-adapter"
  | .router => "channel-manager.outbound"

end Subscriber

/-- **A subscription:** its id, topic, handler and statistics. -/
structure Subscription where
  id : Nat
  topic : Topic
  subscriber : Subscriber
  stats : HandlerStats := {}
  deriving Repr

/-- **The subscriptions of the bus.** -/
structure Bus where
  closed : Bool := false
  /-- The next subscription id. The bus counts ids in a 64-bit word, so this unbounded counter
  is the bus's own only below `2^64` subscriptions, a count no run reaches. -/
  nextId : Nat := 1
  subscriptions : List Subscription := []
  deriving Repr

namespace Bus

/-- The written form of a subscription id. -/
def idText (id : Nat) : String := "sub-" ++ toString id

/-- **Subscribes a handler to a topic,** returning the id taken. -/
def subscribe (b : Bus) (topic : Topic) (s : Subscriber) : Bus × Nat :=
  let id := b.nextId
  let b := { b with nextId := id + 1 }
  if b.closed then (b, id)
  else ({ b with subscriptions := b.subscriptions ++ [{ id, topic, subscriber := s }] }, id)

/-- Removes a subscription of a topic; `true` when it was there. -/
def unsubscribe (b : Bus) (topic : Topic) (id : Nat) : Bus × Bool :=
  let present := b.subscriptions.any fun s => s.topic == topic && s.id == id
  ({ b with subscriptions := b.subscriptions.filter fun s => !(s.topic == topic && s.id == id) },
    present)

/-- Closes the bus and drops every subscription. -/
def close (b : Bus) : Bus := { b with closed := true, subscriptions := [] }

/-- The handlers of a topic, in subscription order. -/
def handlersOf (b : Bus) (topic : Topic) : List Subscription :=
  b.subscriptions.filter (·.topic == topic)

/-- The number of handlers of a topic. -/
def count (b : Bus) (topic : Topic) : Nat := (b.handlersOf topic).length

/-- The statistics of a subscription of a topic. -/
def stats? (b : Bus) (topic : Topic) (id : Nat) : Option HandlerStats :=
  (b.subscriptions.find? fun s => s.topic == topic && s.id == id).map (·.stats)

/-- Counts a call of a subscription that took `latency`, if the subscription is still there. -/
def recordCall (b : Bus) (id : Nat) (ok : Bool) (latency : Duration) : Bus :=
  { b with subscriptions := b.subscriptions.map fun s =>
      if s.id == id then
        { s with stats := if ok then s.stats.recordSuccess latency else s.stats.recordFailure latency }
      else s }

/-- The debug form, `EventBus { closed: false, inbound: 1, outbound: 0 }`. -/
def debugText (b : Bus) : String :=
  "EventBus \x7b closed: " ++ (if b.closed then "true" else "false") ++ ", inbound: " ++
    toString (b.count .inbound) ++ ", outbound: " ++ toString (b.count .outbound) ++ " \x7d"

end Bus

end ChatGateway
