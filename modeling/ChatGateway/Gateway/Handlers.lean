import ChatGateway.Gateway.Delivery
import ChatGateway.Gateway.Reasoning

/-! # Bus handlers

Each handler task runs one `Subscriber` on one event inside its own error boundary: a success
or a failure is counted in the subscription's statistics, and a failure or panic is reported as
an incident naming the topic and the handler.

* A scripted handler waits its delay, then records the event in the event log, fails, panics,
  or fails only on a given content.
* The responder answers every inbound message with exactly one outbound message to the same
  chat: the engine's reply with its attachments and metadata, or an error reply
  (`Error: …`, metadata `error: true`) when the engine fails, panics, or gives nothing to
  deliver. It waits until that reply has been handled. With per-chat ordering it holds the
  chat's lock while it answers, so the messages of a chat are answered one at a time, in order.
* The router delivers outbound messages to the channel they name; a missing channel or a failed
  send is an incident, never a handler failure.
-/

namespace ChatGateway

open Scheduling.Program (update modify read now sleep catching)

namespace Handlers

/-- The error text of a reply with neither text nor media. -/
def emptyReplyError : String := "the reasoning engine returned an empty reply"

/-- The error reply to an inbound message. -/
def errorReply (m : InboundMessage) (error : String) : OutboundMessage :=
  (OutboundMessage.reply m ("Error: " ++ error)).withMetadata "error" (.bool true)

/-- **The outbound message answering an inbound one,** from the engine's outcome. -/
def answerOf (m : InboundMessage) (reply : Except String EngineReply) : OutboundMessage :=
  match reply with
  | .ok r =>
    let o := (OutboundMessage.reply m r.text).withMedia r.media
    let metadata := r.metadata.foldl (fun acc (k, v) => Json.insertField k v acc) o.metadata
    let o := { o with metadata }
    if o.isDeliverable then o else errorReply m emptyReplyError
  | .error e => errorReply m e

/-- **Answers one inbound message** and waits until the answer has been handled. -/
def respond (m : InboundMessage) : Act Unit := do
  let outcome ← catching (Reasoning.process m)
  let out ← match outcome with
    | .ok r => pure (answerOf m r)
    | .error p => do
      modify (·.observe (.handlerPanicked .inbound (Subscriber.responder none).name))
      pure (errorReply m ("reasoning engine panicked: " ++ p))
  let delivery ← Delivery.publish (.outbound out)
  delivery.settled

/-- Takes a user's place on the lock of a chat in a lock set, making the lock if needed. -/
def acquire (locks : Nat) (key : String) (d : Deployment) : Deployment × Nat :=
  match d.chatLocks.find? fun l => l.locks == locks && l.key == key with
  | some l =>
    let chatLocks := d.chatLocks.map fun u =>
      if u.locks == locks && u.key == key then { u with users := u.users + 1 } else u
    ({ d with chatLocks }, l.mutex)
  | none =>
    ({ d with chatLocks := d.chatLocks ++ [⟨locks, key, d.nextMutex, 1⟩],
              nextMutex := d.nextMutex + 1 }, d.nextMutex)

/-- Gives up a user's place on a chat's lock; the lock goes when its last user leaves. -/
def release (locks : Nat) (key : String) (d : Deployment) : Deployment :=
  let here := fun (l : ChatLock) => l.locks == locks && l.key == key
  match d.chatLocks.find? here with
  | some l =>
    let chatLocks :=
      if l.users ≤ 1 then d.chatLocks.filter fun u => !here u
      else d.chatLocks.map fun u => if here u then { u with users := u.users - 1 } else u
    { d with chatLocks }
  | none => d

/-- **Delivers an outbound message** to the channel it names. -/
def route (m : OutboundMessage) (d : Deployment) : Deployment :=
  match d.channels.entry? m.channel with
  | none => d.observe (.unroutable m.channel m.chatId)
  | some e =>
    let (c, r) := e.channel.send m
    let d := { d with channels := d.channels.modifyChannel m.channel fun _ => c }
    match r with
    | .ok () => d
    | .error err => d.observe (.sendFailed m.channel m.chatId err)

/-- **What a subscriber does with an event.** -/
def handle (s : Subscriber) (e : BusEvent) : Act (Except String Unit) :=
  match s with
  | .scripted name b => do
    sleep b.delayMs
    let record : Act (Except String Unit) := do
      let entry := Json.object [("handler", .str name), ("event", e.toJson)]
      modify fun (d : Deployment) => { d with events := d.events ++ [entry] }
      pure (.ok ())
    match b.action with
    | .record => record
    | .fail m => pure (.error m)
    | .panic m => .panic m
    | .failOn c m => if e.content == c then pure (.error m) else record
  | .responder locks =>
    match e with
    | .outbound _ => pure (.ok ())
    | .inbound m =>
      match locks with
      | none => do
        respond m
        pure (.ok ())
      | some set => do
        let key := m.sessionKey
        let mutex ← update (acquire set key)
        .lock mutex none pure
        respond m
        .unlock mutex pure
        modify (release set key)
        pure (.ok ())
  | .router =>
    match e with
    | .inbound _ => pure (.ok ())
    | .outbound m => do
      modify (route m)
      pure (.ok ())

/-- **The report of a handler's outcome** after `latency`: a call in the subscription's
statistics, failed on an error or a panic, which is also an incident naming the topic and the
handler. -/
def report (h : Subscription) (e : BusEvent) (r : Except String (Except String Unit))
    (latency : Duration) (d : Deployment) : Deployment :=
  match r with
  | .ok (.ok ()) => { d with bus := d.bus.recordCall h.id true latency }
  | .ok (.error err) =>
    { d with bus := d.bus.recordCall h.id false latency }.observe
      (.handlerFailed e.topic h.subscriber.name err)
  | .error _ =>
    { d with bus := d.bus.recordCall h.id false latency }.observe
      (.handlerPanicked e.topic h.subscriber.name)

/-- **A handler task:** runs the handler and reports its outcome with the virtual time it took,
from the task's first poll to the handler's end. -/
def run (h : Subscription) (e : BusEvent) : Act Unit := do
  let start ← now
  let r ← catching (handle h.subscriber e)
  let finish ← now
  modify (report h e r (Duration.ofMillis (finish - start)))

end Handlers

end ChatGateway
