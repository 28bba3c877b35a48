import ChatGateway.Proofs.Gateway.Calls
import ChatGateway.Proofs.Channel.Registry

/-! # Inbound messages pass the publisher's checks before the bus

A channel hands every message it receives to its `Publisher`. The publisher stamps the message
with the channel's own name, whatever channel the message claimed, and then checks it twice, in
this order: the message must be deliverable (some content or an attachment), and its sender must
be admitted by the channel's allowlist. Only a message that passes both reaches the bus.

* `Publisher.prepare_of_not_deliverable`, `Publisher.prepare_of_refused`,
  `Publisher.prepare_of_admitted`: what the checks decide, case by case.
* `Publisher.poll_publish_of_error`, `Publisher.poll_publish_of_ok`: a publish ends within one
  poll; a refusal changes nothing but the incidents it reports, and a message that passes is
  published as one event.
* `Publisher.publish_gated`: the whole, on every executor: an empty message is refused naming
  the channel and chat and changes nothing; a refused sender is refused, reported once and not
  published; any other message is published once, stamped with the channel's name, and nothing
  is reported.
-/

namespace ChatGateway

open Scheduling Scheduling.Executor

namespace Publisher

/-! ## (1) The checks on a message -/

/-- Stamping a message with a channel keeps whether it can be delivered. -/
@[simp] theorem isDeliverable_stamp (m : InboundMessage) (channel : String) :
    ({ m with channel } : InboundMessage).isDeliverable = m.isDeliverable := rfl

/-- **A message with neither content nor media is refused** as empty, naming the publisher's
channel and the message's chat; nobody is reported. -/
theorem prepare_of_not_deliverable (p : Publisher) {m : InboundMessage}
    (h : m.isDeliverable = false) :
    p.prepare m = .error (.invalidMessage (.emptyMessage p.channel m.chatId), none) := by
  simp [prepare, InboundMessage.validate, h]

/-- **A deliverable message from a sender the allowlist does not admit is refused,** and the
refusal is reported as an incident of the publisher's channel. -/
theorem prepare_of_refused (p : Publisher) {m : InboundMessage} (h : m.isDeliverable = true)
    (hs : p.allows m.senderId = false) :
    p.prepare m = .error (.senderNotAllowed p.channel m.senderId,
      some (.inboundRejected p.channel ("sender " ++ m.senderId ++ " not allowed"))) := by
  simp [prepare, InboundMessage.validate, h, hs]

/-- **A deliverable message from an admitted sender passes,** stamped with the channel's name. -/
theorem prepare_of_admitted (p : Publisher) {m : InboundMessage} (h : m.isDeliverable = true)
    (hs : p.allows m.senderId = true) : p.prepare m = .ok { m with channel := p.channel } := by
  simp [prepare, InboundMessage.validate, h, hs]

/-! ## (2) One poll of a publish -/

/-- **A refused message is not published:** the poll ends with the refusal, and the executor
changes only by the incidents reported. -/
theorem poll_publish_of_error {p : Publisher} {m : InboundMessage} {e : ChannelError}
    {incident : Option Incident} (h : p.prepare m = .error (e, incident)) (me : Nat) (ex : Exec) :
    poll me ex (p.publish m) =
      ({ ex with shared := incident.toList.foldl Deployment.observe ex.shared }, .pure (.error e)) := by
  simp only [publish, Program.bind_def, Program.pure_def, Scheduling.Program.update, Program.bind,
    poll, h]

/-- **A message that passes is published once,** within the same poll: on an open bus one
dispatcher of the inbound handlers is started for it, and a closed bus drops it. -/
theorem poll_publish_of_ok {p : Publisher} {m m' : InboundMessage} (h : p.prepare m = .ok m')
    (me : Nat) (ex : Exec) :
    poll me ex (p.publish m) =
      if ex.shared.bus.closed then (ex, .pure (.ok {}))
      else (Delivery.published ex (.inbound m'), .pure (.ok
        ⟨(ex.shared.bus.handlersOf .inbound).length, some (ex.tasks.size, ex.shared.nextDispatch)⟩)) := by
  have hstep : poll me ex (p.publish m) =
      poll me ex ((Delivery.publish (.inbound m')).bind fun d => .pure (.ok d)) := by
    simp only [publish, Program.bind_def, Program.pure_def, Scheduling.Program.update,
      Program.bind, poll, h]
  -- The publish itself ends within the poll, and its delivery is handed back as it is.
  rw [hstep, poll_bind, Delivery.poll_publish]
  by_cases hclosed : ex.shared.bus.closed = true
  · simp only [hclosed, if_true, poll]
  · simp only [hclosed, Bool.false_eq_true, if_false, poll]
    rfl

/-- Publishing an event reports nothing. -/
@[simp] theorem incidents_published (ex : Exec) (e : BusEvent) :
    (Delivery.published ex e).shared.incidents = ex.shared.incidents := rfl

/-! ## (3) The whole -/

/-- **Inbound gating.** Publishing `m` through the publisher of channel `p.channel`, whose
allowlist is `p.allowlist`, ends within one poll from any executor. A message with neither
content nor media is refused as empty, naming the channel and the message's chat, and the
executor is left exactly as it was. Otherwise a sender the allowlist does not admit is refused
as not allowed on the channel, one `InboundRejected` incident of the channel is reported and
nothing else changes. Otherwise the message, with its channel replaced by `p.channel`, is
published as one inbound event: on an open bus its dispatcher is started for the handlers
subscribed now, and a closed bus drops it. The incidents grow by the one rejection at most. -/
theorem publish_gated (p : Publisher) (m : InboundMessage) (me : Nat) (ex : Exec) :
    let rejection := Incident.inboundRejected p.channel ("sender " ++ m.senderId ++ " not allowed")
    let admitted := (Allowlist.mk p.allowlist).admits m.senderId
    poll me ex (p.publish m) =
      (if m.isDeliverable = false then
        (ex, .pure (.error (.invalidMessage (.emptyMessage p.channel m.chatId))))
      else if admitted = false then
        ({ ex with shared := ex.shared.observe rejection },
          .pure (.error (.senderNotAllowed p.channel m.senderId)))
      else if ex.shared.bus.closed then (ex, .pure (.ok {}))
      else (Delivery.published ex (.inbound { m with channel := p.channel }), .pure (.ok
        ⟨(ex.shared.bus.handlersOf .inbound).length, some (ex.tasks.size, ex.shared.nextDispatch)⟩))) ∧
    (poll me ex (p.publish m)).1.shared.incidents = ex.shared.incidents ++
      if m.isDeliverable && !admitted && ex.shared.recording then [rejection] else [] := by
  intro rejection admitted
  -- The three outcomes of the checks, each with the poll it leads to.
  cases hd : m.isDeliverable with
  | false =>
    rw [poll_publish_of_error (prepare_of_not_deliverable p hd)]
    simp
  | true =>
    cases hs : p.allows m.senderId with
    | false =>
      have ha : admitted = false := hs
      rw [poll_publish_of_error (prepare_of_refused p hd hs)]
      refine ⟨by simp [ha]; rfl, ?_⟩
      rw [Deployment.foldl_observe_incidents]
      simp [ha, rejection]
    | true =>
      have ha : admitted = true := hs
      rw [poll_publish_of_ok (prepare_of_admitted p hd hs)]
      -- Publishing reports nothing, whether the bus is open or closed.
      by_cases hclosed : ex.shared.bus.closed = true <;> simp [ha, hclosed]

end Publisher

end ChatGateway
