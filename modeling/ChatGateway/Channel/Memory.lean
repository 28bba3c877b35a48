import ChatGateway.Allowlist
import ChatGateway.Channel.Status
import ChatGateway.Incident

/-! # In-process channels

A `MemoryChannel` is a channel that lives inside the process: it records every message sent to
it and lets its owner inject inbound messages as if a user had sent them. Each operation can be
made to fail with a fixed message.

* `start` counts the call and, unless it is made to fail, marks the channel running; `stop`
  counts the call and marks it stopped, then fails if it is made to fail. A call takes effect when
  it is made and answers once the channel's delay for it has passed: no time for a channel in
  the process, any scripted time for a channel that stands for an outside transport.
* `send` records the message unless sending is made to fail.
* `inject` needs a running channel that is bound to a `Publisher`.

A `Publisher` is bound to one channel name and carries that channel's sender allowlist:
`Publisher.prepare` stamps a message with the channel name, validates it, and checks its sender.
-/

namespace ChatGateway

/-- **The handle that puts a channel's inbound messages on the bus.** -/
structure Publisher where
  channel : String
  allowlist : List String := []
  deriving Repr

namespace Publisher

/-- Whether a sender may send on this channel. -/
def allows (p : Publisher) (sender : String) : Bool := (Allowlist.mk p.allowlist).admits sender

/-- **Prepares a message for publishing,** or says why it is refused; a refused sender is
also reported as an incident. -/
def prepare (p : Publisher) (m : InboundMessage) :
    Except (ChannelError × Option Incident) InboundMessage :=
  let m := { m with channel := p.channel }
  match m.validate with
  | .error e => .error (.invalidMessage e, none)
  | .ok () =>
    if p.allows m.senderId then .ok m
    else .error (.senderNotAllowed p.channel m.senderId,
      some (.inboundRejected p.channel ("sender " ++ m.senderId ++ " not allowed")))

/-- The debug form, `InboundPublisher { channel: "slack", allowlist: 2 }`. -/
def debugText (p : Publisher) : String :=
  "InboundPublisher \x7b channel: " ++ Text.debugQuote p.channel ++ ", allowlist: " ++
    toString p.allowlist.length ++ " \x7d"

end Publisher

/-- **A channel inside the process,** with scripted failures. -/
structure MemoryChannel where
  name : String
  publisher : Option Publisher := none
  sent : List OutboundMessage := []
  running : Bool := false
  starts : Nat := 0
  stops : Nat := 0
  failStart : Option String := none
  failStop : Option String := none
  failSend : Option String := none
  startDelayMs : Nat := 0
  stopDelayMs : Nat := 0
  deriving Repr

namespace MemoryChannel

/-- **Starts the channel;** the error text when it is made to fail. -/
def start (c : MemoryChannel) : MemoryChannel × Except String Unit :=
  let c := { c with starts := c.starts + 1 }
  match c.failStart with
  | some e => (c, .error e)
  | none => ({ c with running := true }, .ok ())

/-- **Stops the channel;** it is stopped even when the call fails. -/
def stop (c : MemoryChannel) : MemoryChannel × Except String Unit :=
  let c := { c with stops := c.stops + 1, running := false }
  match c.failStop with
  | some e => (c, .error e)
  | none => (c, .ok ())

/-- **Delivers a message:** it is recorded unless sending is made to fail. -/
def send (c : MemoryChannel) (m : OutboundMessage) : MemoryChannel × Except String Unit :=
  match c.failSend with
  | some e => (c, .error e)
  | none => ({ c with sent := c.sent ++ [m] }, .ok ())

/-- **The publisher an injected message goes through,** or why there is none. -/
def injector (c : MemoryChannel) : Except ChannelError Publisher :=
  if !c.running then .error (.unavailable ("channel " ++ c.name ++ " is not running"))
  else match c.publisher with
    | some p => .ok p
    | none => .error (.unavailable ("channel " ++ c.name ++ " has no publisher"))

end MemoryChannel

end ChatGateway
