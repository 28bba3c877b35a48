import ChatGateway.Message.Codec
import ChatGateway.Time.Timestamp

/-! # Bus events and topics

The bus carries two topics: `message:inbound` for messages from users and `message:outbound`
for replies. A `BusEvent` is a message on its topic. A `StampedEvent` adds the instant it was
published, which only the explicit event codec shows: inside the library events are compared
and recorded without it.

Events are written as JSON objects tagged by `kind` (`inbound` or `outbound`), with the message
under `message` and, when stamped, the instant under `timestamp`.
-/

namespace ChatGateway

/-- **A bus topic.** -/
inductive Topic where
  | inbound
  | outbound
  deriving Repr, DecidableEq, BEq

namespace Topic

/-- The name of a topic. -/
def name : Topic → String
  | .inbound => "message:inbound"
  | .outbound => "message:outbound"

/-- Reads a topic name. -/
def decode : Decoder Topic := fun j =>
  match j with
  | .str "message:inbound" => .ok .inbound
  | .str "message:outbound" => .ok .outbound
  | .str s => .error (.unknownVariant s ["message:inbound", "message:outbound"])
  | other => .error (.invalidType (.ofJson other) "string or map")

end Topic

/-- **A message on its topic.** -/
inductive BusEvent where
  | inbound (m : InboundMessage)
  | outbound (m : OutboundMessage)
  deriving Repr

/-- **An event with the instant it was published.** -/
structure StampedEvent where
  event : BusEvent
  timestamp : Timestamp
  deriving Repr

namespace BusEvent

/-- The topic of an event. -/
def topic : BusEvent → Topic
  | .inbound _ => .inbound
  | .outbound _ => .outbound

/-- The channel an event concerns. -/
def channel : BusEvent → String
  | .inbound m => m.channel
  | .outbound m => m.channel

/-- The chat an event concerns. -/
def chatId : BusEvent → String
  | .inbound m => m.chatId
  | .outbound m => m.chatId

/-- The content of an event's message. -/
def content : BusEvent → String
  | .inbound m => m.content
  | .outbound m => m.content

/-- The JSON fields of an event, without a timestamp. -/
def jsonFields : BusEvent → List (String × Json)
  | .inbound m => [("kind", .str "inbound"), ("message", m.toJson)]
  | .outbound m => [("kind", .str "outbound"), ("message", m.toJson)]

/-- The JSON object of an event, without a timestamp. -/
def toJson (e : BusEvent) : Json := Json.object e.jsonFields

end BusEvent

namespace StampedEvent

/-- The JSON object of a stamped event. -/
def toJson (e : StampedEvent) : Json :=
  Json.object (e.event.jsonFields ++ [("timestamp", .str e.timestamp.render)])

/-- Reads a timestamp text. -/
def decodeTimestamp : Decoder Timestamp
  | .str s => (Timestamp.parse s).mapError fun i => .custom i.text
  | j => .error (.invalidType (.ofJson j) "an RFC 3339 formatted date and time string")

/-- Reads the tag of an internally tagged value among `names`. -/
def decodeTag (names : List String) : Decoder String
  | .str s => if names.contains s then .ok s else .error (.unknownVariant s names)
  | .num (.nat n) =>
    match names[n]? with
    | some s => .ok s
    | none => .error (.invalidValue (.unsigned n)
        ("variant index 0 <= i < " ++ toString names.length))
  | j => .error (.invalidType (.ofJson j) "variant identifier")

/-- **Reads a stamped event.** -/
def decode : Decoder StampedEvent
  | .obj fs => do
    let tag ← match Json.lookupField "kind" fs with
      | some t => decodeTag ["inbound", "outbound"] t
      | none => .error (.missingField "kind")
    let rest := Json.eraseField "kind" fs
    if tag = "inbound" then
      let fs ← Decoder.record "struct variant BusEvent::Inbound"
        [.need "message" InboundMessage.decode, .need "timestamp" decodeTimestamp] (.obj rest)
      pure ⟨.inbound (← Decoder.field fs "message" InboundMessage.decode),
        ← Decoder.field fs "timestamp" decodeTimestamp⟩
    else
      let fs ← Decoder.record "struct variant BusEvent::Outbound"
        [.need "message" OutboundMessage.decode, .need "timestamp" decodeTimestamp] (.obj rest)
      pure ⟨.outbound (← Decoder.field fs "message" OutboundMessage.decode),
        ← Decoder.field fs "timestamp" decodeTimestamp⟩
  | j => .error (.invalidType (.ofJson j) "internally tagged enum BusEvent")

end StampedEvent

end ChatGateway
