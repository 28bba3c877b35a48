import ChatGateway.Json.Value

/-! # Chat messages

Messages travel between chat transports and the reasoning engine. An `InboundMessage` comes from
a user through a channel; an `OutboundMessage` goes back to a chat.

* Both carry a channel name, a chat id, text content, media attachments and free-form metadata
  (a JSON object); an inbound message also names its sender. Message ids and reply references
  are optional.
* `sessionKey` is `channel:chat_id`, the conversation a message belongs to.
* A message is *deliverable* when it has content or at least one attachment.
* `OutboundMessage.reply` answers an inbound message in the same chat, referring to the
  inbound message's id; content, media and metadata of the inbound message are not carried over.
* An outbound message is an *error reply* when its metadata has `error: true`.
-/

namespace ChatGateway

/-- **A media attachment:** a URL with an optional media type and file name. -/
structure Attachment where
  url : String
  mediaType : Option String := none
  fileName : Option String := none
  deriving Repr

/-- Metadata: the fields of a JSON object, in key order. -/
abbrev Metadata := List (String × Json)

/-- **A message from a user, received through a channel.** -/
structure InboundMessage where
  channel : String
  chatId : String
  senderId : String
  content : String
  media : List Attachment := []
  metadata : Metadata := []
  replyTo : Option String := none
  messageId : Option String := none
  inReplyTo : Option String := none
  deriving Repr

/-- **A message to a chat, sent through a channel.** -/
structure OutboundMessage where
  channel : String
  chatId : String
  content : String
  media : List Attachment := []
  metadata : Metadata := []
  replyTo : Option String := none
  messageId : Option String := none
  inReplyTo : Option String := none
  deriving Repr

namespace Attachment

/-- An attachment with a media type. -/
def withMediaType (a : Attachment) (t : String) : Attachment := { a with mediaType := some t }

end Attachment

namespace InboundMessage

/-- The conversation the message belongs to. -/
def sessionKey (m : InboundMessage) : String := m.channel ++ ":" ++ m.chatId

/-- Whether the message has content or media. -/
def isDeliverable (m : InboundMessage) : Bool := !m.content.isEmpty || !m.media.isEmpty

/-- The message with an id. -/
def withMessageId (m : InboundMessage) (id : String) : InboundMessage :=
  { m with messageId := some id }

/-- The message with one more attachment. -/
def withMedia (m : InboundMessage) (a : Attachment) : InboundMessage :=
  { m with media := m.media ++ [a] }

/-- The message with one metadata key set. -/
def withMetadata (m : InboundMessage) (k : String) (v : Json) : InboundMessage :=
  { m with metadata := Json.insertField k v m.metadata }

end InboundMessage

namespace OutboundMessage

/-- The conversation the message belongs to. -/
def sessionKey (m : OutboundMessage) : String := m.channel ++ ":" ++ m.chatId

/-- Whether the message has content or media. -/
def isDeliverable (m : OutboundMessage) : Bool := !m.content.isEmpty || !m.media.isEmpty

/-- **The reply to an inbound message:** same chat, referring to its id. -/
def reply (inbound : InboundMessage) (content : String) : OutboundMessage :=
  { channel := inbound.channel, chatId := inbound.chatId, content, inReplyTo := inbound.messageId }

/-- The message with its attachments replaced. -/
def withMedia (m : OutboundMessage) (media : List Attachment) : OutboundMessage := { m with media }

/-- The message with one metadata key set. -/
def withMetadata (m : OutboundMessage) (k : String) (v : Json) : OutboundMessage :=
  { m with metadata := Json.insertField k v m.metadata }

/-- Whether the message is an error reply. -/
def isError (m : OutboundMessage) : Bool :=
  match Json.lookupField "error" m.metadata with
  | some (.bool true) => true
  | _ => false

end OutboundMessage

end ChatGateway
