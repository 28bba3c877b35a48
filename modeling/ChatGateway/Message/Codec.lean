import ChatGateway.Message.Basic
import ChatGateway.Decode.Value

/-! # Messages as JSON

Messages are written as JSON objects with snake_case keys (`chat_id`, `sender_id`, `media_type`);
`media` and `metadata` are always written, the optional ids only when present. Reading accepts
objects whose `media` and `metadata` may be missing (empty), ignores unknown keys, and reports
the first problem as a `DecodeError`.
-/

namespace ChatGateway

namespace Attachment

/-- The JSON object of an attachment. -/
def toJson (a : Attachment) : Json :=
  Json.object ([("url", Json.str a.url)] ++
    (a.mediaType.map fun t => [("media_type", Json.str t)]).getD [] ++
    (a.fileName.map fun t => [("file_name", Json.str t)]).getD [])

/-- The fields of an attachment. -/
def fields : List FieldSpec :=
  [.need "url" Decoder.string, .maybe "media_type" (Decoder.option Decoder.string),
   .maybe "file_name" (Decoder.option Decoder.string)]

/-- Reads an attachment. -/
def decode : Decoder Attachment := fun j => do
  let fs ← Decoder.record "struct MediaAttachment" fields j
  pure { url := ← Decoder.field fs "url" Decoder.string
         mediaType := ← Decoder.fieldOpt fs "media_type" Decoder.string
         fileName := ← Decoder.fieldOpt fs "file_name" Decoder.string }

end Attachment

/-- The optional string fields of a message, as JSON fields. -/
def optionalIds (replyTo messageId inReplyTo : Option String) : List (String × Json) :=
  (replyTo.map fun v => [("reply_to", Json.str v)]).getD [] ++
  (messageId.map fun v => [("message_id", Json.str v)]).getD [] ++
  (inReplyTo.map fun v => [("in_reply_to", Json.str v)]).getD []

namespace InboundMessage

/-- The JSON object of an inbound message. -/
def toJson (m : InboundMessage) : Json :=
  Json.object ([("channel", .str m.channel), ("chat_id", .str m.chatId),
    ("sender_id", .str m.senderId), ("content", .str m.content),
    ("media", .arr (m.media.map Attachment.toJson)), ("metadata", .obj m.metadata)] ++
    optionalIds m.replyTo m.messageId m.inReplyTo)

/-- The fields of an inbound message. -/
def fields : List FieldSpec :=
  [.need "channel" Decoder.string, .need "chat_id" Decoder.string,
   .need "sender_id" Decoder.string, .need "content" Decoder.string,
   .maybe "media" (Decoder.list Attachment.decode), .maybe "metadata" Decoder.object,
   .maybe "reply_to" (Decoder.option Decoder.string),
   .maybe "message_id" (Decoder.option Decoder.string),
   .maybe "in_reply_to" (Decoder.option Decoder.string)]

/-- **Reads an inbound message.** -/
def decode : Decoder InboundMessage := fun j => do
  let fs ← Decoder.record "struct InboundMessage" fields j
  pure { channel := ← Decoder.field fs "channel" Decoder.string
         chatId := ← Decoder.field fs "chat_id" Decoder.string
         senderId := ← Decoder.field fs "sender_id" Decoder.string
         content := ← Decoder.field fs "content" Decoder.string
         media := ← Decoder.fieldOr fs "media" [] (Decoder.list Attachment.decode)
         metadata := ← Decoder.fieldOr fs "metadata" [] Decoder.object
         replyTo := ← Decoder.fieldOpt fs "reply_to" Decoder.string
         messageId := ← Decoder.fieldOpt fs "message_id" Decoder.string
         inReplyTo := ← Decoder.fieldOpt fs "in_reply_to" Decoder.string }

end InboundMessage

namespace OutboundMessage

/-- The JSON object of an outbound message. -/
def toJson (m : OutboundMessage) : Json :=
  Json.object ([("channel", .str m.channel), ("chat_id", .str m.chatId),
    ("content", .str m.content), ("media", .arr (m.media.map Attachment.toJson)),
    ("metadata", .obj m.metadata)] ++ optionalIds m.replyTo m.messageId m.inReplyTo)

/-- The fields of an outbound message. -/
def fields : List FieldSpec :=
  [.need "channel" Decoder.string, .need "chat_id" Decoder.string,
   .need "content" Decoder.string,
   .maybe "media" (Decoder.list Attachment.decode), .maybe "metadata" Decoder.object,
   .maybe "reply_to" (Decoder.option Decoder.string),
   .maybe "message_id" (Decoder.option Decoder.string),
   .maybe "in_reply_to" (Decoder.option Decoder.string)]

/-- **Reads an outbound message.** -/
def decode : Decoder OutboundMessage := fun j => do
  let fs ← Decoder.record "struct OutboundMessage" fields j
  pure { channel := ← Decoder.field fs "channel" Decoder.string
         chatId := ← Decoder.field fs "chat_id" Decoder.string
         content := ← Decoder.field fs "content" Decoder.string
         media := ← Decoder.fieldOr fs "media" [] (Decoder.list Attachment.decode)
         metadata := ← Decoder.fieldOr fs "metadata" [] Decoder.object
         replyTo := ← Decoder.fieldOpt fs "reply_to" Decoder.string
         messageId := ← Decoder.fieldOpt fs "message_id" Decoder.string
         inReplyTo := ← Decoder.fieldOpt fs "in_reply_to" Decoder.string }

end OutboundMessage

end ChatGateway
