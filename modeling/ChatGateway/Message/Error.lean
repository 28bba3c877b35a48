import ChatGateway.Message.Basic
import ChatGateway.Json.Parse

/-! # Message errors

The errors that messages and JSON texts raise, and their wording: a free message, a JSON text
that could not be read, or a message with neither content nor media.
-/

namespace ChatGateway

/-- **Why a message was refused.** -/
inductive MessageError where
  | message (text : String)
  | json (e : SyntaxError)
  | emptyMessage (channel chatId : String)
  deriving Repr

namespace MessageError

/-- The wording of each error. -/
def text : MessageError → String
  | .message t => t
  | .json e => e.message
  | .emptyMessage c i => "message for " ++ c ++ ":" ++ i ++ " has no content and no media"

end MessageError

/-- A deliverable inbound message passes; any other is refused. -/
def InboundMessage.validate (m : InboundMessage) : Except MessageError Unit :=
  if m.isDeliverable then .ok () else .error (.emptyMessage m.channel m.chatId)

/-- A deliverable outbound message passes; any other is refused. -/
def OutboundMessage.validate (m : OutboundMessage) : Except MessageError Unit :=
  if m.isDeliverable then .ok () else .error (.emptyMessage m.channel m.chatId)

end ChatGateway
