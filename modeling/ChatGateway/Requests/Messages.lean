import ChatGateway.Requests.Basic
import ChatGateway.Incident
import ChatGateway.Message.Error
import ChatGateway.Agent.Chat
import ChatGateway.Gateway.Error

/-! # Requests on messages, events, incidents and errors

Reading and writing messages and events, building messages and transcript entries, describing
incidents, and the wording of each library error.
-/

namespace ChatGateway

namespace Requests

/-- The outcome of a validation, as an error text or `null`. -/
def validationJson (v : Except MessageError Unit) : Json :=
  match v with
  | .ok () => .null
  | .error e => .str e.text

/-- `inbound`: an inbound message read and written back, with its derived values. -/
def inbound (r : Json) : Answer := do
  let m ← Request.decode r "message" InboundMessage.decode
  pure (Json.object [("message", m.toJson), ("session_key", .str m.sessionKey),
    ("is_deliverable", .bool m.isDeliverable), ("validate_error", validationJson m.validate)])

/-- `outbound`: an outbound message read and written back, with its derived values. -/
def outbound (r : Json) : Answer := do
  let m ← Request.decode r "message" OutboundMessage.decode
  pure (Json.object [("message", m.toJson), ("session_key", .str m.sessionKey),
    ("is_deliverable", .bool m.isDeliverable), ("validate_error", validationJson m.validate),
    ("is_error", .bool m.isError)])

/-- `reply_to`: the reply to an inbound message. -/
def replyTo (r : Json) : Answer := do
  let m ← Request.decode r "inbound" InboundMessage.decode
  let content ← Request.str r "content"
  pure (Json.object [("reply", (OutboundMessage.reply m content).toJson)])

/-- `bus_event`: a stamped event read and written back. -/
def busEvent (r : Json) : Answer := do
  let e ← Request.decode r "event" StampedEvent.decode
  pure (Json.object [("event", e.toJson), ("topic", .str e.event.topic.name),
    ("channel", .str e.event.channel), ("chat_id", .str e.event.chatId)])

/-- `event_timestamp`: the instant of a stamped event. -/
def eventTimestamp (r : Json) : Answer := do
  let e ← Request.decode r "event" StampedEvent.decode
  pure (Json.object [("timestamp", .str e.timestamp.render)])

/-- Builds an incident from its kind and fields. -/
def incidentOf (j : Json) : Except Failure Incident := do
  let kind ← Request.str j "kind"
  let s := Request.str j
  let topic : Except Failure Topic := Request.decode j "topic" Topic.decode
  match kind with
  | "handler_failed" => pure (.handlerFailed (← topic) (← s "handler") (← s "error"))
  | "handler_panicked" => pure (.handlerPanicked (← topic) (← s "handler"))
  | "channel_start_failed" => pure (.channelStartFailed (← s "channel") (← s "error"))
  | "channel_stop_failed" => pure (.channelStopFailed (← s "channel") (← s "error"))
  | "send_failed" => pure (.sendFailed (← s "channel") (← s "chat_id") (← s "error"))
  | "unroutable" => pure (.unroutable (← s "channel") (← s "chat_id"))
  | "inbound_rejected" => pure (.inboundRejected (← s "channel") (← s "reason"))
  | "completion_callback_failed" => pure (.completionCallbackFailed (← s "task_id") (← s "error"))
  | "service_failed" => pure (.serviceFailed (← s "service") (← s "action") (← s "error"))
  | other => .error (.badInput ("unknown incident kind " ++ other))

/-- `incident`: an incident's description and JSON form. -/
def incident (r : Json) : Answer := do
  let i ← incidentOf (← Request.field r "incident")
  pure (Json.object [("display", .str i.text), ("json", i.toJson)])

/-- An attachment given as `{url, media_type?}`; a missing or mistyped `url` is empty and a
mistyped `media_type` is absent. -/
def attachmentOf (j : Json) : Attachment :=
  let url := ((j.get? "url").bind Json.str?).getD ""
  match (j.get? "media_type").bind Json.str? with
  | some t => ({ url } : Attachment).withMediaType t
  | none => { url }

/-- `build_message`: a message built through the builders, and its event. -/
def buildMessage (r : Json) : Answer := do
  let kind ← Request.str r "kind"
  match kind with
  | "inbound" =>
    let channel ← Request.str r "channel"
    let chatId ← Request.str r "chat_id"
    let senderId ← Request.str r "sender_id"
    let content ← Request.str r "content"
    let m : InboundMessage := { channel, chatId, senderId, content }
    let m := match ← Request.strOpt r "message_id" with
      | some id => m.withMessageId id
      | none => m
    let media ← match r.get? "media" with
      | some (.arr xs) => pure (xs.map attachmentOf)
      | _ => pure []
    let m := media.foldl InboundMessage.withMedia m
    let m := (← Request.objOr r "metadata").foldl (fun m (k, v) => m.withMetadata k v) m
    pure (Json.object [("message", m.toJson), ("event", (BusEvent.inbound m).toJson)])
  | "outbound" =>
    let channel ← Request.str r "channel"
    let chatId ← Request.str r "chat_id"
    let content ← Request.str r "content"
    let m : OutboundMessage := { channel, chatId, content }
    let m ← match r.get? "media" with
      | some (.arr xs) => pure (m.withMedia (xs.map attachmentOf))
      | _ => pure m
    let m := (← Request.objOr r "metadata").foldl (fun m (k, v) => m.withMetadata k v) m
    pure (Json.object [("message", m.toJson), ("event", (BusEvent.outbound m).toJson)])
  | other => .error (.badInput ("unknown message kind " ++ other))

/-- A tool call given with optional fields. -/
def toolCallOf (j : Json) : ToolCall :=
  { id := ((j.get? "id").bind Json.str?).getD "", name := ((j.get? "name").bind Json.str?).getD "",
    arguments := (j.get? "arguments").getD .null }

/-- `chat_message`: a transcript entry built by its constructor. -/
def chatMessage (r : Json) : Answer := do
  let role ← Request.str r "role"
  let m : ChatMessage ← match role with
    | "system" => pure (.system (← Request.str r "content"))
    | "user" => pure (.user (← Request.str r "content"))
    | "assistant" => pure (.assistantText (← Request.str r "content"))
    | "assistant_with_tools" =>
      let calls := match r.get? "tool_calls" with
        | some (.arr xs) => xs.map toolCallOf
        | _ => []
      pure (.assistant (← Request.strOpt r "content") calls)
    | "tool" => pure (.tool (← Request.str r "tool_call_id") (← Request.str r "content"))
    | other => .error (.badInput ("unknown role " ++ other))
  pure (Json.object [("json", m.toJson)])

/-- The answer describing an error. -/
def errorJson (kind display : String) (cause : Option String) : Json :=
  Json.object [("kind", .str kind), ("display", .str display), ("source", Json.ofOption cause)]

/-- `error_display`: the wording of an error built from its parts. -/
def errorDisplay (r : Json) : Answer := do
  let crate ← Request.str r "crate"
  let kind ← Request.str r "kind"
  let s := Request.str r
  let unknown : Except Failure Json := .error (.badInput ("unknown kind " ++ kind))
  let shown (display : String) (cause : Option String := none) : Answer :=
    pure (errorJson kind display cause)
  match crate with
  | "common" =>
    match kind with
    | "message" | "from_message" => shown (MessageError.message (← s "message")).text
    | "empty_message" => shown (MessageError.emptyMessage (← s "channel") (← s "chat_id")).text
    | "json" =>
      match Json.parse (← s "text") with
      | .ok _ => pure (Json.object [("parsed", .bool true)])
      | .error e => shown (MessageError.json e).text
    | _ => unknown
  | "channels" =>
    let e : Except Failure ChannelError := match kind with
      | "duplicate_channel" => do pure (.duplicateChannel (← s "name"))
      | "unknown_channel" => do pure (.unknownChannel (← s "name"))
      | "sender_not_allowed" => do pure (.senderNotAllowed (← s "channel") (← s "sender_id"))
      | "unavailable" => do pure (.unavailable (← s "message"))
      | "invalid_message" => do
        pure (.invalidMessage (.emptyMessage (← s "channel") (← s "chat_id")))
      | "external" => do pure (.external (← s "context") (← s "message"))
      | _ => .error (.badInput ("unknown kind " ++ kind))
    let e ← e
    shown e.text e.cause
  | "cron" =>
    let e : Except Failure HeartbeatError := match kind with
      | "message" => do pure (.message (← s "message"))
      | "unknown_timezone" => do pure (.unknownTimezone (← s "timezone"))
      | "invalid_interval" => do pure (.invalidInterval (← s "value"))
      | "missing_target" => pure .missingTarget
      | _ => .error (.badInput ("unknown kind " ++ kind))
    shown (← e).text
  | "gateway" =>
    match kind with
    | "context_ok" => do let _ ← s "context"; pure (Json.object [("ok", .ofNat 7)])
    | "context_some" => do let _ ← s "context"; pure (Json.object [("ok", .ofNat 9)])
    | _ =>
      let e : Except Failure GatewayError := match kind with
        | "bus_closed" => pure .busClosed
        | "invalid_config" => do pure (.invalidConfig (← s "message"))
        | "from_message" => do pure (.message (← s "message"))
        | "channel" => do pure (.channel (.unknownChannel (← s "name")))
        | "heartbeat" => do pure (.heartbeat (.invalidInterval (← s "value")))
        | "context" => do pure (GatewayError.withContext (← s "context") (← s "message"))
        | "context_none" => do pure (.message (← s "context"))
        | _ => .error (.badInput ("unknown kind " ++ kind))
      let e ← e
      shown e.text e.cause
  | other => .error (.badInput ("unknown crate " ++ other))

end Requests

end ChatGateway
