import ChatGateway.Bus.Event

/-! # Incidents

Components do not pass runtime failures across their boundaries: they describe each one as an
`Incident` and hand it to an observer. An incident has a one-line description
(`handler adapter panicked on message:inbound`) and a JSON form tagged by `kind`.
-/

namespace ChatGateway

/-- **A runtime failure, as reported to the observer.** -/
inductive Incident where
  | handlerFailed (topic : Topic) (handler error : String)
  | handlerPanicked (topic : Topic) (handler : String)
  | channelStartFailed (channel error : String)
  | channelStopFailed (channel error : String)
  | sendFailed (channel chatId error : String)
  | unroutable (channel chatId : String)
  | inboundRejected (channel reason : String)
  | completionCallbackFailed (taskId error : String)
  | serviceFailed (service action error : String)
  deriving Repr

namespace Incident

/-- **The one-line description of an incident.** -/
def text : Incident → String
  | .handlerFailed t h e => "handler " ++ h ++ " failed on " ++ t.name ++ ": " ++ e
  | .handlerPanicked t h => "handler " ++ h ++ " panicked on " ++ t.name
  | .channelStartFailed c e => "channel " ++ c ++ " failed to start: " ++ e
  | .channelStopFailed c e => "channel " ++ c ++ " failed to stop: " ++ e
  | .sendFailed c i e => "send to " ++ c ++ ":" ++ i ++ " failed: " ++ e
  | .unroutable c i => "no channel named " ++ c ++ " for chat " ++ i
  | .inboundRejected c r => "inbound message on " ++ c ++ " rejected: " ++ r
  | .completionCallbackFailed t e => "completion callback for task " ++ t ++ " failed: " ++ e
  | .serviceFailed s a e => "service " ++ s ++ " failed to " ++ a ++ ": " ++ e

/-- **The JSON form of an incident.** -/
def toJson : Incident → Json
  | .handlerFailed t h e => Json.object [("kind", .str "handler_failed"), ("topic", .str t.name),
      ("handler", .str h), ("error", .str e)]
  | .handlerPanicked t h => Json.object [("kind", .str "handler_panicked"),
      ("topic", .str t.name), ("handler", .str h)]
  | .channelStartFailed c e => Json.object [("kind", .str "channel_start_failed"),
      ("channel", .str c), ("error", .str e)]
  | .channelStopFailed c e => Json.object [("kind", .str "channel_stop_failed"),
      ("channel", .str c), ("error", .str e)]
  | .sendFailed c i e => Json.object [("kind", .str "send_failed"), ("channel", .str c),
      ("chat_id", .str i), ("error", .str e)]
  | .unroutable c i => Json.object [("kind", .str "unroutable"), ("channel", .str c),
      ("chat_id", .str i)]
  | .inboundRejected c r => Json.object [("kind", .str "inbound_rejected"), ("channel", .str c),
      ("reason", .str r)]
  | .completionCallbackFailed t e => Json.object [("kind", .str "completion_callback_failed"),
      ("task_id", .str t), ("error", .str e)]
  | .serviceFailed s a e => Json.object [("kind", .str "service_failed"), ("service", .str s),
      ("action", .str a), ("error", .str e)]

end Incident

end ChatGateway
