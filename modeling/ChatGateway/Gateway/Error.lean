import ChatGateway.Channel.Status
import ChatGateway.Heartbeat.Error

/-! # Gateway errors

Why the gateway refused to start or be built: a closed bus, an invalid configuration, a channel
or heartbeat error passed through as it is, or a free message. `GatewayError.withContext` puts
a context in front of a failure's text (`loading config: file not found`).
-/

namespace ChatGateway

/-- **Why the gateway refused an operation.** -/
inductive GatewayError where
  | busClosed
  | invalidConfig (message : String)
  | channel (e : ChannelError)
  | heartbeat (e : HeartbeatError)
  | message (text : String)
  deriving Repr

namespace GatewayError

/-- The wording of each error. -/
def text : GatewayError → String
  | .busClosed => "event bus is closed"
  | .invalidConfig m => "invalid configuration: " ++ m
  | .channel e => e.text
  | .heartbeat e => e.text
  | .message t => t

/-- The kind name of each error. -/
def kind : GatewayError → String
  | .busClosed => "bus_closed"
  | .invalidConfig _ => "invalid_config"
  | .channel _ => "channel"
  | .heartbeat _ => "heartbeat"
  | .message _ => "message"

/-- The underlying cause, when the error has one. -/
def cause : GatewayError → Option String
  | .channel e => e.cause
  | _ => none

/-- A failure with a context put in front of its text. -/
def withContext (context failure : String) : GatewayError := .message (context ++ ": " ++ failure)

end GatewayError

end ChatGateway
