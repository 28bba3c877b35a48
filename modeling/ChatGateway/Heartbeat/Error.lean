import ChatGateway.Text.Debug

/-! # Heartbeat errors

The ways a heartbeat can be refused or fail, and how each is worded.
-/

namespace ChatGateway

/-- **Why a heartbeat could not be set up or run.** -/
inductive HeartbeatError where
  | unknownTimezone (timezone : String)
  | invalidInterval (value : String)
  | missingTarget
  | message (text : String)
  deriving Repr, DecidableEq

namespace HeartbeatError

/-- The wording of each error. -/
def text : HeartbeatError → String
  | .unknownTimezone tz => "unknown timezone: " ++ tz
  | .invalidInterval v => "invalid heartbeat interval: " ++ Text.debugQuote v
  | .missingTarget => "heartbeat has no delivery target"
  | .message m => m

/-- The kind name of each error. -/
def kind : HeartbeatError → String
  | .unknownTimezone _ => "unknown_timezone"
  | .invalidInterval _ => "invalid_interval"
  | .missingTarget => "missing_target"
  | .message _ => "message"

end HeartbeatError

end ChatGateway
