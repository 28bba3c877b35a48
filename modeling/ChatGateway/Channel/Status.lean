import ChatGateway.Message.Error
import ChatGateway.Decode.Value

/-! # Channel status and channel errors

A channel moves through `not_started`, `starting`, `running`, `failed` and `stopped`.
`ChannelError` lists why a channel operation was refused, with the wording of each; an
external failure keeps the failing operation's own text as its cause.
-/

namespace ChatGateway

/-- **The lifecycle status of a channel.** -/
inductive ChannelStatus where
  | notStarted
  | starting
  | running
  | failed
  | stopped
  deriving Repr, DecidableEq, BEq

namespace ChannelStatus

/-- The snake_case name of a status. -/
def name : ChannelStatus → String
  | .notStarted => "not_started"
  | .starting => "starting"
  | .running => "running"
  | .failed => "failed"
  | .stopped => "stopped"

/-- All statuses, in lifecycle order. -/
def all : List ChannelStatus := [.notStarted, .starting, .running, .failed, .stopped]

/-- Reads a status name. -/
def decode : Decoder ChannelStatus := fun j => do
  let n ← Decoder.variant (all.map name) "enum ChannelStatus" j
  match all.find? (·.name == n) with
  | some s => pure s
  | none => .error (.unknownVariant n (all.map name))

end ChannelStatus

/-- **Why a channel operation was refused.** -/
inductive ChannelError where
  | duplicateChannel (name : String)
  | unknownChannel (name : String)
  | senderNotAllowed (channel senderId : String)
  | unavailable (message : String)
  | invalidMessage (e : MessageError)
  | external (context cause : String)
  deriving Repr

namespace ChannelError

/-- The wording of each error. -/
def text : ChannelError → String
  | .duplicateChannel n => "channel already registered: " ++ n
  | .unknownChannel n => "unknown channel: " ++ n
  | .senderNotAllowed c s => "sender " ++ s ++ " is not allowed on channel " ++ c
  | .unavailable m => "channel operation unavailable: " ++ m
  | .invalidMessage e => e.text
  | .external c m => "channel operation failed: " ++ c ++ ": " ++ m

/-- The kind name of each error. -/
def kind : ChannelError → String
  | .duplicateChannel _ => "duplicate_channel"
  | .unknownChannel _ => "unknown_channel"
  | .senderNotAllowed _ _ => "sender_not_allowed"
  | .unavailable _ => "unavailable"
  | .invalidMessage _ => "invalid_message"
  | .external _ _ => "external"

/-- The underlying cause, when the error has one. -/
def cause : ChannelError → Option String
  | .external _ m => some m
  | _ => none

end ChannelError

end ChatGateway
