import ChatGateway.Decode.Value

/-! # The configuration

`Config` holds the gateway's settings in four sections: the gateway itself (chat ordering and
logging), the sub-agent budget, the heartbeat, and the channels' sender allowlists. Every field
has a default, so an empty document is a complete configuration.

* `Config.toJson` writes a configuration with every field, `null` for an absent prompt or
  delivery target.
* `Config.decode` reads a JSON value the way a typed reader with defaults does: every section
  and field may be missing; a present one must have the right type, the first wrong one in key
  order failing; unknown keys are ignored. A delivery target, once present, needs both its
  channel and its chat id. An array is read positionally.
-/

namespace ChatGateway

/-- **How the messages of one chat are scheduled against the reasoning engine.** -/
inductive ChatOrdering where
  /-- Every message is handled as soon as it arrives. -/
  | concurrent
  /-- The messages of one chat are handled one at a time, in order. -/
  | perChat
  deriving Repr, DecidableEq, BEq

namespace ChatOrdering

/-- The snake_case name of an ordering. -/
def name : ChatOrdering → String
  | .concurrent => "concurrent"
  | .perChat => "per_chat"

/-- The orderings by name. -/
def names : List String := ["concurrent", "per_chat"]

/-- The ordering of a name; anything but `per_chat` is concurrent. -/
def ofName (s : String) : ChatOrdering := if s = "per_chat" then .perChat else .concurrent

/-- Reads an ordering: its name, or an object with its name as the only key and `null` as value. -/
def decode : Decoder ChatOrdering
  | .str s =>
    if names.contains s then .ok (ofName s) else .error (.unknownVariant s names)
  | .obj [(k, v)] =>
    if names.contains k then
      match v with
      | .null => .ok (ofName k)
      | other => .error (.invalidType (.ofJson other) "unit")
    else .error (.unknownVariant k names)
  | .obj _ => .error (.invalidValue .map "map with a single key")
  | j => .error (.invalidType (.ofJson j) "enum ChatOrderingMode")

end ChatOrdering

/-- **Gateway settings.** -/
structure GatewaySettings where
  chatOrdering : ChatOrdering := .concurrent
  logLevel : String := "info"
  jsonLogs : Bool := false
  deriving Repr

/-- **The budget of background sub-agents.** -/
structure SubagentSettings where
  timeoutSecs : Nat := 300
  maxIterations : Nat := 15
  maxRetained : Nat := 100
  deriving Repr

/-- **The daily window in which heartbeats run,** as written. -/
structure ActiveHours where
  start : String := "08:00"
  finish : String := "24:00"
  timezone : String := "local"
  deriving Repr

/-- **A channel and chat that messages can be addressed to.** -/
structure DeliveryTarget where
  channel : String
  chatId : String
  deriving Repr

/-- **Heartbeat settings.** -/
structure HeartbeatSettings where
  enabled : Bool := false
  every : String := "30m"
  prompt : Option String := none
  ackMaxChars : Nat := 300
  activeHours : ActiveHours := {}
  deliverTo : Option DeliveryTarget := none
  deriving Repr

/-- **Channel settings:** the sender allowlist of each channel name. -/
structure ChannelSettings where
  allowFrom : List (String × List String) := []
  deriving Repr

/-- **The gateway configuration.** -/
structure Config where
  gateway : GatewaySettings := {}
  subagents : SubagentSettings := {}
  heartbeat : HeartbeatSettings := {}
  channels : ChannelSettings := {}
  deriving Repr

namespace Config

/-- A list of strings as a JSON array. -/
def strings (xs : List String) : Json := .arr (xs.map Json.str)

/-- The JSON object of a delivery target. -/
def targetJson (t : DeliveryTarget) : Json :=
  Json.object [("channel", .str t.channel), ("chat_id", .str t.chatId)]

/-- The JSON object of the heartbeat settings. -/
def heartbeatJson (h : HeartbeatSettings) : Json :=
  Json.object [("enabled", .bool h.enabled), ("every", .str h.every),
    ("prompt", Json.ofOption h.prompt), ("ack_max_chars", .ofNat h.ackMaxChars),
    ("active_hours", Json.object [("start", .str h.activeHours.start),
      ("end", .str h.activeHours.finish), ("timezone", .str h.activeHours.timezone)]),
    ("deliver_to", match h.deliverTo with
      | some t => targetJson t
      | none => .null)]

/-- **The JSON object of a configuration,** every field written. -/
def toJson (c : Config) : Json :=
  Json.object [
    ("gateway", Json.object [("chat_ordering", .str c.gateway.chatOrdering.name),
      ("log_level", .str c.gateway.logLevel), ("json_logs", .bool c.gateway.jsonLogs)]),
    ("subagents", Json.object [("timeout_secs", .ofNat c.subagents.timeoutSecs),
      ("max_iterations", .ofNat c.subagents.maxIterations),
      ("max_retained", .ofNat c.subagents.maxRetained)]),
    ("heartbeat", heartbeatJson c.heartbeat),
    ("channels", Json.object [("allow_from",
      Json.object (c.channels.allowFrom.map fun (k, v) => (k, strings v)))])]

/-- Reads a string-to-strings map. -/
def decodeAllowFrom : Decoder (List (String × List String)) := fun j => do
  let fs ← Decoder.object j
  fs.mapM fun (k, v) => do
    let xs ← Decoder.list Decoder.string v
    pure (k, xs)

/-- Reads a delivery target; both fields are required. -/
def decodeTarget : Decoder DeliveryTarget := fun j => do
  let fs ← Decoder.record "struct DeliveryTarget"
    [.need "channel" Decoder.string, .need "chat_id" Decoder.string] j
  let channel ← Decoder.field fs "channel" Decoder.string
  let chatId ← Decoder.field fs "chat_id" Decoder.string
  pure { channel, chatId }

/-- Reads the active hours. -/
def decodeActiveHours : Decoder ActiveHours := fun j => do
  let fs ← Decoder.record "struct ActiveHoursConfig"
    [.maybe "start" Decoder.string, .maybe "end" Decoder.string,
      .maybe "timezone" Decoder.string] j
  let start ← Decoder.fieldOr fs "start" "08:00" Decoder.string
  let finish ← Decoder.fieldOr fs "end" "24:00" Decoder.string
  let timezone ← Decoder.fieldOr fs "timezone" "local" Decoder.string
  pure { start, finish, timezone }

/-- **Reads the heartbeat settings.** -/
def decodeHeartbeat : Decoder HeartbeatSettings := fun j => do
  let fs ← Decoder.record "struct HeartbeatConfig"
    [.maybe "enabled" Decoder.bool, .maybe "every" Decoder.string,
      .maybe "prompt" (Decoder.option Decoder.string), .maybe "ack_max_chars" Decoder.usize,
      .maybe "active_hours" decodeActiveHours, .maybe "deliver_to" (Decoder.option decodeTarget)] j
  let enabled ← Decoder.fieldOr fs "enabled" false Decoder.bool
  let every ← Decoder.fieldOr fs "every" "30m" Decoder.string
  let prompt ← Decoder.fieldOpt fs "prompt" Decoder.string
  let ackMaxChars ← Decoder.fieldOr fs "ack_max_chars" 300 Decoder.usize
  let activeHours ← Decoder.fieldOr fs "active_hours" {} decodeActiveHours
  let deliverTo ← Decoder.fieldOpt fs "deliver_to" decodeTarget
  pure { enabled, every, prompt, ackMaxChars, activeHours, deliverTo }

/-- Reads the gateway settings. -/
def decodeGateway : Decoder GatewaySettings := fun j => do
  let fs ← Decoder.record "struct GatewayConfig"
    [.maybe "chat_ordering" ChatOrdering.decode, .maybe "log_level" Decoder.string,
      .maybe "json_logs" Decoder.bool] j
  let chatOrdering ← Decoder.fieldOr fs "chat_ordering" .concurrent ChatOrdering.decode
  let logLevel ← Decoder.fieldOr fs "log_level" "info" Decoder.string
  let jsonLogs ← Decoder.fieldOr fs "json_logs" false Decoder.bool
  pure { chatOrdering, logLevel, jsonLogs }

/-- Reads the sub-agent budget. -/
def decodeSubagents : Decoder SubagentSettings := fun j => do
  let fs ← Decoder.record "struct SubagentsConfig"
    [.maybe "timeout_secs" Decoder.u64, .maybe "max_iterations" Decoder.usize,
      .maybe "max_retained" Decoder.usize] j
  let timeoutSecs ← Decoder.fieldOr fs "timeout_secs" 300 Decoder.u64
  let maxIterations ← Decoder.fieldOr fs "max_iterations" 15 Decoder.usize
  let maxRetained ← Decoder.fieldOr fs "max_retained" 100 Decoder.usize
  pure { timeoutSecs, maxIterations, maxRetained }

/-- Reads the channel settings. -/
def decodeChannels : Decoder ChannelSettings := fun j => do
  let fs ← Decoder.record "struct ChannelsConfig" [.maybe "allow_from" decodeAllowFrom] j
  let allowFrom ← Decoder.fieldOr fs "allow_from" [] decodeAllowFrom
  pure { allowFrom }

/-- **Reads a configuration.** -/
def decode : Decoder Config := fun j => do
  let fs ← Decoder.record "struct CourierConfig"
    [.maybe "gateway" decodeGateway, .maybe "subagents" decodeSubagents,
      .maybe "heartbeat" decodeHeartbeat, .maybe "channels" decodeChannels] j
  let gateway ← Decoder.fieldOr fs "gateway" {} decodeGateway
  let subagents ← Decoder.fieldOr fs "subagents" {} decodeSubagents
  let heartbeat ← Decoder.fieldOr fs "heartbeat" {} decodeHeartbeat
  let channels ← Decoder.fieldOr fs "channels" {} decodeChannels
  pure { gateway, subagents, heartbeat, channels }

end Config

end ChatGateway
