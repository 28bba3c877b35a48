import ChatGateway.Config.Schema

/-! # The shape of the configuration

A configuration file, whatever its format, is read against the shape of the settings it holds:
at each place a reader knows what it expects, and when the text holds something else it says
what it found and what it expected, in the words of the settings' types
(`invalid type: integer `5`, expected struct GatewayConfig`).

* `Expect` is that shape: strings, booleans, unsigned counts, names of a fixed set, optional
  values, sequences, maps and records of named fields.
* A record either takes missing fields from its defaults or requires them all.
* A reader produces the settings as a JSON value of the shape it was given (a record as an
  object of the fields present, an enumeration as its name, an absent optional value as
  `null`), which `Config.decode` turns into the settings with the defaults filled in.
-/

namespace ChatGateway

/-- **What a reader expects at a place of the configuration.** -/
inductive Expect where
  /-- A string. -/
  | text
  /-- A boolean. -/
  | flag
  /-- An unsigned 64-bit integer, named in errors by its type (`u64`, `usize`). -/
  | count (typeName : String)
  /-- One name among fixed variants, of an enumeration named `typeName`. -/
  | choice (typeName : String) (variants : List String)
  /-- A value that may be absent. -/
  | optional (inner : Expect)
  /-- A sequence of values. -/
  | list (item : Expect)
  /-- A map from names to values. -/
  | dict (item : Expect)
  /-- A record of named fields; a `defaulted` record takes missing fields from its defaults. -/
  | record (typeName : String) (fields : List (String × Expect)) (defaulted : Bool)
  deriving Repr, Inhabited

namespace Expect

/-- **What a reader says it expected** when it finds a value of another kind. -/
def expecting : Expect → String
  | .text => "a string"
  | .flag => "a boolean"
  | .count t => t
  | .choice t _ => "enum " ++ t
  | .optional _ => "option"
  | .list _ => "a sequence"
  | .dict _ => "a map"
  | .record t _ _ => "struct " ++ t

/-- What a record read from a sequence expected when the sequence ends early. -/
def lengthExpecting (typeName : String) (n : Nat) : String :=
  "struct " ++ typeName ++ " with " ++ toString n ++ (if n = 1 then " element" else " elements")

/-- The largest count of either width. -/
def countMax : Nat := Nat.pow 2 64 - 1

end Expect

namespace Config

/-- The gateway settings' shape. -/
def gatewayShape : Expect :=
  .record "GatewayConfig" [("chat_ordering", .choice "ChatOrderingMode" ChatOrdering.names),
    ("log_level", .text), ("json_logs", .flag)] true

/-- The sub-agent budget's shape. -/
def subagentsShape : Expect :=
  .record "SubagentsConfig" [("timeout_secs", .count "u64"), ("max_iterations", .count "usize"),
    ("max_retained", .count "usize")] true

/-- The active hours' shape. -/
def activeHoursShape : Expect :=
  .record "ActiveHoursConfig" [("start", .text), ("end", .text), ("timezone", .text)] true

/-- A delivery target's shape: both fields are required. -/
def targetShape : Expect :=
  .record "DeliveryTarget" [("channel", .text), ("chat_id", .text)] false

/-- The heartbeat settings' shape. -/
def heartbeatShape : Expect :=
  .record "HeartbeatConfig" [("enabled", .flag), ("every", .text), ("prompt", .optional .text),
    ("ack_max_chars", .count "usize"), ("active_hours", activeHoursShape),
    ("deliver_to", .optional targetShape)] true

/-- The channel settings' shape. -/
def channelsShape : Expect :=
  .record "ChannelsConfig" [("allow_from", .dict (.list .text))] true

/-- **The shape of a whole configuration.** -/
def shape : Expect :=
  .record "CourierConfig" [("gateway", gatewayShape), ("subagents", subagentsShape),
    ("heartbeat", heartbeatShape), ("channels", channelsShape)] true

end Config

end ChatGateway
