import ChatGateway.Config.Schema
import ChatGateway.Config.Interval
import ChatGateway.Heartbeat.Window
import ChatGateway.Heartbeat.ZoneNames
import ChatGateway.Text.Debug

/-! # Checking a configuration

`Config.validate` finds what a well-typed configuration can still get wrong, as a list of
`Diagnostic`s, each an error or a warning at a dotted path:

* zero sub-agent time limit or iteration budget (errors), zero retention (a warning);
* an unreadable heartbeat interval, active-hours bound or time zone (errors);
* a delivery target with an empty channel or chat (an error), an enabled heartbeat without a
  target (a warning);
* an allowlist entry that is blank (a warning per channel, in order of channel names).

A diagnostic is displayed as `severity: path: message`.
-/

namespace ChatGateway

/-- **How serious a diagnostic is.** -/
inductive Severity where
  | error
  | warning
  deriving Repr, DecidableEq, BEq

/-- The lowercase name of a severity. -/
def Severity.name : Severity → String
  | .error => "error"
  | .warning => "warning"

/-- **A finding of the configuration check.** -/
structure Diagnostic where
  severity : Severity
  path : String
  message : String
  deriving Repr

namespace Diagnostic

/-- The one-line display of a diagnostic. -/
def display (d : Diagnostic) : String := d.severity.name ++ ": " ++ d.path ++ ": " ++ d.message

/-- The JSON object of a diagnostic. -/
def toJson (d : Diagnostic) : Json :=
  Json.object [("severity", .str d.severity.name), ("path", .str d.path),
    ("message", .str d.message), ("display", .str d.display)]

end Diagnostic

namespace Config

/-- Whether an active-hours bound reads as a clock time. -/
def validBound (s : String) : Bool := s == "24:00" || (ClockTime.parseMinutes s).isSome

/-- **The findings of the configuration check,** in check order. -/
def validate (c : Config) : List Diagnostic :=
  let hb := c.heartbeat
  let tz := hb.activeHours.timezone
  let budget :=
    (if c.subagents.timeoutSecs = 0 then
      [⟨.error, "subagents.timeout_secs", "must be greater than zero"⟩] else []) ++
    (if c.subagents.maxIterations = 0 then
      [⟨.error, "subagents.max_iterations", "must be greater than zero"⟩] else []) ++
    (if c.subagents.maxRetained = 0 then
      [⟨.warning, "subagents.max_retained", "finished tasks will not be queryable"⟩] else [])
  let interval :=
    if (Interval.parseMillis hb.every).isNone then
      [⟨.error, "heartbeat.every", "invalid interval " ++ Text.debugQuote hb.every ++
        " (expected e.g. \"30m\", \"1h\")"⟩]
    else []
  let bounds := [("heartbeat.active_hours.start", hb.activeHours.start),
      ("heartbeat.active_hours.end", hb.activeHours.finish)].filterMap fun (path, v) =>
    if validBound v then none
    else some ⟨.error, path, "invalid time " ++ Text.debugQuote v ++ " (expected HH:MM)"⟩
  let zone :=
    if !tz.isEmpty && tz != "local" && !Zone.isName tz then
      [⟨.error, "heartbeat.active_hours.timezone", "unknown timezone " ++ Text.debugQuote tz⟩]
    else []
  let target : List Diagnostic :=
    match hb.deliverTo with
    | some t =>
      if t.channel.isEmpty || t.chatId.isEmpty then
        [⟨.error, "heartbeat.deliver_to", "channel and chat_id must both be set"⟩]
      else []
    | none =>
      if hb.enabled then
        [⟨.warning, "heartbeat.deliver_to", "heartbeat is enabled but has no delivery target"⟩]
      else []
  let allow := c.channels.allowFrom.filterMap fun (name, entries) =>
    if entries.any fun e => (Text.trim e).isEmpty then
      some ⟨.warning, "channels.allow_from." ++ name, "contains an empty entry"⟩
    else none
  budget ++ interval ++ bounds ++ zone ++ target ++ allow

/-- Whether any finding is an error. -/
def hasErrors (ds : List Diagnostic) : Bool := ds.any (·.severity == .error)

end Config

end ChatGateway
