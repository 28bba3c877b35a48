import ChatGateway.Requests.Basic
import ChatGateway.Allowlist
import ChatGateway.Config.Interval
import ChatGateway.Config.Substitution
import ChatGateway.Heartbeat.Ack
import ChatGateway.Heartbeat.Window
import ChatGateway.Heartbeat.Zone
import ChatGateway.Agent.Truncate
import ChatGateway.Bus.Stats
import ChatGateway.Channel.Status
import ChatGateway.Subagent.Status

/-! # Requests on single values

The operations that compute one value from their arguments: interval texts, placeholder
substitution, allowlists, heartbeat replies and prompts, active windows and zones, tool-result
truncation, handler statistics and the status names.
-/

namespace ChatGateway

namespace Requests

/-- `parse_interval`: the milliseconds of an interval text, or `null`. -/
def parseInterval (r : Json) : Answer := do
  let s ← Request.str r "s"
  pure (Json.object [("ms", ((Interval.parseMillis s).map Json.ofNat).getD .null)])

/-- `substitute_env`: the text with the given variables substituted. -/
def substituteEnv (r : Json) : Answer := do
  let text ← Request.str r "text"
  let vars ← Request.environment r
  pure (Json.object [("text", .str (Environment.substitute ⟨vars⟩ text))])

/-- `is_allowed`: whether an allowlist admits a sender. -/
def isAllowed (r : Json) : Answer := do
  let patterns ← Request.decode r "allowlist" (Decoder.list Decoder.string)
  let sender ← Request.str r "sender"
  pure (Json.object [("allowed", .bool ((Allowlist.mk patterns).admits sender))])

/-- `strip_heartbeat`: the acknowledgement check of a reply. -/
def stripHeartbeat (r : Json) : Answer := do
  let text ← Request.str r "text"
  let limit ← Request.nat r "max_ack_chars"
  let a := Heartbeat.stripAck text limit
  pure (Json.object [("should_skip", .bool a.shouldSkip), ("text", .str a.text),
    ("did_strip", .bool a.didStrip)])

/-- `resolve_prompt`: the heartbeat prompt. -/
def resolvePrompt (r : Json) : Answer := do
  let custom ← Request.strOpt r "custom"
  pure (Json.object [("prompt", .str (Heartbeat.resolvePrompt custom))])

/-- `active_window`: a window and which minutes it contains. -/
def activeWindow (r : Json) : Answer := do
  let opens ← Request.str r "start"
  let closes ← Request.str r "end"
  let minutes ← Request.decode r "minutes" (Decoder.list Decoder.u32)
  match ActiveWindow.parse? opens closes with
  | some w => pure (Json.object [
      ("window", Json.object [("start", .ofNat w.opens), ("end", .ofNat w.closes)]),
      ("contains", .arr (minutes.map fun m => .bool (w.contains m)))])
  | none => pure (Json.object [("window", .null)])

/-- A heartbeat error as a failure. -/
def heartbeatFailure (e : HeartbeatError) : Failure := ⟨e.kind, e.text⟩

/-- `window_zone`: the zone a window is read in. -/
def windowZone (r : Json) : Answer := do
  let tz ← Request.str r "tz"
  match WindowZone.parse tz with
  | .ok .localTime => pure (Json.object [("zone", .str "local")])
  | .ok (.named n) => pure (Json.object [("zone", .str "named"), ("name", .str n)])
  | .error e => .error (heartbeatFailure e)

/-- `truncate`: a tool result cut to a byte budget. -/
def truncate (r : Json) : Answer := do
  let input ← Request.str r "input"
  let budget ← Request.nat r "max_bytes"
  pure (Json.object [("output", .str (ToolResult.truncate input budget))])

/-- The JSON view of handler statistics. -/
def statsJson (s : HandlerStats) : Json :=
  Json.object [("call_count", .ofNat s.calls.toNat), ("failure_count", .ofNat s.failures.toNat),
    ("total_latency_us", .ofNat s.totalMicros.toNat),
    ("avg_latency_us", .ofNat s.averageMicros.toNat)]

/-- One statistics operation. -/
def statsStep (s : HandlerStats) (op : Json) : Except Failure HandlerStats := do
  let kind ← Request.str op "kind"
  let latency : Except Failure Duration := do
    let secs ← Request.natOr op "secs" 0
    let nanos ← Request.natOr op "nanos" 0
    if nanos ≥ 1000000000 then .error (.badInput "nanos must be below 1000000000")
    pure ⟨secs, nanos⟩
  match kind with
  | "success" => pure (s.recordSuccess (← latency))
  | "failure" => pure (s.recordFailure (← latency))
  | "read" => pure s
  | other => .error (.badInput ("unknown stats op " ++ other))

/-- Applies statistics operations, keeping the view after each. -/
def statsRun : HandlerStats → List Json → Except Failure (List Json)
  | _, [] => .ok []
  | s, op :: rest => do
    let s ← statsStep s op
    let views ← statsRun s rest
    pure (statsJson s :: views)

/-- `handler_stats`: statistics after each operation. -/
def handlerStats (r : Json) : Answer := do
  let ops ← Request.arr r "ops"
  pure (.arr (← statsRun {} ops))

/-- `channel_status`: a status's display and name. -/
def channelStatus (r : Json) : Answer := do
  let s ← Request.decode r "status" ChannelStatus.decode
  pure (Json.object [("display", .str s.name), ("as_str", .str s.name)])

/-- `subagent_status`: a task status's display and whether it is terminal. -/
def subagentStatus (r : Json) : Answer := do
  let s ← Request.decode r "status" TaskStatus.decode
  pure (Json.object [("display", .str s.name), ("is_terminal", .bool s.isTerminal)])

/-- `telemetry`: a second installation of log output is refused, once the request has named
its output format (`json`, a boolean) and its level. -/
def telemetry (r : Json) : Answer := do
  match r.get? "json" with
  | some (.bool _) => pure ()
  | some _ => throw (.badInput "json must be a bool")
  | none => throw (.badInput "missing field json")
  let _ ← Request.str r "level"
  throw ⟨"message",
    "failed to install tracing subscriber: a global default trace dispatcher has already been set"⟩

end Requests

end ChatGateway
