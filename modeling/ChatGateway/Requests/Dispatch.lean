import ChatGateway.Requests.Values
import ChatGateway.Requests.Messages
import ChatGateway.Requests.Mask
import ChatGateway.Requests.Agents
import ChatGateway.Requests.Config
import ChatGateway.Requests.Scenario

/-! # Answering requests

`Requests.answer` routes a request to its operation by `op`; `Requests.respondLine` answers one
line of JSON text with one line of compact JSON, ids masked, and skips blank lines.
-/

namespace ChatGateway

namespace Requests

/-- **The answer to a request.** -/
def answer (r : Json) : Answer := do
  let op ← Request.str r "op"
  match op with
  | "parse_interval" => parseInterval r
  | "substitute_env" => substituteEnv r
  | "is_allowed" => isAllowed r
  | "strip_heartbeat" => stripHeartbeat r
  | "resolve_prompt" => resolvePrompt r
  | "active_window" => activeWindow r
  | "window_zone" => windowZone r
  | "truncate" => truncate r
  | "handler_stats" => handlerStats r
  | "channel_status" => channelStatus r
  | "subagent_status" => subagentStatus r
  | "telemetry" => telemetry r
  | "inbound" => inbound r
  | "outbound" => outbound r
  | "reply_to" => replyTo r
  | "bus_event" => busEvent r
  | "event_timestamp" => eventTimestamp r
  | "incident" => incident r
  | "build_message" => buildMessage r
  | "chat_message" => chatMessage r
  | "error_display" => errorDisplay r
  | "tool_registry" => toolRegistry r
  | "agent_loop" => agentLoop r
  | "engine" => engine r
  | "config_default" => configDefault r
  | "config_validate" => configValidate r
  | "config_load" => configLoad r
  | "discover" => discover r
  | "scenario" => scenario r
  | other => .error (.badInput ("unknown op " ++ other))

/-- **Answers one line of input,** or nothing for a blank line. -/
def respondLine (line : String) : Option String :=
  if (Text.trim line).isEmpty then none
  else
    let reply : Json := match Json.parse line with
      | .ok r => (answer r).toJson
      | .error e => (Failure.badInput ("invalid request: " ++ e.message)).toJson
    some (Mask.answer reply).compact

end Requests

end ChatGateway
