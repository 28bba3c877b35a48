import ChatGateway.Config.Validate
import ChatGateway.Gateway.Reasoning

/-! # A gateway from its configuration

`Deployment.ofConfig` wires a complete gateway from a configuration, a model and tools. The
configuration is checked first: an error finding refuses it, with every finding displayed and
joined by `; `. Otherwise the heartbeat, when enabled, is planned from its settings, and its error
refuses the configuration. The gateway (`Deployment.wired`) then has a model-backed engine with
the given tools and the sub-agent tool, a sub-agent manager announcing on the bus, the configured
allowlists and chat ordering, an observer that keeps no incidents, and the heartbeat.
-/

namespace ChatGateway

/-- **The heartbeat service a configuration asks for:** none when disabled, else the one planned
from its settings. -/
def Config.heartbeatService (c : Config) : Except HeartbeatError (Option HeartbeatService) :=
  if c.heartbeat.enabled then (HeartbeatPlan.ofSettings c.heartbeat).map fun plan => some { plan }
  else .ok none

namespace Deployment

/-- **The gateway a configuration wires,** with a heartbeat service or none. -/
def wired (c : Config) (model : ProviderScript) (tools : ToolRegistry)
    (heartbeat : Option HeartbeatService) : Deployment :=
  let manager := SubagentManager.new tools
    { maxIterations := c.subagents.maxIterations, timeoutMs := c.subagents.timeoutSecs * 1000,
      maxRetained := c.subagents.maxRetained } (some .announce)
  { model, tools := tools.register .spawnSubagent, subagents := some manager,
    engine := .provider Reasoning.defaultSystemPrompt Reasoning.defaultMaxIterations,
    heartbeat, recording := false, channels := { allowFrom := c.channels.allowFrom },
    adapter := { ordering := c.gateway.chatOrdering } }

/-- **Builds a gateway from a configuration** over a model and its tools. -/
def ofConfig (c : Config) (model : ProviderScript) (tools : ToolRegistry) :
    Except GatewayError Deployment := do
  let ds := c.validate
  if Config.hasErrors ds then
    throw (.invalidConfig ("; ".intercalate (ds.map Diagnostic.display)))
  let heartbeat ← c.heartbeatService.mapError GatewayError.heartbeat
  pure (wired c model tools heartbeat)

end Deployment

end ChatGateway
