import ChatGateway.Gateway.Configured
import ChatGateway.Requests.Agents
import ChatGateway.Requests.Values

/-! # Setting up a scenario

A scenario runs steps against one deployment, built from the scenario's setup in one of two
ways.

* *From a configuration* (`setup.config`): the configuration is read and checked, and an error
  finding refuses it with every finding displayed, joined by `; `. The deployment then has a
  model-backed engine with the sub-agent tool, a sub-agent manager announcing on the bus, the
  configured allowlists and ordering, and a heartbeat when enabled. Its observer keeps no
  incidents, and the scenario has no handle on the heartbeat, the engine or a cron service.
* *By hand*: a recording observer, the scripted model and tools, an optional sub-agent manager
  (whose tool is added unless disabled), a scripted or model-backed engine, allowlists, the
  chat ordering, an optional heartbeat and an optional scripted cron service.
-/

namespace ChatGateway

namespace Requests

/-- **How a scenario was set up.** -/
structure ScenarioSetup where
  deployment : Deployment
  /-- Whether the deployment was built from a configuration. -/
  configured : Bool := false

/-- A string field of a setup object. -/
def textOf (j : Json) (k : String) : Option String := (j.get? k).bind Json.str?

/-- A count field of a setup object, with a default. -/
def countOf (j : Json) (k : String) (fallback : Nat) : Nat :=
  ((j.get? k).bind Json.nat?).getD fallback

/-- The completion callback of a setup: an object with an `error` field always fails, with
that field's text (empty when it is not a string). -/
def callbackOf : Option Json → Option CompletionCallback
  | some (.str "none") => none
  | some (.str "panic") => some .panic
  | some j@(.obj _) =>
    match j.get? "error" with
    | some m => some (.fail (m.str?.getD ""))
    | none => some .announce
  | _ => some .announce

/-- The allowlists of a setup: a map from channel names to lists of patterns, empty when
absent. -/
def allowListsOf : Option Json → Except Failure (List (String × List String))
  | none => .ok []
  | some j => (Config.decodeAllowFrom j).mapError Failure.ofDecode

/-- The scripted cron service of a setup. -/
def cronOf (j : Json) : ScriptedService :=
  { name := (textOf j "name").getD "cron", failStart := textOf j "fail_start",
    failStop := textOf j "fail_stop", startDelayMs := countOf j "start_delay_ms" 0,
    stopDelayMs := countOf j "stop_delay_ms" 0 }

/-- The heartbeat of a setup, or why it cannot be built. -/
def heartbeatOf (j : Json) : Except Failure HeartbeatService := do
  let settings ← (Config.decodeHeartbeat j).mapError Failure.ofDecode
  let plan ← (HeartbeatPlan.ofSettings settings).mapError heartbeatFailure
  pure { plan }

/-- **A deployment built by hand.** -/
def manualSetup (setup : Json) : Except Failure ScenarioSetup := do
  let allowFrom ← allowListsOf (setup.get? "allow_from")
  let model := ProviderScript.ofJson ((setup.get? "provider").getD .null)
  let tools := registryOf (((setup.get? "tools").bind Json.items?).getD [])
  let (subagents, tools) :=
    match setup.get? "subagents" with
    | none => (none, tools)
    | some s =>
      let budget : SubagentBudget :=
        { maxIterations := countOf s "max_iterations" 15,
          timeoutMs := countOf s "timeout_ms" 300000,
          maxRetained := countOf s "max_retained" 100 }
      let manager := SubagentManager.new tools budget (callbackOf (s.get? "callback"))
      let withTool := ((s.get? "spawn_tool").bind Json.bool?).getD true
      (some manager, if withTool then tools.register .spawnSubagent else tools)
  let engine : Engine :=
    match setup.get? "engine" with
    | some e =>
      if textOf e "kind" == some "provider" then
        .provider ((textOf e "system_prompt").getD Reasoning.defaultSystemPrompt)
          (max (countOf e "max_iterations" Reasoning.defaultMaxIterations) 1)
      else .scripted (EngineScript.ofJson e)
    | none => .scripted {}
  let ordering := if textOf setup "ordering" == some "per_chat" then ChatOrdering.perChat
    else .concurrent
  let heartbeat ← match setup.get? "heartbeat" with
    | some h => heartbeatOf h |>.map some
    | none => pure none
  pure { deployment :=
    { model, tools, subagents, engine, heartbeat,
      channels := { allowFrom },
      adapter := { ordering }, cron := (setup.get? "cron").map cronOf } }

/-- A gateway error as a failure. -/
def gatewayFailure (e : GatewayError) : Failure := ⟨e.kind, e.text⟩

/-- **A deployment built from a configuration.** -/
def configuredSetup (config setup : Json) : Except Failure ScenarioSetup := do
  let c ← (Config.decode config).mapError Failure.ofDecode
  let model := ProviderScript.ofJson ((setup.get? "provider").getD .null)
  let tools := registryOf (((setup.get? "tools").bind Json.items?).getD [])
  let deployment ← (Deployment.ofConfig c model tools).mapError gatewayFailure
  pure { configured := true, deployment }

/-- **The deployment of a scenario's setup.** -/
def scenarioSetup (setup : Json) : Except Failure ScenarioSetup :=
  match setup.get? "config" with
  | some c => configuredSetup c setup
  | none => manualSetup setup

end Requests

end ChatGateway
