import ChatGateway.Agent.Chat
import ChatGateway.Agent.Script
import ChatGateway.Agent.Tool
import ChatGateway.Agent.Truncate
import ChatGateway.Allowlist
import ChatGateway.Bus.Event
import ChatGateway.Bus.Registry
import ChatGateway.Bus.Stats
import ChatGateway.Channel.Manager
import ChatGateway.Channel.Memory
import ChatGateway.Channel.Status
import ChatGateway.Config.Discovery
import ChatGateway.Config.Interval
import ChatGateway.Config.JsonText
import ChatGateway.Config.Load
import ChatGateway.Config.Schema
import ChatGateway.Config.Shape
import ChatGateway.Config.Substitution
import ChatGateway.Config.Validate
import ChatGateway.Decode.Error
import ChatGateway.Decode.Value
import ChatGateway.Engine.Script
import ChatGateway.Gateway.AgentRun
import ChatGateway.Gateway.Delivery
import ChatGateway.Gateway.Deployment
import ChatGateway.Gateway.Error
import ChatGateway.Gateway.Handlers
import ChatGateway.Gateway.Heartbeat
import ChatGateway.Gateway.Launch
import ChatGateway.Gateway.Lifecycle
import ChatGateway.Gateway.Reasoning
import ChatGateway.Gateway.Subagents
import ChatGateway.Heartbeat.Ack
import ChatGateway.Heartbeat.Error
import ChatGateway.Heartbeat.Schedule
import ChatGateway.Heartbeat.Window
import ChatGateway.Heartbeat.Zone
import ChatGateway.Heartbeat.ZoneNames
import ChatGateway.Incident
import ChatGateway.Json.Parse
import ChatGateway.Json.Value
import ChatGateway.Message.Basic
import ChatGateway.Message.Codec
import ChatGateway.Message.Error
import ChatGateway.Num.Binary64
import ChatGateway.Num.Shortest
import ChatGateway.Proofs.Scheduling.Poll
import ChatGateway.Proofs.Scheduling.Seen
import ChatGateway.Proofs.Scheduling.Moves
import ChatGateway.Proofs.Scheduling.Within
import ChatGateway.Requests.Agents
import ChatGateway.Requests.Basic
import ChatGateway.Requests.Config
import ChatGateway.Requests.Dispatch
import ChatGateway.Requests.Mask
import ChatGateway.Requests.Messages
import ChatGateway.Requests.Scenario
import ChatGateway.Gateway.Configured
import ChatGateway.Requests.ScenarioSetup
import ChatGateway.Requests.Values
import ChatGateway.Scheduling.Executor
import ChatGateway.Scheduling.Program
import ChatGateway.Subagent.Status
import ChatGateway.Subagent.Table
import ChatGateway.Text.Blank
import ChatGateway.Text.Debug
import ChatGateway.Text.Lowercase
import ChatGateway.Text.Replace
import ChatGateway.Time.Timestamp
import ChatGateway.Toml.Document
import ChatGateway.Toml.Lexical
import ChatGateway.Toml.Node
import ChatGateway.Toml.Read
import ChatGateway.Toml.Tables
import ChatGateway.Yaml.Document
import ChatGateway.Yaml.Event
import ChatGateway.Yaml.Read
import ChatGateway.Yaml.Scalar
import ChatGateway.Yaml.Token
import ChatGateway.Proofs.Gateway.Calls
import ChatGateway.Proofs.Gateway.Routine
import ChatGateway.Proofs.Gateway.Jobs
import ChatGateway.Proofs.ChatLocks.Shapes
import ChatGateway.Proofs.ChatLocks.Frame
import ChatGateway.Proofs.ChatLocks.Table
import ChatGateway.Proofs.ChatLocks.Runs
import ChatGateway.Proofs.ChatLocks.Serial
import ChatGateway.Proofs.Lifecycle.Frame
import ChatGateway.Proofs.Lifecycle.Calls
import ChatGateway.Proofs.Subagent.Table
import ChatGateway.Proofs.Subagent.Origin
import ChatGateway.Proofs.Lifecycle.Order
import ChatGateway.Proofs.Scheduling.Ended
import ChatGateway.Proofs.Delivery.Steps
import ChatGateway.Proofs.Delivery.Frame
import ChatGateway.Proofs.Delivery.Invariant
import ChatGateway.Proofs.Delivery.Runs
import ChatGateway.Proofs.Delivery.Delivered
import ChatGateway.Proofs.Bus.Registry
import ChatGateway.Proofs.Lifecycle.Stages
import ChatGateway.Proofs.Lifecycle.Transitions
import ChatGateway.Proofs.Lifecycle.Parts
import ChatGateway.Proofs.Lifecycle.Runs
import ChatGateway.Proofs.Lifecycle.Safety
import ChatGateway.Proofs.Decode.Record
import ChatGateway.Proofs.Message.Codec
import ChatGateway.Proofs.Agent.Loop
import ChatGateway.Proofs.Scheduling.Residual
import ChatGateway.Proofs.Agent.Tools
import ChatGateway.Proofs.Channel.Registry
import ChatGateway.Proofs.Channel.Routing
import ChatGateway.Proofs.Gateway.Responder
import ChatGateway.Proofs.Channel.Allowlist
import ChatGateway.Proofs.Heartbeat.Ack
import ChatGateway.Proofs.Heartbeat.Tick
import ChatGateway.Proofs.Heartbeat.Plan
import ChatGateway.Proofs.Gateway.Configured
import ChatGateway.Proofs.Heartbeat.Loop
import ChatGateway.Proofs.Heartbeat.Timer
import ChatGateway.Proofs.Channel.Inbound
import ChatGateway.Proofs.Subagent.Spawn
import ChatGateway.Proofs.Agent.Truncate
import ChatGateway.Proofs.Config.Interval
import ChatGateway.Proofs.Config.Substitution
import ChatGateway.Proofs.Bus.Stats
import ChatGateway.Proofs.Subagent.Timed
import ChatGateway.Proofs.Subagent.Waiting
import ChatGateway.Proofs.Subagent.Frame
import ChatGateway.Proofs.Subagent.Worker
import ChatGateway.Proofs.Subagent.Ledger
import ChatGateway.Proofs.Subagent.Counter
import ChatGateway.Proofs.Subagent.Runner
import ChatGateway.Proofs.Subagent.Settlement
