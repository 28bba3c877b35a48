import ChatGateway.Decode.Value

/-! # Sub-agent status

A background task is `running` until it settles as `completed` or `failed`; the last two are
terminal.
-/

namespace ChatGateway

/-- **The status of a background task.** -/
inductive TaskStatus where
  | running
  | completed
  | failed
  deriving Repr, DecidableEq, BEq

namespace TaskStatus

/-- The snake_case name of a status. -/
def name : TaskStatus → String
  | .running => "running"
  | .completed => "completed"
  | .failed => "failed"

/-- Whether a task in this status has settled. -/
def isTerminal : TaskStatus → Bool
  | .running => false
  | _ => true

/-- All statuses. -/
def all : List TaskStatus := [.running, .completed, .failed]

/-- Reads a status name. -/
def decode : Decoder TaskStatus := fun j => do
  let n ← Decoder.variant (all.map name) "enum SubagentStatus" j
  match all.find? (·.name == n) with
  | some s => pure s
  | none => .error (.unknownVariant n (all.map name))

end TaskStatus

end ChatGateway
