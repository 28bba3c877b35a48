import ChatGateway.Subagent.Status
import ChatGateway.Message.Basic

/-! # Background tasks and their table

A sub-agent runs one `SubagentTask`: it starts `running` and settles exactly once, as
`completed` with a result or `failed` with an error. The `TaskTable` keeps the tasks in a map by
id, and their ids in the order they were started, which listings and eviction follow.

* `TaskTable.settle` moves a running task to its terminal status and returns the settled record;
  a task that is unknown or already settled is left alone and gives nothing.
* `TaskTable.evict` keeps at most `maxRetained` settled tasks: it walks the order and drops the
  oldest settled ones, from the order and from the map; running tasks are never dropped.
* `SubagentTask.announcement` is the message that reports a settled task to the chat it came
  from: the result, or `Background task "name" failed: error`, tagged with the task id.
-/

namespace ChatGateway

/-- **The record of one background task.** -/
structure SubagentTask where
  id : String
  task : String
  label : Option String := none
  status : TaskStatus := .running
  result : Option String := none
  error : Option String := none
  settled : Bool := false
  originChannel : String
  originChatId : String
  deriving Repr

/-- **The budget of every sub-agent run.** -/
structure SubagentBudget where
  maxIterations : Nat := 15
  timeoutMs : Nat := 300000
  maxRetained : Nat := 100
  deriving Repr

/-- **What happens when a task settles.** -/
inductive CompletionCallback where
  /-- The result is announced to the originating chat on the bus. -/
  | announce
  /-- The callback panics. -/
  | panic
  /-- The callback fails with a message. -/
  | fail (message : String)
  deriving Repr

namespace SubagentTask

/-- The label, or the task text when there is none. -/
def displayName (t : SubagentTask) : String := t.label.getD t.task

/-- **The JSON object of a task,** with `has_completed_at` in place of the settle time. -/
def toJson (t : SubagentTask) : Json :=
  Json.object ([("id", .str t.id), ("task", .str t.task), ("status", .str t.status.name),
      ("has_completed_at", .bool t.settled), ("origin_channel", .str t.originChannel),
      ("origin_chat_id", .str t.originChatId)] ++
    (t.label.map fun l => ("label", Json.str l)).toList ++
    (t.result.map fun r => ("result", Json.str r)).toList ++
    (t.error.map fun e => ("error", Json.str e)).toList)

/-- The task after it settled with `outcome`. -/
def settleWith (t : SubagentTask) (outcome : Except String String) : SubagentTask :=
  match outcome with
  | .ok r => { t with status := .completed, result := some r, settled := true }
  | .error e => { t with status := .failed, error := some e, settled := true }

/-- **The message announcing a settled task to its chat.** -/
def announcement (t : SubagentTask) : OutboundMessage :=
  let content :=
    if t.status = .completed then t.result.getD ""
    else "Background task \"" ++ t.displayName ++ "\" failed: " ++ t.error.getD "unknown error"
  let m : OutboundMessage := { channel := t.originChannel, chatId := t.originChatId, content }
  let m := m.withMetadata "subagent_id" (.str t.id)
  if t.status = .failed then m.withMetadata "error" (.bool true) else m

end SubagentTask

/-- **The tasks by id,** as a map: it holds at most one record under an id, and an insert under
an id it holds replaces that id's record. -/
structure TaskMap where
  entries : List (String × SubagentTask)
  keys_nodup : (entries.map (·.1)).Nodup

instance : Repr TaskMap := ⟨fun m n => reprPrec m.entries n⟩

namespace TaskMap

/-- The map that holds no task. -/
def empty : TaskMap := ⟨[], List.nodup_nil⟩

instance : EmptyCollection TaskMap := ⟨empty⟩

/-- The record under an id. -/
def get? (m : TaskMap) (id : String) : Option SubagentTask := m.entries.lookup id

/-- The ids the map holds. -/
def keys (m : TaskMap) : List String := m.entries.map (·.1)

/-- The records the map holds. -/
def values (m : TaskMap) : List SubagentTask := m.entries.map (·.2)

/-- Drops the record of an id. -/
def erase (m : TaskMap) (id : String) : TaskMap :=
  ⟨m.entries.filter (·.1 != id), List.Nodup.sublist (List.filter_sublist.map _) m.keys_nodup⟩

/-- Puts a record under an id, in place of the one it held. -/
def insert (m : TaskMap) (id : String) (t : SubagentTask) : TaskMap :=
  ⟨(id, t) :: (m.erase id).entries, List.nodup_cons.2 ⟨by simp [erase], (m.erase id).keys_nodup⟩⟩

end TaskMap

/-- **The task table:** the tasks by id, and their ids in the order they were started, which
listings and eviction follow. -/
structure TaskTable where
  tasks : TaskMap := {}
  order : List String := []
  deriving Repr

namespace TaskTable

/-- Adds a task: its id joins the end of the order, and its record the map. -/
def insert (tb : TaskTable) (t : SubagentTask) : TaskTable :=
  { order := tb.order ++ [t.id], tasks := tb.tasks.insert t.id t }

/-- The task of an id. -/
def get? (tb : TaskTable) (id : String) : Option SubagentTask := tb.tasks.get? id

/-- **Settles a running task;** the settled record, or nothing if the task was not running. -/
def settle (tb : TaskTable) (id : String) (outcome : Except String String) :
    TaskTable × Option SubagentTask :=
  match tb.get? id with
  | some t =>
    if t.status.isTerminal then (tb, none)
    else
      let t' := t.settleWith outcome
      ({ tb with tasks := tb.tasks.insert id t' }, some t')
  | none => (tb, none)

/-- **Walks the order** and drops the first `excess` ids whose tasks have settled, from the order
and from the map. -/
def evictFrom : Nat → List String → TaskMap → List String × TaskMap
  | _, [], m => ([], m)
  | excess, id :: rest, m =>
    if 0 < excess ∧ (m.get? id).any (·.status.isTerminal) = true then
      evictFrom (excess - 1) rest (m.erase id)
    else
      let r := evictFrom excess rest m
      (id :: r.1, r.2)

/-- **Keeps at most `maxRetained` settled tasks,** dropping the oldest. -/
def evict (tb : TaskTable) (maxRetained : Nat) : TaskTable :=
  let settled := (tb.tasks.values.filter (·.status.isTerminal)).length
  let excess := settled - maxRetained
  if excess = 0 then tb
  else
    let r := evictFrom excess tb.order tb.tasks
    { order := r.1, tasks := r.2 }

/-- The tasks that pass `keep`, in start order. -/
def ordered (tb : TaskTable) (keep : SubagentTask → Bool) : List SubagentTask :=
  (tb.order.filterMap tb.tasks.get?).filter keep

/-- Every task the table keeps, in start order. -/
def listAll (tb : TaskTable) : List SubagentTask := tb.ordered fun _ => true

/-- The running tasks, in start order. -/
def active (tb : TaskTable) : List SubagentTask := tb.ordered (·.status == .running)

end TaskTable

end ChatGateway
