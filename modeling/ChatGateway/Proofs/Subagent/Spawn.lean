import Mathlib.Data.List.TakeWhile
import ChatGateway.Proofs.Gateway.Calls
import ChatGateway.Proofs.Subagent.Table

/-! # The sub-agent tool checks its parameters before it starts anything

The model calls the sub-agent tool with any JSON value at all. The tool reads three string
fields, in this order, and refuses the call at the first that is missing: the task, which must
also hold a character that is not blank; the origin channel `_channel`; and the origin chat
`_chat_id`. A value that is not an object has none of them. A refused call changes nothing,
neither the manager's table nor the executor's tasks. A call that passes registers one running
task with the task text, the label when the parameters carry a string label, and the origin;
starts one worker for it; and answers with the task's id.

* `Text.AllBlank`, `Text.trim_isEmpty_iff`: a text trims to nothing exactly when every character
  of it is blank.
* `AgentRun.param_eq_some_iff`, `AgentRun.param_eq_none_iff`: a field's string value.
* `AgentRun.poll_spawnTool_of_refused`, `AgentRun.poll_spawnTool_of_passed`: a call ends within
  one poll, with its refusal and no change, or with the new task registered and started.
* `AgentRun.spawn_tool_checks`: the whole, with the order of the three refusals.
-/

namespace ChatGateway

open Scheduling Scheduling.Executor

namespace Text

/-- **Every character of the text is blank.** The empty text is blank too. -/
def AllBlank (s : String) : Prop := ∀ c ∈ s.toList, isBlank c = true

/-- Dropping the leading blanks leaves only blanks exactly when the text has only blanks: what
is left starts with a character that is not blank, or is empty. -/
theorem dropBlanks_allBlank_iff (cs : List Char) :
    (∀ c ∈ dropBlanks cs, isBlank c = true) ↔ ∀ c ∈ cs, isBlank c = true := by
  constructor
  · intro h
    rw [← List.dropWhile_eq_nil_iff]
    by_contra hne
    have hhead := List.head_dropWhile_not isBlank hne
    rw [h _ (List.head_mem hne)] at hhead
    cases hhead
  · intro h
    have hnil : dropBlanks cs = [] := List.dropWhile_eq_nil_iff.mpr h
    rw [hnil]
    exact fun _ hc => nomatch hc

/-- **A text trims to nothing exactly when all its characters are blank.** -/
theorem trim_isEmpty_iff (s : String) : (trim s).isEmpty = true ↔ AllBlank s := by
  rw [String.isEmpty_iff, trim, String.ofList_eq_empty_iff, List.reverse_eq_nil_iff, dropBlanks,
    List.dropWhile_eq_nil_iff]
  simp only [List.mem_reverse]
  exact dropBlanks_allBlank_iff s.toList

end Text

namespace AgentRun

/-! ## (1) The fields the tool reads -/

/-- A field's string value is there exactly when the field holds that string. -/
theorem param_eq_some_iff {params : Json} {k s : String} :
    param params k = some s ↔ params.get? k = some (.str s) := by
  unfold param
  cases params.get? k with
  | none => simp
  | some v => cases v <;> simp [Json.str?]

/-- A field has no string value exactly when it holds no string. -/
theorem param_eq_none_iff {params : Json} {k : String} :
    param params k = none ↔ ∀ s, params.get? k ≠ some (.str s) := by
  rw [Option.eq_none_iff_forall_ne_some]
  exact forall_congr' fun _ => not_congr param_eq_some_iff

/-- The task the tool accepts: the task field's text, when it has a character that is not blank. -/
theorem task_filter_eq_none_iff (params : Json) :
    (param params "task").filter (fun t => !(Text.trim t).isEmpty) = none ↔
      ∀ t, params.get? "task" = some (.str t) → Text.AllBlank t := by
  cases h : param params "task" with
  | none =>
    refine ⟨fun _ t ht => ?_, fun _ => rfl⟩
    exact absurd ht (param_eq_none_iff.mp h t)
  | some t =>
    -- The field holds `t`, so the condition is on `t` alone.
    have ht := param_eq_some_iff.mp h
    have hfield : (∀ u, params.get? "task" = some (.str u) → Text.AllBlank u) ↔ Text.AllBlank t := by
      refine ⟨fun hall => hall t ht, fun hb u hu => ?_⟩
      rw [ht, Option.some.injEq, Json.str.injEq] at hu
      exact hu ▸ hb
    rw [hfield, ← Text.trim_isEmpty_iff, Option.filter_some]
    cases (Text.trim t).isEmpty <;> simp

/-- A task field that holds a text with a character that is not blank is accepted as it is. -/
theorem task_filter_eq_some {params : Json} {task : String}
    (ht : params.get? "task" = some (.str task)) (hb : ¬ Text.AllBlank task) :
    (param params "task").filter (fun t => !(Text.trim t).isEmpty) = some task := by
  have hne : (Text.trim task).isEmpty = false := by
    rw [← Bool.not_eq_true, Text.trim_isEmpty_iff]
    exact hb
  rw [param_eq_some_iff.mpr ht, Option.filter_some, hne]
  rfl

/-! ## (2) One poll of a call -/

/-- A refused call answers with its reason and does nothing else. -/
theorem poll_spawnTool_of_refused {params : Json} {reason : String}
    (h : spawnTool params = .pure (.error reason)) (me : Nat) (ex : Exec) :
    poll me ex (spawnTool params) = (ex, .pure (.error reason)) := by
  rw [h]
  rfl

/-- **A call that passes the checks** registers the task under a fresh id, starts its worker, and
answers with the id, all within one poll. -/
theorem poll_spawnTool_of_passed {params : Json} {task channel chatId : String}
    (htask : (param params "task").filter (fun t => !(Text.trim t).isEmpty) = some task)
    (hchannel : param params "_channel" = some channel)
    (hchat : param params "_chat_id" = some chatId) (me : Nat) (ex : Exec) :
    let registered := register task (param params "label") channel chatId ex.shared
    poll me ex (spawnTool params) =
      (({ ex with shared := registered.1 }.spawnTask (.subagent registered.2)).1,
        .pure (.ok (Json.object [("task_id", .str registered.2), ("status", .str "running")]))) := by
  intro registered
  unfold spawnTool
  rw [htask]
  simp only [hchannel, hchat]
  rfl

/-! ## (3) The whole -/

/-- **The sub-agent tool checks its parameters before it starts anything.** For any JSON value
`params`, a call of the tool ends within one poll from any executor. When the `task` field holds
no string with a character that is not blank, the call is refused with `missing required
parameter: task`; otherwise, when `_channel` holds no string, with `missing origin channel`;
otherwise, when `_chat_id` holds no string, with `missing origin chat id`. A refused call leaves
the executor exactly as it was: no record, no worker, no callback. A call that passes takes a
fresh id, adds to the manager's table one record, running, with the task, the label when `label`
holds a string, and the origin; starts one worker for that id; and answers with
`{"status": "running", "task_id": id}`. When the fresh id is not in the table's order yet, the
running tasks grow by that record alone. -/
theorem spawn_tool_checks (params : Json) (me : Nat) (ex : Exec) :
    ((∀ t, params.get? "task" = some (.str t) → Text.AllBlank t) →
      poll me ex (spawnTool params) = (ex, .pure (.error "missing required parameter: task"))) ∧
    (∀ task, params.get? "task" = some (.str task) → ¬ Text.AllBlank task →
      (∀ c, params.get? "_channel" ≠ some (.str c)) →
      poll me ex (spawnTool params) = (ex, .pure (.error "missing origin channel"))) ∧
    (∀ task channel, params.get? "task" = some (.str task) → ¬ Text.AllBlank task →
      params.get? "_channel" = some (.str channel) → (∀ c, params.get? "_chat_id" ≠ some (.str c)) →
      poll me ex (spawnTool params) = (ex, .pure (.error "missing origin chat id"))) ∧
    (∀ task channel chatId, params.get? "task" = some (.str task) → ¬ Text.AllBlank task →
      params.get? "_channel" = some (.str channel) → params.get? "_chat_id" = some (.str chatId) →
      let id := ex.shared.freshTaskId.2
      let record := TaskTable.spawnRecord id task ((params.get? "label").bind Json.str?) channel chatId
      let after : Exec := ({ ex with shared := ex.shared.freshTaskId.1.modifySubagents fun m =>
        { m with table := m.table.insert record } }.spawnTask (.subagent id)).1
      poll me ex (spawnTool params) =
          (after, .pure (.ok (Json.object [("task_id", .str id), ("status", .str "running")]))) ∧
        ((∀ m, ex.shared.subagents = some m → id ∉ m.table.order) →
          after.shared.subagents.map (·.table.active) =
            ex.shared.subagents.map (·.table.active ++ [record]))) := by
  refine ⟨fun hblank => ?_, fun task ht hb hc => ?_, fun task channel ht hb hch hc => ?_,
    fun task channel chatId ht hb hch hc => ?_⟩
  -- Each refusal is the first check that fails; the checks before it passed.
  · apply poll_spawnTool_of_refused
    unfold spawnTool
    rw [(task_filter_eq_none_iff params).mpr hblank]
    rfl
  · apply poll_spawnTool_of_refused
    unfold spawnTool
    rw [task_filter_eq_some ht hb, param_eq_none_iff.mpr hc]
    rfl
  · apply poll_spawnTool_of_refused
    unfold spawnTool
    rw [task_filter_eq_some ht hb, param_eq_some_iff.mpr hch, param_eq_none_iff.mpr hc]
    rfl
  · refine ⟨poll_spawnTool_of_passed (task_filter_eq_some ht hb) (param_eq_some_iff.mpr hch)
      (param_eq_some_iff.mpr hc) me ex, fun hfresh => ?_⟩
    -- Starting the worker leaves the table; the registration adds the record to it.
    show (ex.shared.subagents.map _).map _ = _
    cases hm : ex.shared.subagents with
    | none => rfl
    | some m =>
      simp only [Option.map_some]
      rw [TaskTable.active_insert (hfresh m hm) rfl]

/-- A call with a task and the origin the engine injects passes the checks on a fresh executor
over a deployment with a manager. -/
theorem spawn_tool_checks_injected :
    let params : Json := .obj [("_channel", .str "cli"), ("_chat_id", .str "d"), ("task", .str "x")]
    let ex := Executor.start Job.program ({ subagents := some {} } : Deployment)
    params.get? "task" = some (.str "x") ∧ ¬ Text.AllBlank "x" ∧
      params.get? "_channel" = some (.str "cli") ∧ params.get? "_chat_id" = some (.str "d") ∧
      ∃ after, poll 1 ex (spawnTool params) = (after, .pure (.ok (Json.object
        [("task_id", .str ex.shared.freshTaskId.2), ("status", .str "running")]))) := by
  intro params ex
  have htask : params.get? "task" = some (.str "x") := rfl
  have hchannel : params.get? "_channel" = some (.str "cli") := rfl
  have hchat : params.get? "_chat_id" = some (.str "d") := rfl
  have hx : ¬ Text.AllBlank "x" := by
    have hlist : "x".toList = ['x'] := rfl
    intro h
    have hblank := h 'x' (by rw [hlist]; exact List.mem_singleton_self _)
    exact absurd hblank (by decide)
  exact ⟨htask, hx, hchannel, hchat, _,
    ((spawn_tool_checks params 1 ex).2.2.2 "x" "cli" "d" htask hx hchannel hchat).1⟩

end AgentRun

end ChatGateway
