import ChatGateway.Proofs.Decode.Record
import ChatGateway.Proofs.Scheduling.Residual
import ChatGateway.Gateway.AgentRun

/-! # Tool results fed back to the model

When the model asks for tools, the agent loop runs all the calls side by side and appends one tool
message per call, in call order, holding the call's output as compact JSON cut to 16 KiB. This
file says what each of those messages holds, whatever the tools do, however long they take and
whatever order they end in.

* `AgentRun.withContext_obj`: the arguments a tool runs on are the call's own with every field of
  the context set over them when both are objects (`AgentRun.lookupField_withContext`), and the
  call's own otherwise (`AgentRun.withContext_of_not_obj`).
* `AgentRun.Reported`: what the model may be told of one call: an unknown tool by name, or the
  value or the error a run of the registered tool ended with on those arguments.
* `AgentRun.callTool_runs`: every output a call ends with is reported so.
* `AgentRun.tool_results_in_call_order`: one poll of the calls polls each of them in turn; and
  once they have all ended, in whatever order, the tool messages answer the calls one by one,
  in call order, each with its call's id and its reported output.
-/

namespace ChatGateway

open Scheduling Scheduling.Executor Scheduling.Program

namespace AgentRun

/-! ## (1) The arguments a tool runs on -/

/-- Setting fields of an object one after another sets them in its field list. -/
theorem foldl_insert_obj (cs as : List (String × Json)) :
    cs.foldl (fun a (k, v) => a.insert k v) (Json.obj as) =
      .obj (cs.foldl (fun acc (k, v) => Json.insertField k v acc) as) := by
  induction cs generalizing as with
  | nil => rfl
  | cons kv cs ih => exact ih (Json.insertField kv.1 kv.2 as)

/-- **With an object context and object arguments,** the context's fields are set one after
another over the arguments' own. -/
theorem withContext_obj (cs as : List (String × Json)) :
    withContext (some (.obj cs)) (.obj as) =
      .obj (cs.foldl (fun acc (k, v) => Json.insertField k v acc) as) :=
  foldl_insert_obj cs as

/-- **Every key of the context is set:** it has the last value the context gives it, and every
other key keeps the arguments' own value. -/
theorem lookupField_withContext (cs as : List (String × Json)) (k : String) :
    (withContext (some (.obj cs)) (.obj as)).get? k =
      ((cs.reverse.find? (·.1 == k)).map (·.2)).or (Json.lookupField k as) := by
  rw [withContext_obj, Json.get?, Json.lookupField_foldl_insertField]

/-- Arguments that are not an object, or a context that is none, leave the arguments as they are. -/
theorem withContext_of_not_obj {context : Option Json} {args : Json}
    (h : ∀ cs as, context = some (.obj cs) → args ≠ .obj as) : withContext context args = args := by
  unfold withContext
  split
  · rename_i cs as
    exact absurd rfl (h cs as rfl)
  · rfl

/-! ## (2) What the model is told of one call -/

/-- **What the model may be told of one tool call** `c` made with `context`, when the tools run as
task `me`: an unknown tool by name; or, for the registered tool of that name, a value or an error
that a run of it ended with on the call's arguments with the context set. -/
inductive Reported (tools : ToolRegistry) (context : Option Json) (me : Nat) (c : ToolCall) :
    Json → Prop
  | unknown : tools.get? c.name = none →
      Reported tools context me c (.obj [("error", .str ("unknown tool: " ++ c.name))])
  | result {t : Tool} {v : Json} : tools.get? c.name = some t →
      Runs me (execute t (withContext context c.arguments)) (.pure (.ok v)) →
      Reported tools context me c (.obj [("result", v)])
  | error {t : Tool} {e : String} : tools.get? c.name = some t →
      Runs me (execute t (withContext context c.arguments)) (.pure (.error e)) →
      Reported tools context me c (.obj [("error", .str e)])

/-- **Every output a tool call ends with is reported:** whatever ran between its polls, the call
answers for an unknown tool by name, and otherwise wraps the value or the error its tool's run
ended with. -/
theorem callTool_runs {tools : ToolRegistry} {context : Option Json} {me : Nat} {c : ToolCall}
    {o : Json} (h : Runs me (callTool tools context c) (.pure o)) : Reported tools context me c o := by
  simp only [callTool, Program.bind_def, Program.pure_def] at h
  split at h
  · rename_i hnone
    cases Runs.of_pure h
    exact .unknown hnone
  · rename_i t ht
    -- The tool's run ended first; its outcome decides the output.
    obtain ⟨r, hr, hk⟩ := h.bind_pure
    cases r with
    | ok v =>
      cases Runs.of_pure hk
      exact .result ht hr
    | error e =>
      cases Runs.of_pure hk
      exact .error ht hr

/-! ## (3) The tool messages of a turn -/

/-- The tool messages answer the calls one by one when the outputs do. -/
theorem toolMessages_forall₂ {R : ToolCall → Json → Prop} {calls : List ToolCall}
    {outputs : List Json} (h : List.Forall₂ R calls outputs) :
    List.Forall₂ (fun c message => ∃ o, R c o ∧
      message = .tool c.id (ToolResult.truncate o.compact maxToolResultBytes))
      calls (toolMessages calls outputs) := by
  induction h with
  | nil => exact .nil
  | cons hco _ ih => exact .cons ⟨_, hco, rfl⟩ ih

/-- **Tool results go back to the model in call order.** The tool calls `calls` of a turn run
side by side as task `me`. Each poll of them polls every call's execution in turn, each from where
the one before left the executor, unless one panics; so every execution has started before any
result is used. A tool runs on the call's arguments with every field of the context set over
them, the last value the context gives a key replacing the call's own, when both are objects, and
on the call's arguments otherwise. And whatever order the executions end in, once they have all
ended with `outputs`, the tool messages appended answer the calls one by one, in call order: the
message for a call carries the call's id and its output as compact JSON cut to 16384 bytes, the
output being `{"result": v}` or `{"error": e}` for a value or an error the call's tool ended with,
or `{"error": "unknown tool: <name>"}` when no tool has the call's name. -/
theorem tool_results_in_call_order (tools : ToolRegistry) (context : Option Json)
    (calls : List ToolCall) (me : Nat) (outputs : List Json)
    (hrun : Runs me (all (calls.map (callTool tools context))) (.pure outputs)) :
    let executions := calls.map (callTool tools context)
    (∀ ex : Executor Job Deployment, (∃ m, (poll me ex (all executions)).2 = .panic m) ∨
      ∃ qs, PolledEach me ex executions (poll me ex (all executions)).1 qs ∧
        AllOf qs (poll me ex (all executions)).2) ∧
    (∀ cs as : List (String × Json), ∃ fs, withContext (some (.obj cs)) (.obj as) = .obj fs ∧
      (∀ k, Json.lookupField k fs =
        ((cs.reverse.find? (·.1 == k)).map (·.2)).or (Json.lookupField k as)) ∧
      (Json.Ascending as → Json.Ascending fs)) ∧
    (∀ args, (∀ cs as, context = some (.obj cs) → args ≠ .obj as) →
      withContext context args = args) ∧
    List.Forall₂ (fun c message => ∃ o, Reported tools context me c o ∧
      message = .tool c.id (ToolResult.truncate o.compact 16384)) calls (toolMessages calls outputs) := by
  intro executions
  refine ⟨fun ex => (allOf_all executions).poll_cases ex, fun cs as => ?_,
    fun _ => withContext_of_not_obj, ?_⟩
  · refine ⟨_, withContext_obj cs as, fun k => ?_, fun h => Json.ascending_foldl_insertField cs h⟩
    exact Json.lookupField_foldl_insertField k cs as
  · -- Each call's output is one its own run ended with, at its own place.
    have hcalls := List.forall₂_map_left_iff.1 (all_runs hrun)
    exact toolMessages_forall₂ (hcalls.imp fun _ _ => callTool_runs)

/-- Two calls of one turn, to a tool that gives its arguments back and to a tool no registry has,
answered in call order. -/
theorem tool_results_echo_and_unknown :
    let tools := ToolRegistry.ofList [.scripted { name := "echo" }]
    let calls : List ToolCall :=
      [⟨"c1", "echo", .obj [("x", .num (.nat 1))]⟩, ⟨"c2", "lookup", .null⟩]
    let outputs : List Json :=
      [.obj [("result", .obj [("x", .num (.nat 1))])], .obj [("error", .str "unknown tool: lookup")]]
    Runs 1 (all (calls.map (callTool tools none))) (.pure outputs) ∧
      List.Forall₂ (fun c message => ∃ o, Reported tools none 1 c o ∧
        message = .tool c.id (ToolResult.truncate o.compact 16384)) calls (toolMessages calls outputs) := by
  intro tools calls outputs
  -- Neither call waits: one poll from any executor ends both.
  have hrun : Runs 1 (all (calls.map (callTool tools none))) (.pure outputs) :=
    .single ⟨{ launch := fun _ => .pure (), shared := ({} : Deployment) }, rfl⟩
  exact ⟨hrun, (tool_results_in_call_order tools none calls 1 outputs hrun).2.2.2⟩

end AgentRun

end ChatGateway
