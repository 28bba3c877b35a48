import Mathlib
import ChatGateway.Gateway.AgentRun

/-! # What the agent loop does with every model

The agent loop is written for any monad, given one turn of the model and a way to run the tool
calls of a turn. Here it runs against a model that answers by an arbitrary function of the
transcript and the schemas it is offered, with every call logged, and tools that answer by an
arbitrary function of the call: the control of the loop, its transcript and its result are
then described for every such model, every budget and every registry.

* `ToolRegistry.ascending_ofList`: a registry lists its tools by strictly ascending names, one
  per name registered, so the schemas it offers are in name order.
* `AgentRun.Continues`: the turns of a run that asked for tools, each answered to the transcript
  the turns before it built; `AgentRun.turn` is what one such turn adds to the transcript.
* `AgentRun.Ending`: how a run ends after those turns, and the result it gives.
* `AgentRun.loop_logged`: the run lemma, by induction on the budget.
* `agent_loop_control`: the loop from the opening transcript, with the result's counters in
  closed form.
-/

namespace ChatGateway

/-! ## (1) The registry offers its tools in ascending order of names -/

namespace ToolRegistry

/-- The tools after an insertion are the new tool and the old ones. -/
theorem mem_insertTool {t u : Tool} {l : List Tool} (h : u ∈ insertTool t l) : u = t ∨ u ∈ l := by
  induction l with
  | nil => simpa [insertTool] using h
  | cons v rest ih =>
    simp only [insertTool] at h
    split at h
    · simp only [List.mem_cons] at h
      rcases h with rfl | h
      · exact .inl rfl
      · exact .inr (List.mem_cons_of_mem _ h)
    · split at h
      · simpa using h
      · simp only [List.mem_cons] at h
        rcases h with rfl | h
        · exact .inr List.mem_cons_self
        · exact (ih h).imp_right (List.mem_cons_of_mem _)

/-- The inserted tool is in the registry. -/
theorem self_mem_insertTool (t : Tool) (l : List Tool) : t ∈ insertTool t l := by
  induction l with
  | nil => simp [insertTool]
  | cons v rest ih =>
    simp only [insertTool]
    split
    · exact List.mem_cons_self
    · split
      · exact List.mem_cons_self
      · exact List.mem_cons_of_mem _ ih

/-- An insertion drops only the tool of the inserted tool's name. -/
theorem mem_insertTool_of_ne {t v : Tool} {l : List Tool} (hv : v ∈ l) (hne : v.name ≠ t.name) :
    v ∈ insertTool t l := by
  induction l with
  | nil => simp at hv
  | cons w rest ih =>
    simp only [insertTool]
    rcases List.mem_cons.1 hv with rfl | hv
    · split
      · rename_i heq
        exact absurd heq.symm hne
      · split
        · exact List.mem_cons_of_mem _ List.mem_cons_self
        · exact List.mem_cons_self
    · split
      · exact List.mem_cons_of_mem _ hv
      · split
        · exact List.mem_cons_of_mem _ (List.mem_cons_of_mem _ hv)
        · exact List.mem_cons_of_mem _ (ih hv)

/-- **An insertion keeps the names strictly ascending.** -/
theorem ascending_insertTool (t : Tool) {l : List Tool}
    (h : (l.map Tool.name).Pairwise (· < ·)) : ((insertTool t l).map Tool.name).Pairwise (· < ·) := by
  induction l with
  | nil => simp [insertTool]
  | cons v rest ih =>
    rw [List.map_cons, List.pairwise_cons] at h
    obtain ⟨hv, hrest⟩ := h
    have hv' : ∀ u ∈ rest, v.name < u.name := fun u hu => hv _ (List.mem_map_of_mem hu)
    simp only [insertTool]
    split
    · -- The tool of the same name is replaced: the names stay as they were.
      rename_i heq
      rw [List.map_cons, heq]
      exact List.pairwise_cons.2 ⟨hv, hrest⟩
    · split
      · -- The new name is the least.
        rename_i hlt
        simp only [List.map_cons, List.pairwise_cons, List.mem_cons, List.mem_map]
        refine ⟨?_, ⟨?_, hrest⟩⟩
        · rintro _ (rfl | ⟨u, hu, rfl⟩)
          · exact hlt
          · exact lt_trans hlt (hv' u hu)
        · rintro _ ⟨u, hu, rfl⟩
          exact hv' u hu
      · -- The new name goes after `v`.
        rename_i hne hnlt
        have hvt : v.name < t.name := lt_of_le_of_ne (not_lt.1 hnlt) (Ne.symm hne)
        simp only [List.map_cons, List.pairwise_cons, List.mem_map]
        refine ⟨?_, ih hrest⟩
        rintro _ ⟨u, hu, rfl⟩
        rcases mem_insertTool hu with rfl | hu
        · exact hvt
        · exact hv' u hu

/-- Registering tools one after another keeps the names strictly ascending. -/
theorem ascending_foldl_register (ts : List Tool) {r : ToolRegistry}
    (h : (r.tools.map Tool.name).Pairwise (· < ·)) :
    ((ts.foldl register r).tools.map Tool.name).Pairwise (· < ·) := by
  induction ts generalizing r with
  | nil => exact h
  | cons t ts ih => exact ih (ascending_insertTool t h)

/-- The tools after registering are tools registered, or there before. -/
theorem mem_foldl_register {ts : List Tool} {r : ToolRegistry} {u : Tool}
    (h : u ∈ (ts.foldl register r).tools) : u ∈ r.tools ∨ u ∈ ts := by
  induction ts generalizing r with
  | nil => exact .inl h
  | cons t ts ih =>
    rcases ih h with h | h
    · rcases mem_insertTool h with rfl | h
      · exact .inr List.mem_cons_self
      · exact .inl h
    · exact .inr (List.mem_cons_of_mem _ h)

/-- Every name registered, or there before, has a tool after registering. -/
theorem exists_name_foldl_register (ts : List Tool) {r : ToolRegistry} {v : Tool}
    (hv : v ∈ r.tools ∨ v ∈ ts) : ∃ u ∈ (ts.foldl register r).tools, u.name = v.name := by
  induction ts generalizing r v with
  | nil =>
    rcases hv with hv | hv
    · exact ⟨v, hv, rfl⟩
    · simp at hv
  | cons t ts ih =>
    rcases hv with hv | hv
    · by_cases hne : v.name = t.name
      · -- `v` gave way to `t`, which has its name.
        obtain ⟨u, hu, hname⟩ := ih (r := register r t) (.inl (self_mem_insertTool t r.tools))
        exact ⟨u, hu, hname.trans hne.symm⟩
      · exact ih (.inl (mem_insertTool_of_ne hv hne))
    · rcases List.mem_cons.1 hv with rfl | hv
      · exact ih (.inl (self_mem_insertTool _ _))
      · exact ih (.inr hv)

/-- **A registry built from a list of tools** lists them by strictly ascending names, one tool
for every name in the list, and nothing else. -/
theorem ascending_ofList (ts : List Tool) :
    ((ofList ts).tools.map Tool.name).Pairwise (· < ·) ∧
      (∀ t ∈ ts, ∃ u ∈ (ofList ts).tools, u.name = t.name) ∧ ∀ u ∈ (ofList ts).tools, u ∈ ts := by
  refine ⟨ascending_foldl_register ts List.Pairwise.nil,
    fun t ht => exists_name_foldl_register ts (.inr ht), fun u hu => ?_⟩
  rcases mem_foldl_register hu with hu | hu
  · simp at hu
  · exact hu

end ToolRegistry

/-! ## (2) A model that answers by a function of the transcript -/

/-- Usages added up, each counter stopping at its largest value. -/
def Usage.total (us : List Usage) : Usage :=
  ⟨min (us.map (·.inputTokens)).sum Usage.maxCount, min (us.map (·.outputTokens)).sum Usage.maxCount⟩

/-- **Adding usages one by one, each counter stopping at its largest value,** stops at the
largest value of the whole sum: a counter that reached it stays there. -/
theorem Usage.foldl_add (us : List Usage) {u : Usage} (hin : u.inputTokens ≤ maxCount)
    (hout : u.outputTokens ≤ maxCount) :
    us.foldl Usage.add u = ⟨min (u.inputTokens + (us.map (·.inputTokens)).sum) maxCount,
      min (u.outputTokens + (us.map (·.outputTokens)).sum) maxCount⟩ := by
  induction us generalizing u with
  | nil =>
    simp only [List.foldl_nil, List.map_nil, List.sum_nil, Nat.add_zero]
    rw [Nat.min_eq_left hin, Nat.min_eq_left hout]
  | cons v us ih =>
    rw [List.foldl_cons, ih (Nat.min_le_right _ _) (Nat.min_le_right _ _)]
    simp only [Usage.add, List.map_cons, List.sum_cons]
    congr 1 <;> omega

/-- From no usage, the counters are the clamped sums. -/
theorem Usage.foldl_add_zero (us : List Usage) : us.foldl Usage.add {} = Usage.total us := by
  rw [Usage.foldl_add us (Nat.zero_le _) (Nat.zero_le _)]
  simp [Usage.total]

namespace AgentRun

/-- Computations that log the calls of the model, each with its transcript and the schemas
offered. -/
abbrev Logged := StateM (List (List ChatMessage × List Json))

/-- **A model that answers by `answer`,** a function of the transcript and the schemas, logging
every call. -/
def Logged.model (answer : List ChatMessage → List Json → Except String Completion)
    (messages : List ChatMessage) (schemas : List Json) : Logged (Except String Completion) :=
  modifyGet fun log => (answer messages schemas, log ++ [(messages, schemas)])

/-- Tools that answer each call by `out`. -/
def Logged.tools (out : ToolCall → Json) (calls : List ToolCall) : Logged (List Json) :=
  pure (calls.map out)

/-! ## (3) Turns, and how a run ends -/

/-- **What a turn that asks for tools adds to the transcript:** the model's turn, then one tool
message per call, in call order, holding the call's output cut to the budget. -/
def turn (out : ToolCall → Json) (c : Completion) : List ChatMessage :=
  .assistant c.text c.toolCalls :: c.toolCalls.map fun tc =>
    .tool tc.id (ToolResult.truncate (out tc).compact maxToolResultBytes)

/-- The tool messages of outputs given call by call. -/
theorem toolMessages_map (out : ToolCall → Json) (calls : List ToolCall) :
    toolMessages calls (calls.map out) = calls.map fun tc =>
      .tool tc.id (ToolResult.truncate (out tc).compact maxToolResultBytes) := by
  induction calls with
  | nil => rfl
  | cons tc calls ih =>
    simp only [toolMessages, List.map_cons, List.zip_cons_cons] at ih ⊢
    rw [ih]

/-- A turn holds one model turn: its tool messages are no model turns. -/
theorem assistants_turn (out : ToolCall → Json) (c : Completion) :
    ((turn out c).filter ChatMessage.isAssistant).length = 1 := by
  have htools : (c.toolCalls.map fun tc => ChatMessage.tool tc.id
      (ToolResult.truncate (out tc).compact maxToolResultBytes)).filter ChatMessage.isAssistant = [] := by
    simp [List.filter_eq_nil_iff, ChatMessage.isAssistant]
  simp [turn, List.filter_cons, ChatMessage.isAssistant, htools]

/-- The turns of a transcript hold one model turn each. -/
theorem assistants_flatMap_turn (out : ToolCall → Json) (cs : List Completion) :
    ((cs.flatMap (turn out)).filter ChatMessage.isAssistant).length = cs.length := by
  induction cs with
  | nil => rfl
  | cons c cs ih =>
    rw [List.flatMap_cons, List.filter_append, List.length_append, assistants_turn, ih,
      List.length_cons, Nat.add_comm]

section

variable (answer : List ChatMessage → List Json → Except String Completion)
  (out : ToolCall → Json) (schemas : List Json)

/-- **The turns that asked for tools:** from the transcript `messages`, the model answered the
turns `cs` one after another, each to the transcript the ones before it built, and each asked for
at least one tool. -/
def Continues : List ChatMessage → List Completion → Prop
  | _, [] => True
  | messages, c :: cs => answer messages schemas = .ok c ∧ c.toolCalls ≠ [] ∧
      Continues (messages ++ turn out c) cs

end

/-- **How a run ends** after its turns that asked for tools: the budget ran out, the model
answered without tool calls, or the model failed. -/
inductive Ending where
  | exhausted
  | answered (c : Completion)
  | failed (e : String)

namespace Ending

/-- The calls of the model in a run with `turns` turns that asked for tools: the last call ended
the run, unless the budget ran out. -/
def calls (turns : Nat) : Ending → Nat
  | .exhausted => turns
  | .answered _ | .failed _ => turns + 1

/-- **How a run may end** after `turns` turns that asked for tools, with a budget of `fuel`
iterations, the last call being on `transcript`. -/
def Valid (answer : List ChatMessage → List Json → Except String Completion) (schemas : List Json)
    (fuel turns : Nat) (transcript : List ChatMessage) : Ending → Prop
  | .exhausted => turns = fuel
  | .answered c => turns < fuel ∧ answer transcript schemas = .ok c ∧ c.toolCalls = []
  | .failed e => turns < fuel ∧ answer transcript schemas = .error e

/-- **The result of a run** from `r` whose turns that asked for tools were `cs`: the counters
grow by the turns, the text is the last one given, and an answer without tool calls gives its
own text. -/
def result (r : RunResult) (cs : List Completion) : Ending → Except String RunResult
  | .exhausted => .ok { r with
      iterations := r.iterations + cs.length
      toolCallsMade := r.toolCallsMade + (cs.map fun c => c.toolCalls.length).sum
      usage := (cs.map (·.usage)).foldl Usage.add r.usage
      text := (cs.filterMap (·.text)).getLast?.orElse fun _ => r.text
      exhausted := true }
  | .answered c => .ok { r with
      iterations := r.iterations + cs.length + 1
      toolCallsMade := r.toolCallsMade + (cs.map fun c => c.toolCalls.length).sum
      usage := ((cs ++ [c]).map (·.usage)).foldl Usage.add r.usage
      text := c.text }
  | .failed e => .error e

theorem calls_succ (e : Ending) (turns : Nat) : e.calls (turns + 1) = e.calls turns + 1 := by
  cases e <;> rfl

/-- A run that goes on after one more turn that asked for tools may end the same way, one
iteration later. -/
theorem Valid.succ {answer : List ChatMessage → List Json → Except String Completion}
    {schemas : List Json} {e : Ending} {fuel turns : Nat} {transcript : List ChatMessage}
    (h : e.Valid answer schemas fuel turns transcript) :
    e.Valid answer schemas (fuel + 1) (turns + 1) transcript := by
  cases e with
  | exhausted => exact congrArg (· + 1) h
  | answered c => exact ⟨Nat.succ_lt_succ h.1, h.2⟩
  | failed e => exact ⟨Nat.succ_lt_succ h.1, h.2⟩

/-- The last text of the turns from `c` on: the last one after `c`, or else `c`'s own. -/
theorem lastText_cons (c : Completion) (cs : List Completion) (t : Option String) :
    ((c :: cs).filterMap (·.text)).getLast?.orElse (fun _ => t) =
      (cs.filterMap (·.text)).getLast?.orElse fun _ => c.text.orElse fun _ => t := by
  cases hc : c.text with
  | none => simp [hc]
  | some x =>
    simp only [List.filterMap_cons, hc, List.getLast?_cons, Option.orElse_some]
    cases (cs.filterMap (·.text)).getLast? <;> rfl

/-- **A turn that asked for tools, seen from the end of the run:** the counters it added and the
text it left are those the result counts for it. -/
theorem result_cons (e : Ending) (r : RunResult) (c : Completion) (cs : List Completion) :
    e.result { r with
        iterations := r.iterations + 1, usage := r.usage.add c.usage,
        text := c.text.orElse fun _ => r.text,
        toolCallsMade := r.toolCallsMade + c.toolCalls.length } cs =
      e.result r (c :: cs) := by
  cases e with
  | exhausted =>
    simp only [result, List.length_cons, List.map_cons, List.sum_cons, List.foldl_cons,
      lastText_cons]
    congr 2 <;> omega
  | answered c' =>
    simp only [result, List.length_cons, List.map_cons, List.sum_cons, List.cons_append,
      List.foldl_cons]
    congr 2 <;> omega
  | failed e => rfl

end Ending

section

variable (answer : List ChatMessage → List Json → Except String Completion)
  (out : ToolCall → Json) (schemas : List Json)

/-- **One iteration of the logged loop:** the call is logged with its transcript, and the answer
decides the rest: an error ends the run, an answer without tool calls ends it with its text, and
a turn that asked for tools goes on with the turn added to the transcript. -/
theorem loop_logged_succ (fuel : Nat) (messages : List ChatMessage) (r : RunResult)
    (log : List (List ChatMessage × List Json)) :
    (loop (Logged.model answer) (Logged.tools out) schemas (fuel + 1) messages r).run log =
      match answer messages schemas with
      | .error e => (.error e, log ++ [(messages, schemas)])
      | .ok c =>
        if c.toolCalls = [] then
          (.ok { r with
            iterations := r.iterations + 1, usage := r.usage.add c.usage, text := c.text },
            log ++ [(messages, schemas)])
        else
          (loop (Logged.model answer) (Logged.tools out) schemas fuel (messages ++ turn out c)
            { r with
              iterations := r.iterations + 1, usage := r.usage.add c.usage,
              text := c.text.orElse fun _ => r.text,
              toolCallsMade := r.toolCallsMade + c.toolCalls.length }).run
            (log ++ [(messages, schemas)]) := by
  simp only [loop, StateT.run_bind, Logged.model, StateT.run_modifyGet, pure_bind]
  cases answer messages schemas with
  | error e => rfl
  | ok c =>
    by_cases hc : c.toolCalls = []
    · simp only [hc, List.isEmpty_nil, if_true]
      rfl
    · simp [hc, Logged.tools, toolMessages_map, turn]

/-- **The logged loop, for any budget:** the turns that asked for tools were answered one after
another, the run ended as `Ending.Valid` allows with the result `Ending.result`, and the log
holds one call per turn and the call that ended the run, unless the budget ran out; each call
with the transcript the turns before it built, and the schemas. -/
theorem loop_logged (fuel : Nat) (messages : List ChatMessage) (r : RunResult)
    (log : List (List ChatMessage × List Json)) :
    ∃ (cs : List Completion) (e : Ending), Continues answer out schemas messages cs ∧
      e.Valid answer schemas fuel cs.length (messages ++ cs.flatMap (turn out)) ∧
      (loop (Logged.model answer) (Logged.tools out) schemas fuel messages r).run log =
        (e.result r cs, log ++ (List.range (e.calls cs.length)).map fun k =>
          (messages ++ (cs.take k).flatMap (turn out), schemas)) := by
  -- The induction follows the budget, as `loop` does; a turn that asked for tools goes first in
  -- the list of turns the rest of the run gives.
  induction fuel generalizing messages r log with
  | zero =>
    refine ⟨[], .exhausted, trivial, rfl, ?_⟩
    simp only [loop, Ending.result, Ending.calls, List.length_nil, List.range_zero, List.map_nil,
      List.append_nil]
    rfl
  | succ fuel ih =>
    rw [loop_logged_succ]
    cases hans : answer messages schemas with
    | error e =>
      refine ⟨[], .failed e, trivial, ⟨Nat.succ_pos _, by simpa using hans⟩, ?_⟩
      simp [Ending.result, Ending.calls]
    | ok c =>
      by_cases hc : c.toolCalls = []
      · refine ⟨[], .answered c, trivial, ⟨Nat.succ_pos _, by simpa using hans, hc⟩, ?_⟩
        simp [hc, Ending.result, Ending.calls]
      · obtain ⟨cs, e, hcont, hvalid, hrun⟩ :=
          ih (messages ++ turn out c) _ (log ++ [(messages, schemas)])
        refine ⟨c :: cs, e, ⟨hans, hc, hcont⟩, ?_, ?_⟩
        · simpa [List.append_assoc] using hvalid.succ
        · dsimp only
          rw [if_neg hc, hrun, Ending.result_cons, List.length_cons, Ending.calls_succ,
            List.range_succ_eq_map]
          simp [List.append_assoc, Function.comp_def]

end

/-! ## (4) The agent loop from the opening transcript -/

/-- **What the agent loop does with every model.** Run from the system prompt and the user
message with a budget of `n` iterations, against a model that answers each transcript by `answer`
and tools that answer each call by `out`, the loop calls the model at most `n` times, each time
with the registry's schemas: one per tool name registered, in ascending order of names. The calls
are those of the turns `cs` that asked for tools, each answered to the transcript the ones before
it built: the `k`-th call (from 0) gets the opening followed, for each earlier turn, by the
model's turn and one tool message per call in call order, so it holds `k` model turns. Then
either the budget ran out after `n` such turns, and the result is exhausted with the last text
given; or one more call ended the run, with an answer without tool calls whose text is the
result's, or with the model's error, which the run returns. The result counts its calls as
iterations, the tool calls asked for, and the tokens used, each count stopping at its largest
value. -/
theorem agent_loop_control (answer : List ChatMessage → List Json → Except String Completion)
    (out : ToolCall → Json) (ts : List Tool) (system user : String) (n : Nat) :
    let tools := ToolRegistry.ofList ts
    let opening := [ChatMessage.system system, .user user]
    let run := (loop (Logged.model answer) (Logged.tools out) tools.schemas n opening {}).run []
    (∃ sorted : List Tool, tools.schemas = sorted.map Tool.schema ∧
      (sorted.map Tool.name).Pairwise (· < ·) ∧ (∀ t ∈ ts, ∃ u ∈ sorted, u.name = t.name) ∧
      ∀ u ∈ sorted, u ∈ ts) ∧
    run.2.length ≤ n ∧
    ∃ cs : List Completion, Continues answer out tools.schemas opening cs ∧
      run.2 = (List.range run.2.length).map
        (fun k => (opening ++ (cs.take k).flatMap (turn out), tools.schemas)) ∧
      run.2.map (fun call => (call.1.filter ChatMessage.isAssistant).length) =
        List.range run.2.length ∧
      ((run.2.length = n ∧ cs.length = n ∧
          run.1 = .ok {
            text := (cs.filterMap (·.text)).getLast?, iterations := n,
            toolCallsMade := (cs.map fun c => c.toolCalls.length).sum,
            usage := Usage.total (cs.map (·.usage)), exhausted := true }) ∨
        (∃ c, run.2.length = cs.length + 1 ∧
          answer (opening ++ cs.flatMap (turn out)) tools.schemas = .ok c ∧ c.toolCalls = [] ∧
          run.1 = .ok {
            text := c.text, iterations := cs.length + 1,
            toolCallsMade := (cs.map fun c => c.toolCalls.length).sum,
            usage := Usage.total ((cs ++ [c]).map (·.usage)), exhausted := false }) ∨
        (∃ e, run.2.length = cs.length + 1 ∧
          answer (opening ++ cs.flatMap (turn out)) tools.schemas = .error e ∧
          run.1 = .error e)) := by
  intro tools opening run
  obtain ⟨hsorted, hnames, hmem⟩ := ToolRegistry.ascending_ofList ts
  obtain ⟨cs, e, hcont, hvalid, hrun⟩ := loop_logged answer out tools.schemas n opening {} []
  have hlog : run.2 = (List.range (e.calls cs.length)).map
      fun k => (opening ++ (cs.take k).flatMap (turn out), tools.schemas) := by
    simp only [run, hrun, List.nil_append]
  have hres : run.1 = e.result {} cs := by simp only [run, hrun]
  have hlen : run.2.length = e.calls cs.length := by
    rw [hlog, List.length_map, List.length_range]
  have hcalls : e.calls cs.length ≤ cs.length + 1 := by
    cases e <;> simp [Ending.calls]
  -- The `k`-th transcript holds the `k` turns before it, each with one model turn.
  have hturns : run.2.map (fun call => (call.1.filter ChatMessage.isAssistant).length) =
      List.range run.2.length := by
    rw [hlen, hlog, List.map_map]
    conv_rhs => rw [← List.map_id (List.range _)]
    refine List.map_congr_left fun k hk => ?_
    have hk : k ≤ cs.length := by
      have := List.mem_range.1 hk
      omega
    simp [opening, ChatMessage.isAssistant, assistants_flatMap_turn, hk]
  refine ⟨⟨tools.tools, rfl, hsorted, hnames, hmem⟩, ?_, cs, hcont, by rw [hlen]; exact hlog,
    hturns, ?_⟩
  · cases e with
    | exhausted => exact hlen.trans_le (Nat.le_of_eq hvalid)
    | answered c => exact hlen.trans_le hvalid.1
    | failed e => exact hlen.trans_le hvalid.1
  · cases e with
    | exhausted =>
      refine .inl ⟨hlen.trans hvalid, hvalid, ?_⟩
      rw [hres, ← hvalid]
      simp [Ending.result, Usage.foldl_add_zero]
    | answered c =>
      refine .inr (.inl ⟨c, hlen, hvalid.2.1, hvalid.2.2, ?_⟩)
      rw [hres]
      simp [Ending.result, Usage.foldl_add_zero, -List.foldl_append]
    | failed e => exact .inr (.inr ⟨e, hlen, hvalid.2, hres⟩)

end AgentRun

end ChatGateway
