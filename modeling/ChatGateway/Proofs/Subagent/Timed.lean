import ChatGateway.Proofs.Scheduling.Poll
import ChatGateway.Gateway.AgentRun

/-! # The agent loop on the virtual clock

A sub-agent's run talks to nothing but the model and its scripted tools: it asks the model,
sleeps for the delay of each of the model's steps and of each tool, and runs the tool calls of a
turn side by side. What it does is fixed by the model's script and by the time it starts: how it
ends (with a value, in a panic, or never) and when, and the transcripts it asks the model on.

* `Outcome`: how and when a computation on the clock ends. `Outcome.both` is how two computations
  run side by side end: with both values at the later end, in the earlier panic, or never.
* `Clocked`: a computation on the clock, as a function of its start time. It is a monad, so the
  agent loop, written for any monad, runs in it: `AgentRun.timed` is the loop on the clock, with
  the model's script and the scripted tools.
* `Timed M top p τ o cs`: the program `p`, started at `τ` with the model's script `M`, ends as `o`
  after asking the model on the transcripts `cs`, in order. It follows the program's constructors,
  one rule for each effect an agent run has. A program that has been polled waits on registered
  timers; `top` allows that at its front, where a poll leaves it, and nowhere else.
* `TimedAs M p x`: the program `p` runs as the computation `x` from every start time. It is kept by
  `pure` and `>>=` (`TimedAs.bind`), so the loop over related turns and tools is related
  (`TimedAs.loop`), and an agent run without the sub-agent tool runs as `AgentRun.timed`
  (`AgentRun.run_timedAs`).
* `AgentRun.timed_calls_le`: a run asks the model at most as many times as its budget.
-/

namespace ChatGateway

open Scheduling

/-! ## (1) Outcomes and computations on the clock -/

/-- **How and when a computation on the clock ends.** -/
inductive Outcome (α : Type) where
  /-- With a value, at a time. -/
  | ends (time : Nat) (a : α)
  /-- In a panic, at a time. -/
  | fails (time : Nat) (message : String)
  /-- Never. -/
  | hangs

namespace Outcome

variable {α β γ : Type}

/-- The outcome with its value changed. -/
def map (f : α → β) : Outcome α → Outcome β
  | .ends T a => .ends T (f a)
  | .fails T m => .fails T m
  | .hangs => .hangs

/-- **Two computations side by side,** polled in turn, the first first: both values at the later
end, the earlier panic (the first's when they panic together), and otherwise never. -/
def both : Outcome β → Outcome γ → Outcome (β × γ)
  | .ends T b, .ends U c => .ends (max T U) (b, c)
  | .fails T m, .fails U m' => if T ≤ U then .fails T m else .fails U m'
  | .fails T m, _ => .fails T m
  | _, .fails U m' => .fails U m'
  | _, _ => .hangs

/-- Side by side, both end only when each does, at the later end. -/
theorem both_eq_ends {ob : Outcome β} {oc : Outcome γ} {T : Nat} {r : β × γ}
    (h : ob.both oc = .ends T r) :
    ∃ T₁ T₂, ob = .ends T₁ r.1 ∧ oc = .ends T₂ r.2 ∧ T = max T₁ T₂ := by
  cases ob <;> cases oc <;> simp only [both, reduceCtorEq] at h
  · obtain ⟨rfl, rfl⟩ := h
    exact ⟨_, _, rfl, rfl, rfl⟩
  · split at h <;> cases h

end Outcome

/-- **A computation on the clock:** from its start time, how it ends and the transcripts it asks
the model on, in order. -/
structure Clocked (α : Type) where
  run : Nat → Outcome α × List (List ChatMessage)

namespace Clocked

variable {α β : Type}

/-- A value at once. -/
protected def pure (a : α) : Clocked α := ⟨fun τ => (.ends τ a, [])⟩

/-- **Sequencing:** the continuation starts when the computation ends, and a panic or a hang
ends both; the transcripts follow each other. -/
protected def bind (x : Clocked α) (f : α → Clocked β) : Clocked β :=
  ⟨fun τ =>
    match x.run τ with
    | (.ends T a, cs) => ((f a).run T).map id (cs ++ ·)
    | (.fails T m, cs) => (.fails T m, cs)
    | (.hangs, cs) => (.hangs, cs)⟩

instance : Monad Clocked where
  pure := Clocked.pure
  bind := Clocked.bind

@[simp] theorem run_pure (a : α) (τ : Nat) : (Pure.pure a : Clocked α).run τ = (.ends τ a, []) :=
  rfl

theorem run_bind (x : Clocked α) (f : α → Clocked β) (τ : Nat) :
    (x >>= f).run τ =
      match x.run τ with
      | (.ends T a, cs) => ((f a).run T).map id (cs ++ ·)
      | (.fails T m, cs) => (.fails T m, cs)
      | (.hangs, cs) => (.hangs, cs) := rfl

/-- A computation that never asks the model. -/
def quiet (f : Nat → Outcome α) : Clocked α := ⟨fun τ => (f τ, [])⟩

/-- **How a turn of the scripted model ends,** asked at `τ`: an exhausted script fails the turn
at once, and a step, after its delay, hangs, panics, fails or answers. -/
def ask (M : ProviderScript) (messages : List ChatMessage) (schemas : List Json) (τ : Nat) :
    Outcome (Except String Completion) :=
  match M.stepFor messages with
  | none => .ends τ (.error ProviderScript.exhausted)
  | some s =>
    match s.turn messages schemas with
    | .hang => .hangs
    | .panic m => .fails (τ + s.delayMs) m
    | .fail m => .ends (τ + s.delayMs) (.error m)
    | .answer c => .ends (τ + s.delayMs) (.ok c)

/-- **One turn of the model on the clock,** asked on its transcript. -/
def complete (M : ProviderScript) (messages : List ChatMessage) (schemas : List Json) :
    Clocked (Except String Completion) :=
  ⟨fun τ => (ask M messages schemas τ, [messages])⟩

/-- **A scripted tool on the clock:** its delay, then its action. -/
def execute (s : ScriptedTool) (params : Json) (τ : Nat) : Outcome (Except String Json) :=
  match s.action with
  | .echo => .ends (τ + s.delayMs) (.ok params)
  | .fail m => .ends (τ + s.delayMs) (.error m)
  | .give v => .ends (τ + s.delayMs) (.ok v)
  | .long piece times => .ends (τ + s.delayMs) (.ok (.str (String.join (List.replicate times piece))))
  | .panic m => .fails (τ + s.delayMs) m

/-- **One tool call on the clock,** answered with `{"result": …}` or `{"error": …}`. The
sub-agent tool starts a task of the deployment and has no meaning on the clock alone; a
registry without it (a sub-agent's) runs only scripted tools. -/
def callTool (tools : ToolRegistry) (context : Option Json) (c : ToolCall) (τ : Nat) : Outcome Json :=
  match tools.get? c.name with
  | some (.scripted s) =>
    (execute s (AgentRun.withContext context c.arguments) τ).map fun r =>
      match r with
      | .ok v => Json.object [("result", v)]
      | .error e => Json.object [("error", .str e)]
  | _ => .ends τ (Json.object [("error", .str ("unknown tool: " ++ c.name))])

/-- **Computations side by side,** polled in order, as `Program.all` runs them. -/
def all {β : Type} : List (Nat → Outcome β) → Nat → Outcome (List β)
  | [], τ => .ends τ []
  | [f], τ => (f τ).map fun b => [b]
  | f :: fs, τ => ((f τ).both (all fs τ)).map fun r => r.1 :: r.2

end Clocked

/-- **An agent run on the clock:** the loop in `Clocked`, with the model's script `M` and the
registry's tools run side by side. -/
def AgentRun.timed (M : ProviderScript) (tools : ToolRegistry) (system user : String)
    (maxIterations : Nat) (context : Option Json) : Clocked (Except String RunResult) :=
  AgentRun.loop (Clocked.complete M)
    (fun calls => Clocked.quiet (Clocked.all (calls.map (Clocked.callTool tools context))))
    tools.schemas maxIterations [.system system, .user user] {}

/-! ## (2) Programs on the clock -/

/-- **A program on the clock:** started at `τ` with the model's script `M`, the program ends as
`o` after asking the model on the transcripts `cs`. A call of the model is recorded and takes
the script's step for its transcript; a sleep goes on at its deadline, or at once when that has
passed; two computations side by side, neither of which asks the model, end as `Outcome.both`
says, and the continuation of two values starts at the later one. A sleep on a registered timer,
as a poll leaves it, is allowed only at the front of a program (`top`): every continuation is
fresh. -/
inductive Timed (M : ProviderScript) :
    Bool → {α : Type} → Act α → Nat → Outcome α → List (List ChatMessage) → Prop where
  | pure {top : Bool} {α : Type} (a : α) (τ : Nat) : Timed M top (.pure a) τ (.ends τ a) []
  | panic {top : Bool} {α : Type} (m : String) (τ : Nat) :
      Timed M top (.panic (α := α) m) τ (.fails τ m) []
  | pending {top : Bool} {α : Type} (τ : Nat) : Timed M top (.pending (α := α)) τ .hangs []
  | ask {top : Bool} {α : Type} (messages : List ChatMessage) (schemas : List Json)
      {k : Option ScriptStep → Act α} {τ : Nat} {o : Outcome α} {cs : List (List ChatMessage)} :
      Timed M false (k (M.stepFor messages)) τ o cs →
      Timed M top (.step (AgentRun.logCall messages schemas) k) τ o (messages :: cs)
  | clock {top : Bool} {α : Type} {k : Nat → Act α} {τ : Nat} {o : Outcome α}
      {cs : List (List ChatMessage)} :
      Timed M false (k τ) τ o cs → Timed M top (.clock k) τ o cs
  | sleep {top : Bool} {α : Type} (d : Nat) {k : Unit → Act α} {τ : Nat} {o : Outcome α}
      {cs : List (List ChatMessage)} :
      Timed M false (k ()) (max τ d) o cs → Timed M top (.sleepUntil d none k) τ o cs
  | asleep {α : Type} (d id : Nat) {k : Unit → Act α} {τ : Nat} {o : Outcome α}
      {cs : List (List ChatMessage)} :
      Timed M false (k ()) (max τ d) o cs → Timed M true (.sleepUntil d (some id) k) τ o cs
  | both {top : Bool} {α β γ : Type} {p : Act β} {q : Act γ} {k : β × γ → Act α} {τ T U : Nat}
      {b : β} {c : γ} {o : Outcome α} {cs : List (List ChatMessage)} :
      Timed M top p τ (.ends T b) [] → Timed M top q τ (.ends U c) [] →
      Timed M false (k (b, c)) (max T U) o cs → Timed M top (.both p q k) τ o cs
  | bothFails {top : Bool} {α β γ : Type} {p : Act β} {q : Act γ} (k : β × γ → Act α) {τ : Nat}
      {op : Outcome β} {oq : Outcome γ} {T : Nat} {m : String} :
      Timed M top p τ op [] → Timed M top q τ oq [] → op.both oq = .fails T m →
      Timed M top (.both p q k) τ (.fails T m) []
  | bothHangs {top : Bool} {α β γ : Type} {p : Act β} {q : Act γ} (k : β × γ → Act α) {τ : Nat}
      {op : Outcome β} {oq : Outcome γ} :
      Timed M top p τ op [] → Timed M top q τ oq [] → op.both oq = .hangs →
      Timed M top (.both p q k) τ .hangs []

namespace Timed

variable {M : ProviderScript} {top : Bool} {α β : Type}

/-- A fresh program may also stand at the front. -/
theorem relax {p : Act α} {τ : Nat} {o : Outcome α} {cs : List (List ChatMessage)}
    (h : Timed M false p τ o cs) : Timed M true p τ o cs := by
  generalize hf : false = top at h
  induction h with
  | pure a τ => exact .pure a τ
  | panic m τ => exact .panic m τ
  | pending τ => exact .pending τ
  | ask messages schemas hk _ => exact .ask messages schemas hk
  | clock hk _ => exact .clock hk
  | sleep d hk _ => exact .sleep d hk
  | asleep => cases hf
  | both _ _ hk ihp ihq _ => exact .both (ihp hf) (ihq hf) hk
  | bothFails k _ _ hb ihp ihq => exact .bothFails k (ihp hf) (ihq hf) hb
  | bothHangs k _ _ hb ihp ihq => exact .bothHangs k (ihp hf) (ihq hf) hb

/-- **A program that ends goes on with its continuation,** from its end. -/
theorem bind_ends {p : Act α} {τ : Nat} {o : Outcome α} {cs : List (List ChatMessage)}
    (hp : Timed M top p τ o cs) {T : Nat} {a : α} (ho : o = .ends T a) {f : α → Act β}
    {o' : Outcome β} {cs' : List (List ChatMessage)} (hf : Timed M false (f a) T o' cs') :
    Timed M top (p.bind f) τ o' (cs ++ cs') := by
  -- The induction follows the program up to its value; a value at the front is the fresh
  -- continuation's start.
  induction hp with
  | @pure top a τ =>
    cases ho
    cases top
    · exact hf
    · exact hf.relax
  | panic => cases ho
  | pending => cases ho
  | ask messages schemas _ ih => exact .ask messages schemas (ih ho hf)
  | clock _ ih => exact .clock (ih ho hf)
  | sleep d _ ih => exact .sleep d (ih ho hf)
  | asleep d id _ ih => exact .asleep d id (ih ho hf)
  | both hp hq _ _ _ ih => exact .both hp hq (ih ho hf)
  | bothFails => cases ho
  | bothHangs => cases ho

/-- **A program that panics takes its continuation with it.** -/
theorem bind_fails {p : Act α} {τ : Nat} {o : Outcome α} {cs : List (List ChatMessage)}
    (hp : Timed M top p τ o cs) {T : Nat} {m : String} (ho : o = .fails T m) (f : α → Act β) :
    Timed M top (p.bind f) τ (.fails T m) cs := by
  induction hp with
  | pure => cases ho
  | panic m τ =>
    cases ho
    exact .panic m _
  | pending => cases ho
  | ask messages schemas _ ih => exact .ask messages schemas (ih ho f)
  | clock _ ih => exact .clock (ih ho f)
  | sleep d _ ih => exact .sleep d (ih ho f)
  | asleep d id _ ih => exact .asleep d id (ih ho f)
  | both hp hq _ _ _ ih => exact .both hp hq (ih ho f)
  | bothFails k hp hq hb =>
    cases ho
    exact .bothFails _ hp hq hb
  | bothHangs => cases ho

/-- **A program that hangs takes its continuation with it.** -/
theorem bind_hangs {p : Act α} {τ : Nat} {o : Outcome α} {cs : List (List ChatMessage)}
    (hp : Timed M top p τ o cs) (ho : o = .hangs) (f : α → Act β) :
    Timed M top (p.bind f) τ .hangs cs := by
  induction hp with
  | pure => cases ho
  | panic => cases ho
  | pending τ => exact .pending τ
  | ask messages schemas _ ih => exact .ask messages schemas (ih ho f)
  | clock _ ih => exact .clock (ih ho f)
  | sleep d _ ih => exact .sleep d (ih ho f)
  | asleep d id _ ih => exact .asleep d id (ih ho f)
  | both hp hq _ _ _ ih => exact .both hp hq (ih ho f)
  | bothFails => cases ho
  | bothHangs k hp hq hb => exact .bothHangs _ hp hq hb

/-- **A quiet program followed by a value:** the outcome with its value changed. -/
theorem map {γ : Type} {p : Act γ} {τ : Nat} {o : Outcome γ} (hp : Timed M false p τ o [])
    {f : γ → Act α} {F : γ → α} (hf : ∀ c, f c = .pure (F c)) :
    Timed M false (p.bind f) τ (o.map F) [] := by
  cases o with
  | ends T c =>
    have h := hp.bind_ends rfl (f := f) (by rw [hf]; exact .pure (F c) T)
    exact h
  | fails T m => exact hp.bind_fails rfl f
  | hangs => exact hp.bind_hangs rfl f

/-- **A sleep of `ms`** goes on `ms` later. -/
theorem sleep_bind {ms : Nat} {k : Unit → Act α} {τ : Nat} {o : Outcome α}
    {cs : List (List ChatMessage)} (h : Timed M false (k ()) (τ + ms) o cs) :
    Timed M top ((Program.sleep ms).bind k) τ o cs := by
  refine .clock (.sleep _ ?_)
  rw [Nat.max_eq_right (Nat.le_add_right τ ms)]
  exact h

end Timed

/-! ## (3) Programs that run as computations on the clock -/

/-- **The program `p` runs on the clock as `x`:** from every start time it ends as `x` says,
asking the model on the same transcripts. -/
def TimedAs (M : ProviderScript) {α : Type} (p : Act α) (x : Clocked α) : Prop :=
  ∀ τ, Timed M false p τ (x.run τ).1 (x.run τ).2

namespace TimedAs

variable {M : ProviderScript} {α β : Type}

theorem pure (a : α) : TimedAs M (Pure.pure a : Act α) (Pure.pure a) := fun τ => .pure a τ

/-- **Sequencing keeps programs and computations related.** -/
theorem bind {p : Act α} {x : Clocked α} {f : α → Act β} {g : α → Clocked β}
    (hp : TimedAs M p x) (hf : ∀ a, TimedAs M (f a) (g a)) : TimedAs M (p >>= f) (x >>= g) := by
  intro τ
  have h := hp τ
  rcases hx : x.run τ with ⟨o, cs⟩
  rw [hx] at h
  cases o with
  | ends T a =>
    simp only [Clocked.run_bind, hx, Prod.map_fst, Prod.map_snd, id]
    exact h.bind_ends rfl (hf a T)
  | fails T m =>
    simp only [Clocked.run_bind, hx]
    exact h.bind_fails rfl f
  | hangs =>
    simp only [Clocked.run_bind, hx]
    exact h.bind_hangs rfl f

/-- A quiet program runs as its outcome. -/
theorem quiet {p : Act α} {f : Nat → Outcome α} (h : ∀ τ, Timed M false p τ (f τ) []) :
    TimedAs M p (Clocked.quiet f) := h

/-- **The agent loop over related turns and tool runs is related,** whatever the budget: the
loop is written for any monad, and each step of it is a `pure` or a `>>=`. -/
theorem loop {ask : List ChatMessage → List Json → Act (Except String Completion)}
    {runTools : List ToolCall → Act (List Json)}
    {ask' : List ChatMessage → List Json → Clocked (Except String Completion)}
    {runTools' : List ToolCall → Clocked (List Json)}
    (hask : ∀ messages schemas, TimedAs M (ask messages schemas) (ask' messages schemas))
    (htools : ∀ calls, TimedAs M (runTools calls) (runTools' calls)) (schemas : List Json)
    (fuel : Nat) (messages : List ChatMessage) (r : RunResult) :
    TimedAs M (AgentRun.loop ask runTools schemas fuel messages r)
      (AgentRun.loop ask' runTools' schemas fuel messages r) := by
  -- The induction follows the budget, as `loop` does.
  induction fuel generalizing messages r with
  | zero => exact pure _
  | succ fuel ih =>
    unfold AgentRun.loop
    refine (hask _ _).bind fun answer => ?_
    cases answer with
    | error e => exact pure _
    | ok c =>
      dsimp only
      split
      · exact pure _
      · exact (htools _).bind fun _ => ih _ _

end TimedAs

/-! ## (4) The agent run on the clock -/

namespace AgentRun

variable {M : ProviderScript}

/-- **One turn of the model** runs as `Clocked.complete`. -/
theorem complete_timedAs (M : ProviderScript) (messages : List ChatMessage) (schemas : List Json) :
    TimedAs M (complete messages schemas) (Clocked.complete M messages schemas) := by
  intro τ
  refine .ask messages schemas ?_
  dsimp only [Clocked.complete, Clocked.ask, Program.bind]
  cases M.stepFor messages with
  | none => exact .pure _ τ
  | some s =>
    dsimp only
    refine Timed.sleep_bind ?_
    cases s.turn messages schemas with
    | hang => exact .pending _
    | panic m => exact .panic m _
    | fail m => exact .pure _ _
    | answer c => exact .pure _ _

/-- The sub-agent tool is not in a registry that does not hold it. -/
theorem get?_ne_spawnSubagent {tools : ToolRegistry} (hspawn : Tool.spawnSubagent ∉ tools.tools)
    (n : String) : tools.get? n ≠ some .spawnSubagent :=
  fun h => hspawn (List.mem_of_find?_eq_some h)

/-- **One tool call** of a registry without the sub-agent tool runs as `Clocked.callTool`,
without asking the model. -/
theorem callTool_timed {tools : ToolRegistry} (hspawn : Tool.spawnSubagent ∉ tools.tools)
    (context : Option Json) (c : ToolCall) (τ : Nat) :
    Timed M false (callTool tools context c) τ (Clocked.callTool tools context c τ) [] := by
  unfold callTool Clocked.callTool
  cases ht : tools.get? c.name with
  | none => exact .pure _ τ
  | some t =>
    cases t with
    | spawnSubagent => exact absurd ht (get?_ne_spawnSubagent hspawn c.name)
    | scripted s =>
      dsimp only
      -- The tool sleeps its delay, then acts; its result is wrapped.
      have hexec : Timed M false (execute (.scripted s) (withContext context c.arguments)) τ
          (Clocked.execute s (withContext context c.arguments) τ) [] := by
        unfold execute Clocked.execute
        refine Timed.sleep_bind ?_
        cases s.action with
        | echo => exact .pure _ _
        | fail m => exact .pure _ _
        | give v => exact .pure _ _
        | long piece times => exact .pure _ _
        | panic m => exact .panic m _
      exact hexec.map fun r => by cases r <;> rfl

/-- **Tool calls side by side** run as `Clocked.all`, without asking the model. -/
theorem all_timed {γ β : Type} (g : γ → Act β) (g' : γ → Nat → Outcome β)
    (hg : ∀ x τ, Timed M false (g x) τ (g' x τ) []) (xs : List γ) (τ : Nat) :
    Timed M false (Program.all (xs.map g)) τ (Clocked.all (xs.map g') τ) [] := by
  -- The induction follows `Program.all`: one program, or one beside the rest.
  induction xs with
  | nil => exact .pure _ τ
  | cons x xs ih =>
    cases xs with
    | nil => exact (hg x τ).map fun _ => rfl
    | cons y ys =>
      simp only [List.map_cons, Program.all, Clocked.all] at ih ⊢
      cases hb : (g' x τ).both (Clocked.all (g' y :: ys.map g') τ) with
      | ends T r =>
        obtain ⟨T₁, T₂, h₁, h₂, rfl⟩ := Outcome.both_eq_ends hb
        have hx := hg x τ
        rw [h₁] at hx
        rw [h₂] at ih
        exact .both hx ih (.pure _ _)
      | fails T m => exact .bothFails _ (hg x τ) ih hb
      | hangs => exact .bothHangs _ (hg x τ) ih hb

/-- **An agent run of a registry without the sub-agent tool** runs as `AgentRun.timed`: the
loop with the model's script, and the tools on the clock. -/
theorem run_timedAs (M : ProviderScript) {tools : ToolRegistry}
    (hspawn : Tool.spawnSubagent ∉ tools.tools) (system user : String) (maxIterations : Nat)
    (context : Option Json) :
    TimedAs M (run tools system user maxIterations context)
      (timed M tools system user maxIterations context) :=
  TimedAs.loop (complete_timedAs M) (fun calls => TimedAs.quiet
    (all_timed _ _ (callTool_timed hspawn context) calls)) _ _ _ _

end AgentRun

/-! ## (5) How many times a run asks the model -/

/-- **A computation that asks the model at most `n` times,** whenever it starts. -/
def Clocked.AsksAtMost {α : Type} (n : Nat) (x : Clocked α) : Prop :=
  ∀ τ, (x.run τ).2.length ≤ n

namespace Clocked.AsksAtMost

variable {α β : Type}

/-- A turn of the model asks it once. -/
theorem complete (M : ProviderScript) (messages : List ChatMessage) (schemas : List Json) :
    AsksAtMost 1 (Clocked.complete M messages schemas) := fun _ => Nat.le_refl 1

/-- A quiet computation never asks. -/
theorem quiet (f : Nat → Outcome α) : AsksAtMost 0 (Clocked.quiet f) := fun _ => Nat.le_refl 0

theorem mono {x : Clocked α} {n n' : Nat} (h : AsksAtMost n x) (hn : n ≤ n') : AsksAtMost n' x :=
  fun τ => Nat.le_trans (h τ) hn

theorem pure (a : α) : AsksAtMost 0 (Pure.pure a : Clocked α) := fun _ => Nat.le_refl 0

/-- **Sequencing adds the counts.** -/
theorem bind {x : Clocked α} {f : α → Clocked β} {n k : Nat} (hx : AsksAtMost n x)
    (hf : ∀ a, AsksAtMost k (f a)) : AsksAtMost (n + k) (x >>= f) := by
  intro τ
  have h := hx τ
  rcases hr : x.run τ with ⟨o, cs⟩
  rw [hr] at h
  cases o with
  | ends T a =>
    simp only [Clocked.run_bind, hr, Prod.map_snd, List.length_append]
    exact Nat.add_le_add h (hf a T)
  | fails T m =>
    simp only [Clocked.run_bind, hr]
    exact Nat.le_trans h (Nat.le_add_right n k)
  | hangs =>
    simp only [Clocked.run_bind, hr]
    exact Nat.le_trans h (Nat.le_add_right n k)

/-- **A loop whose turns ask once and whose tools never ask** asks at most its budget. -/
theorem loop {ask : List ChatMessage → List Json → Clocked (Except String Completion)}
    {runTools : List ToolCall → Clocked (List Json)}
    (hask : ∀ messages schemas, AsksAtMost 1 (ask messages schemas))
    (htools : ∀ calls, AsksAtMost 0 (runTools calls)) (schemas : List Json) (fuel : Nat)
    (messages : List ChatMessage) (r : RunResult) :
    AsksAtMost fuel (AgentRun.loop ask runTools schemas fuel messages r) := by
  induction fuel generalizing messages r with
  | zero => exact pure _
  | succ fuel ih =>
    unfold AgentRun.loop
    rw [Nat.add_comm]
    refine (hask _ _).bind fun answer => ?_
    cases answer with
    | error e => exact (pure _).mono (Nat.zero_le _)
    | ok c =>
      dsimp only
      split
      · exact (pure _).mono (Nat.zero_le _)
      · exact ((htools _).bind fun _ => ih _ _).mono (Nat.le_of_eq (Nat.zero_add fuel))

end Clocked.AsksAtMost

/-- **A run asks the model at most as many times as its budget.** -/
theorem AgentRun.timed_calls_le (M : ProviderScript) (tools : ToolRegistry) (system user : String)
    (maxIterations : Nat) (context : Option Json) (τ : Nat) :
    ((AgentRun.timed M tools system user maxIterations context).run τ).2.length ≤ maxIterations :=
  Clocked.AsksAtMost.loop (Clocked.AsksAtMost.complete M) (fun _ => Clocked.AsksAtMost.quiet _) _ _ _
    _ τ

end ChatGateway
