import ChatGateway.Proofs.Subagent.Frame
import ChatGateway.Proofs.Subagent.Waiting
import ChatGateway.Proofs.Lifecycle.Calls

/-! # A sub-agent worker racing its run against the time limit

A worker reads its task's record, then runs the agent loop on the task inside a time limit and a
panic boundary, and settles the record with what came first. On the clock the run reads as an
`Outcome` (`Spawn.run`), and the race against the limit as `Outcome.race`: a run that ends or
panics by the deadline wins, a run that ends later or never loses to the limit.

* `Spawn`: what a spawn fixes, the record as registered, the time and the worker task;
  `Spawn.settlement` is when and how the race ends, `Spawn.settled` the record it settles to.
* `Subagents.poll_run`, `Subagents.poll_finish`: the worker's first poll enters the race, and a
  race that is over settles the record and tells the callback within the same poll.
* `Worker.poll_race`: **a poll of the race at `τ` does what the reading says:** it is over at `τ`
  with the result of `Outcome.race`, or it waits on the limit's timer and on the sleeps of what is
  left of the run, which still reads as the same outcome.
-/

namespace ChatGateway

open Scheduling Scheduling.Executor

/-! ## (1) The race -/

namespace Outcome

variable {α : Type}

/-- **How a run races a deadline `D`:** when the race is over, and with the run's value, its
panic, or nothing when the deadline came first. A run that ends or panics at the deadline wins. -/
def race (o : Outcome α) (D : Nat) : Nat × Except String (Option α) :=
  match o with
  | .ends T a => if T ≤ D then (T, .ok (some a)) else (D, .ok none)
  | .fails T m => if T ≤ D then (T, .error m) else (D, .ok none)
  | .hangs => (D, .ok none)

theorem race_ends {T D : Nat} (a : α) (h : T ≤ D) : (ends T a).race D = (T, .ok (some a)) := by
  simp [race, h]

theorem race_fails {T D : Nat} (m : String) (h : T ≤ D) : (fails T m : Outcome α).race D = (T, .error m) := by
  simp [race, h]

/-- A run that does not end by the deadline loses to it. -/
theorem race_of_late {o : Outcome α} {D : Nat} (h : ∀ T, o.time? = some T → D < T) :
    o.race D = (D, .ok none) := by
  cases o with
  | ends T a => simp [race, Nat.not_le.2 (h T rfl)]
  | fails T m => simp [race, Nat.not_le.2 (h T rfl)]
  | hangs => rfl

/-- **The race is over no earlier than the run,** when that is no earlier than `τ ≤ D`. -/
theorem le_race_fst {o : Outcome α} {τ D : Nat} (hD : τ ≤ D) (ho : ∀ T, o.time? = some T → τ ≤ T) :
    τ ≤ (o.race D).1 := by
  cases o with
  | ends T a => by_cases h : T ≤ D <;> simp [race, h, ho T rfl, hD]
  | fails T m => by_cases h : T ≤ D <;> simp [race, h, ho T rfl, hD]
  | hangs => exact hD

end Outcome

/-! ## (2) What a spawn fixes -/

/-- **What the spawn of a sub-agent fixed:** the record as registered, the time of the spawn and
the worker task. -/
structure Spawn where
  record : SubagentTask
  start : Nat
  worker : Nat

namespace Spawn

variable (M : ProviderScript) (cfg : SubagentManager) (sp : Spawn)

/-- The deadline of the run: the spawn's time and the manager's time limit. -/
def deadline : Nat := sp.start + cfg.budget.timeoutMs

/-- **The run on the clock:** the agent loop of the task, with the manager's tools and budget,
read from the time of the spawn. -/
def run : Outcome (Except String RunResult) × List (List ChatMessage) :=
  (AgentRun.timed M cfg.tools Subagents.systemPrompt sp.record.task cfg.budget.maxIterations
    none).run sp.start

/-- **When and how the worker's race ends.** -/
def settlement : Nat × Except String (Option (Except String RunResult)) :=
  (sp.run M cfg).1.race (sp.deadline cfg)

/-- **The record the task settles to.** -/
def settled : SubagentTask :=
  sp.record.settleWith (Subagents.outcomeOf (sp.settlement M cfg).2)

/-- The race is over no earlier than the spawn. -/
theorem start_le_settlement (hspawn : Tool.spawnSubagent ∉ cfg.tools.tools) :
    sp.start ≤ (sp.settlement M cfg).1 := by
  have ht := AgentRun.run_timedAs M hspawn Subagents.systemPrompt sp.record.task
    cfg.budget.maxIterations none sp.start
  exact Outcome.le_race_fst (Nat.le_add_right _ _) fun T hT => ht.le_time hT

end Spawn

/-! ## (3) The worker's program -/

namespace Subagents

/-- **A worker in the race,** on the limit's timer `tm` due at `due`, with `inner` left of the
run; what comes first settles the task. -/
def racing (id : String) (c : Option CompletionCallback) (due tm : Nat)
    (inner : Act (Except String RunResult)) : Act Unit :=
  .guard (.timeout due (some tm) inner .pure) (finish id c)

/-- **The worker's first poll enters the race:** the record is there, and the time limit runs
from now. -/
theorem poll_run (me : Nat) (ex : Exec) {id : String} {m : SubagentManager}
    (hm : ex.shared.subagents = some m) {rec : SubagentTask} (hrec : m.table.get? id = some rec) :
    poll me ex (run id) = poll me ex (.guard (.timeout (ex.now + m.budget.timeoutMs) none
      (AgentRun.run m.tools systemPrompt rec.task m.budget.maxIterations none) .pure)
      (finish id m.callback)) := by
  unfold run
  simp only [Program.bind_def]
  rw [poll_read_bind, hm]
  simp only [hrec, Program.catching, Program.within, Program.bind]
  -- Entering the limit reads the clock.
  conv => lhs; unfold poll
  conv => rhs; unfold poll
  rfl

/-- **A race that is over settles the task and tells the callback,** in the same poll. -/
theorem poll_finish (me : Nat) (ex : Exec) (id : String) (c : Option CompletionCallback)
    (r : Except String (Option (Except String RunResult))) :
    poll me ex (finish id c r) =
      poll me { ex with shared := (settle id r ex.shared).1 } (notify id (settle id r ex.shared).2 c) :=
  rfl

end Subagents

/-! ## (4) A poll of the race -/

section Race

variable {β : Type} {me : Nat} {ex ex₁ : Exec} {d : Nat} {t : Option Nat} {inner p : Act β}
  {K : Except String (Option β) → Act Unit}

/-- The run ends within the poll: its value goes on. -/
theorem poll_race_pure {b : β} (h : poll me ex inner = (ex₁, .pure b)) :
    poll me ex (.guard (.timeout d t inner .pure) K) = poll me ex₁ (K (.ok (some b))) := by
  simp only [poll, h]

/-- The run panics within the poll: the boundary catches it. -/
theorem poll_race_panic {m : String} (h : poll me ex inner = (ex₁, .panic m)) :
    poll me ex (.guard (.timeout d t inner .pure) K) = poll me ex₁ (K (.error m)) := by
  simp only [poll, h]

/-- The run waits and the deadline has come: the limit wins. -/
theorem poll_race_late (h : poll me ex inner = (ex₁, p)) (hp : p.isDone = false)
    (hd : d ≤ ex₁.now) :
    poll me ex (.guard (.timeout d t inner .pure) K) = poll me ex₁ (K (.ok none)) := by
  cases p with
  | pure b => cases hp
  | panic m => cases hp
  | _ => simp only [poll, h, if_pos hd]

/-- The run waits before the deadline, which has its timer: the race waits. -/
theorem poll_race_waits {tm : Nat} (h : poll me ex inner = (ex₁, p)) (hp : p.isDone = false)
    (hd : ex₁.now < d) :
    poll me ex (.guard (.timeout d (some tm) inner .pure) K) =
      (ex₁, .guard (.timeout d (some tm) p .pure) K) := by
  cases p with
  | pure b => cases hp
  | panic m => cases hp
  | _ => simp only [poll, h, if_neg (Nat.not_le.2 hd)]

/-- The run waits before the deadline, which takes a timer: the race waits on it. -/
theorem poll_race_arms (h : poll me ex inner = (ex₁, p)) (hp : p.isDone = false)
    (hd : ex₁.now < d) :
    poll me ex (.guard (.timeout d none inner .pure) K) =
      ((ex₁.addTimer d me).1, .guard (.timeout d (some ex₁.nextId) p .pure) K) := by
  cases p with
  | pure b => cases hp
  | panic m => cases hp
  | _ => simp only [poll, h, if_neg (Nat.not_le.2 hd)]; rfl

end Race

namespace Worker

variable {β : Type} {M : ProviderScript}

/-- **A poll of the race at `τ` does what the reading of the run says.** Either the race is over
at `τ`, and the poll goes on from an executor the run's own steps reached with the result of
`Outcome.race`; or the deadline is later and the race waits, on the limit's timer and on the
sleeps of what is left of the run, due after `τ`, and what is left still reads as the same
outcome, asking the model on the rest of the transcripts. -/
theorem poll_race {A : Exec → Exec → Prop} {w : Nat} {inner : Act β}
    (hin : Program.Within A w true inner) (htimer : ∀ ex d, A ex (ex.addTimer d w).1)
    {τ : Nat} {o : Outcome β} {cs : List (List ChatMessage)} (h : Timed M true inner τ o cs)
    (ex : Exec) (hnow : ex.now = τ) (hM : ex.shared.model = M)
    (hreg : ∀ x ∈ inner.sleeps, τ < x.1 → (⟨x.2, x.1, w⟩ : Timer) ∈ ex.timers)
    {D : Nat} (hD : τ ≤ D) (t : Option Nat)
    (ht : ∀ tm, t = some tm → τ < D → (⟨tm, D, w⟩ : Timer) ∈ ex.timers)
    (K : Except String (Option β) → Act Unit) :
    (∃ ex₁, Relation.ReflTransGen A ex ex₁ ∧ ex₁.now = τ ∧ (o.race D).1 = τ ∧
        poll w ex (.guard (.timeout D t inner .pure) K) = poll w ex₁ (K (o.race D).2)) ∨
    (τ < D ∧ ∃ ex₁ tm p cs₂, Relation.ReflTransGen A ex ex₁ ∧ ex₁.now = τ ∧
        poll w ex (.guard (.timeout D t inner .pure) K) =
          (ex₁, .guard (.timeout D (some tm) p .pure) K) ∧
        Program.Waiting p ∧ Program.Within A w true p ∧ Timed M true p τ o cs₂ ∧ cs₂ <:+ cs ∧
        (∀ x ∈ p.sleeps, τ < x.1 ∧ (⟨x.2, x.1, w⟩ : Timer) ∈ ex₁.timers) ∧
        (⟨tm, D, w⟩ : Timer) ∈ ex₁.timers) := by
  obtain ⟨cs₁, cs₂, -, hcs, -, hL⟩ := Timed.poll h w ex hnow hM hreg
  obtain ⟨hreach, hres⟩ := hin.poll_spec ex
  have hsteady := poll_steady w ex inner
  rcases hp : poll w ex inner with ⟨ex₁, p⟩
  rw [hp] at hL hreach hres hsteady
  have hnow₁ : ex₁.now = τ := hsteady.now.trans hnow
  cases hL with
  | ended a =>
    -- The run ends within the poll, by the deadline.
    exact .inl ⟨ex₁, hreach, hnow₁, by rw [Outcome.race_ends a hD], by
      rw [poll_race_pure hp, Outcome.race_ends a hD]⟩
  | failed m =>
    exact .inl ⟨ex₁, hreach, hnow₁, by rw [Outcome.race_fails m hD], by
      rw [poll_race_panic hp, Outcome.race_fails m hD]⟩
  | waiting hw htimed hs =>
    have hL : Timed.Left M w τ ex₁.timers o cs₂ p := .waiting hw htimed hs
    by_cases hlate : D ≤ τ
    · -- The deadline has come with the run still waiting: it ends, if ever, after the deadline.
      have hDτ : D = τ := Nat.le_antisymm hlate hD
      have hrace : o.race D = (τ, .ok none) := by
        rw [Outcome.race_of_late fun T hT => hDτ ▸ hL.after hw hT, hDτ]
      exact .inl ⟨ex₁, hreach, hnow₁, by rw [hrace], by
        rw [poll_race_late hp hw.isDone (hnow₁ ▸ hlate), hrace]⟩
    · have hlt : τ < D := Nat.lt_of_not_le hlate
      refine .inr ⟨hlt, ?_⟩
      have hsuffix : cs₂ <:+ cs := hcs ▸ List.suffix_append cs₁ cs₂
      cases t with
      | some tm =>
        exact ⟨ex₁, tm, p, cs₂, hreach, hnow₁, poll_race_waits hp hw.isDone (hnow₁ ▸ hlt), hw,
          hres, htimed, hsuffix, hs, hsteady.timers _ (ht tm rfl hlt)⟩
      | none =>
        -- The limit takes its timer now.
        refine ⟨(ex₁.addTimer D w).1, ex₁.nextId, p, cs₂, hreach.tail (htimer ex₁ D), hnow₁,
          poll_race_arms hp hw.isDone (hnow₁ ▸ hlt), hw, hres, htimed, hsuffix, fun x hx => ?_, ?_⟩
        · exact ⟨(hs x hx).1, mem_insertTimer.2 (.inr (hs x hx).2)⟩
        · exact mem_insertTimer.2 (.inl rfl)

end Worker

end ChatGateway
