import ChatGateway.Proofs.Subagent.Runner
import ChatGateway.Proofs.Subagent.Counter

/-! # Every spawned sub-agent task settles once, when its race ends

The invariant of the sub-agents between two moves of the executor (`Workers.Inv`) is the ledger
of every task with each registered task's worker on time for its phase. Every paced move keeps it
(`Workers.Inv.move`), with the ghost moving on (`Workers.Advances`): an entry keeps its spawn, and
a settled entry stays settled. An id generated by a move has a fresh entry spawned at that move's
time.

* `Workers.Inv.runTask`: a run of any task: a worker before its settlement races, any other task
  runs within the frame, and a task that is cancelled or has ended ends.
* `Workers.Inv.move`, `Workers.Inv.reach`: every paced move, and every paced run.
* `Workers.task_table_logged`: in every reachable state the manager's table is the table of a
  log of distinct spawns and of settlements, so it keeps the table's invariant.
-/

namespace ChatGateway

open Scheduling Scheduling.Executor

/-! ## (1) Runs that end a task -/

namespace Scheduling.Executor

variable {ι σ : Type}

/-- **Running a task with nothing left to run ends it,** as the invariants see it. -/
theorem runTask_seen_of_pure (ex : Executor ι σ) (main : MainView) {t : Nat} {k : Task ι σ}
    (hk : ex.task? t = some k) (hc : k.cancelled = false) (hp : k.program = .pure ()) :
    (ex.runTask main t).seen = ex.seen.setLook t (some ⟨.pure (), true, false⟩) := by
  rw [runTask_seen ex main hk hc, hp]
  show (ex.markRunning t).seen.setLook t
      (((ex.markRunning t).task? t).map fun k' => TaskView.after (.pure ()) k'.cancelled) = _
  rw [task?_markRunning ex hk]
  unfold markRunning
  rw [seen_modifyTask, hk]
  simp only [Option.map_some, Seen.setLook, Function.update_idem, TaskView.after, hc]
  rfl

end Scheduling.Executor

/-- **A manager made for sub-agents offers them no tool under the sub-agent tool's name.** -/
theorem SubagentManager.name_ne_spawnName (tools : ToolRegistry) (budget : SubagentBudget)
    (cb : Option CompletionCallback) :
    ∀ t ∈ (SubagentManager.new tools budget cb).tools.tools, t.name ≠ Tool.spawnName := by
  intro t ht hname
  simp only [SubagentManager.new, ToolRegistry.cloneWithout, List.mem_filter] at ht
  rw [hname] at ht
  simp at ht

/-- So the sub-agent tool is not among them. -/
theorem SubagentManager.spawnSubagent_not_mem (tools : ToolRegistry) (budget : SubagentBudget)
    (cb : Option CompletionCallback) :
    Tool.spawnSubagent ∉ (SubagentManager.new tools budget cb).tools.tools :=
  fun h => SubagentManager.name_ne_spawnName tools budget cb _ h rfl

namespace Workers

variable {M : ProviderScript} {cfg : SubagentManager} {base N : Nat} {Φ : Ghost}

/-! ## (2) Tasks that end -/

theorem Phase.eq_settled {φ : Phase} (h : φ.IsSettled) : φ = .settled := by
  cases φ with
  | settled => rfl
  | fresh => exact (h : False).elim
  | racing => exact (h : False).elim

/-- **An entry whose worker shows it has ended, or is cancelled, has settled:** before the
settlement a worker is neither. -/
theorem Book.settled_of_look {s : Seen Job Deployment} (h : Book M cfg base Φ 0 s) {u : Nat}
    {v : TaskView Job Deployment} (hv : s.look u = some v)
    (hv' : v.done = true ∨ v.cancelled = true) :
    ∀ id sp φ, Φ id = some (sp, φ) → sp.worker = u → φ.IsSettled := by
  rintro id sp φ hΦ rfl
  have hl := h.looks id sp φ hΦ (h.worker id sp φ hΦ).1
  -- The view of a worker before its settlement shows it neither ended nor cancelled.
  have hfalse : ∀ p, s.look sp.worker = some ⟨p, false, false⟩ → False := by
    intro p hp
    rw [hv] at hp
    cases Option.some.inj hp
    simp at hv'
  cases φ with
  | fresh => exact hfalse _ hl.1
  | racing inner tm => exact hfalse _ hl.1
  | settled => trivial

/-- **A task that shows it ended keeps the ledger,** when the entries it is the worker of have
settled. -/
theorem Book.setLook_ended {s : Seen Job Deployment} {u : Nat} (h : Book M cfg base Φ u s)
    (hsettled : ∀ id sp φ, Φ id = some (sp, φ) → sp.worker = u → φ.IsSettled) (c : Bool)
    (u' : Nat) : Book M cfg base Φ u' (s.setLook u (some ⟨.pure (), true, c⟩)) := by
  refine h.setLook (fun id sp φ hΦ hw => ?_) (fun hd => by cases hd)
    (fun _ => rfl) u'
  obtain rfl := Phase.eq_settled (hsettled id sp φ hΦ hw)
  refine ⟨⟨.pure (), true, c⟩, ?_, fun hd => by cases hd⟩
  show Function.update s.look u _ sp.worker = _
  rw [hw, Function.update_self]

/-! ## (3) The invariant -/

variable (M cfg)

/-- **The invariant of the sub-agents between two moves:** the ledger of every task, registered
since `base`, with every registered task's worker on time for its phase. -/
structure Inv (base : Nat) (Φ : Ghost) (ex : Exec) : Prop where
  book : Book M cfg base Φ 0 ex.seen
  size : ex.tasks.size ≠ 0
  timing : ∀ id sp φ, Φ id = some (sp, φ) → TimingAt M cfg ex sp φ

/-- **The ledger moves on:** every entry keeps its spawn, and a settled entry stays settled. -/
def Advances (Φ Φ' : Ghost) : Prop :=
  ∀ id sp φ, Φ id = some (sp, φ) → ∃ φ', Φ' id = some (sp, φ') ∧ (φ.IsSettled → φ'.IsSettled)

variable {M cfg}

theorem Advances.refl (Φ : Ghost) : Advances Φ Φ := fun _ _ φ h => ⟨φ, h, id⟩

theorem Advances.trans {Φ₁ Φ₂ Φ₃ : Ghost} (h₁ : Advances Φ₁ Φ₂) (h₂ : Advances Φ₂ Φ₃) :
    Advances Φ₁ Φ₃ := by
  intro id sp φ hΦ
  obtain ⟨φ₂, hΦ₂, hs₂⟩ := h₁ id sp φ hΦ
  obtain ⟨φ₃, hΦ₃, hs₃⟩ := h₂ id sp φ₂ hΦ₂
  exact ⟨φ₃, hΦ₃, hs₃ ∘ hs₂⟩

theorem Grows.advances {Φ Φ' : Ghost} (h : Grows Φ Φ') : Advances Φ Φ' :=
  fun id _ φ hΦ => ⟨φ, h id _ hΦ, fun hs => hs⟩

/-- **The timing of every entry after task `u` ran,** from the timing before: an entry whose worker
is another task and was there before is carried, and a new entry's worker was started by the run
and is queued. -/
theorem timing_run {ex ex' : Exec} {u : Nat} {Φ' : Ghost}
    (ht : ∀ id sp φ, Φ id = some (sp, φ) → TimingAt M cfg ex sp φ) (hs : SteadyBut u ex ex')
    (hold : ∀ id sp φ, Φ' id = some (sp, φ) → sp.worker ≠ u → Φ id ≠ none →
      Φ id = some (sp, φ))
    (hf : FreshSince Φ Φ' ex.now ex.seen)
    (hq : ∀ t, ex.task? t = none → ∀ k, ex'.task? t = some k → k.state = .queued)
    (hlook : ∀ id sp φ, Φ' id = some (sp, φ) → ex'.look sp.worker ≠ none)
    (hu : ∀ id sp φ, Φ' id = some (sp, φ) → sp.worker = u → TimingAt M cfg ex' sp φ) :
    ∀ id sp φ, Φ' id = some (sp, φ) → TimingAt M cfg ex' sp φ := by
  intro id sp φ hΦ'
  by_cases hw : sp.worker = u
  · exact hu id sp φ hΦ' hw
  cases hΦ : Φ id with
  | none =>
    -- A new entry: its worker was started in this run, and is queued.
    obtain ⟨rfl, hT, hl⟩ := hf id sp φ hΦ' hΦ
    have hl : ex.look sp.worker = none := hl
    have hnone : ex.task? sp.worker = none := by
      simpa only [look, Option.map_eq_none_iff] using hl
    obtain ⟨v, hv⟩ := Option.ne_none_iff_exists'.1 (hlook id sp _ hΦ')
    obtain ⟨k, hk, -⟩ : ∃ k, ex'.task? sp.worker = some k ∧ k.view = v := by
      simpa only [look, Option.map_eq_some_iff] using hv
    exact ⟨hs.now.trans hT.symm, k, hk, hq _ hnone k hk⟩
  | some e =>
    have hΦ₀ := hold id sp φ hΦ' hw (by rw [hΦ]; exact Option.some_ne_none _)
    exact (ht id sp φ hΦ₀).steadyBut hs hw

/-- A settled entry's timing needs only that the clock does not go back. -/
theorem TimingAt.settled_le {ex ex' : Exec} {sp : Spawn} (ht : TimingAt M cfg ex sp .settled)
    (hn : ex.now ≤ ex'.now) : TimingAt M cfg ex' sp .settled :=
  Nat.le_trans ht hn

/-- The timing of every entry after a change that keeps every task but `u` as it was, given that
of the entries whose worker is `u`. -/
theorem timing_steadyBut {ex ex' : Exec} {u : Nat}
    (ht : ∀ id sp φ, Φ id = some (sp, φ) → TimingAt M cfg ex sp φ) (hs : SteadyBut u ex ex')
    (hu : ∀ id sp φ, Φ id = some (sp, φ) → sp.worker = u → TimingAt M cfg ex' sp φ) :
    ∀ id sp φ, Φ id = some (sp, φ) → TimingAt M cfg ex' sp φ := by
  intro id sp φ hΦ
  by_cases hw : sp.worker = u
  · exact hu id sp φ hΦ hw
  · exact (ht id sp φ hΦ).steadyBut hs hw

/-- An old entry of a grown ledger is the entry it was. -/
theorem Grows.old {Φ' : Ghost} (h : Grows Φ Φ') {id : String} {e : Spawn × Phase}
    (hΦ' : Φ' id = some e) (hΦ : Φ id ≠ none) : Φ id = some e := by
  obtain ⟨e₀, he₀⟩ := Option.ne_none_iff_exists'.1 hΦ
  rw [he₀, ← hΦ', h id e₀ he₀]

/-! ## (4) Runs of tasks -/

section Run

variable (main : MainView) {ex : Exec}

/-- **Taking tasks off the run queue keeps the invariant.** -/
theorem Inv.dequeue (h : Inv M cfg base Φ ex) (q : List Nat) :
    Inv M cfg base Φ { ex with queue := q } := by
  have hs : SteadyBut 0 ex { ex with queue := q } := ⟨rfl, fun _ h _ => h, fun _ _ => .refl _⟩
  exact ⟨h.book, h.size, fun id sp φ hΦ =>
    (h.timing id sp φ hΦ).steadyBut hs (h.book.worker id sp φ hΦ).1⟩

/-- **A run of a task that has ended, or is cancelled, keeps the invariant:** the task shows it
ended, and every entry it is the worker of has settled. -/
theorem Inv.runEnded (h : Inv M cfg base Φ ex) {u : Nat} {k : Task Job Deployment}
    (hk : ex.task? u = some k) (hend : k.state.isDone = true ∨ k.cancelled = true) :
    (ex.runTask main u).shared = ex.shared ∧ Inv M cfg base Φ (ex.runTask main u) := by
  have hv : ex.look u = some k.view := by simp only [look, hk, Option.map_some]
  have hu0 : u ≠ 0 := by
    rintro rfl
    rw [look_zero] at hv
    cases hv
  have hsettled := h.book.settled_of_look hv hend
  obtain ⟨c, hseen⟩ : ∃ c, (ex.runTask main u).seen =
      ex.seen.setLook u (some ⟨.pure (), true, c⟩) := by
    cases hc : k.cancelled with
    | true => exact ⟨true, runTask_seen_of_cancelled ex main hk hc⟩
    | false =>
      -- An ended task has nothing left to run.
      have hd : k.state.isDone = true := hend.resolve_right (by simp [hc])
      exact ⟨false, runTask_seen_of_pure ex main hk hc (h.book.finished u k.view hu0 hv hd)⟩
  have hs := SteadyBut.runTask ex main u
  refine ⟨congrArg Seen.shared hseen, ?_, ?_,
    timing_steadyBut h.timing hs fun id sp φ hΦ hw => ?_⟩
  · rw [hseen]
    exact (h.book.but (look_zero ex) u).setLook_ended hsettled c 0
  · have := (runTask_keepsEndedBut ex main u).size
    have := h.size
    omega
  · obtain rfl := Phase.eq_settled (hsettled id sp φ hΦ hw)
    exact (h.timing id sp .settled hΦ).settled_le (Nat.le_of_eq hs.now.symm)

/-- **A run of a task within the frame keeps the invariant:** a task that is no worker before its
settlement runs within the frame and shows what its poll left; a settled worker goes on telling
the callback. The ledger grows by the tasks the run spawned. -/
theorem Inv.runFrame (h : Inv M cfg base Φ ex) {u : Nat} {k : Task Job Deployment}
    (hk : ex.task? u = some k) (hc : k.cancelled = false) (hlive : k.state.isDone = false)
    (hsettled : ∀ id sp φ, Φ id = some (sp, φ) → sp.worker = u → φ.IsSettled)
    (hids : Deployment.DistinctIds N) (hN : (ex.runTask main u).shared.nextTaskId ≤ N) :
    ∃ Φ', Grows Φ Φ' ∧ FreshSince Φ Φ' ex.now ex.seen ∧
      ex.shared.nextTaskId ≤ (ex.runTask main u).shared.nextTaskId ∧
      Inv M cfg base Φ' (ex.runTask main u) := by
  have hv : ex.look u = some k.view := by simp only [look, hk, Option.map_some]
  have hu0 : u ≠ 0 := by
    rintro rfl
    rw [look_zero] at hv
    cases hv
  have hnotify : ∀ id sp, Φ id = some (sp, .settled) → sp.worker = u →
      Program.Runs u (Subagents.notify id (some (sp.settled M cfg)) cfg.callback) k.program := by
    rintro id sp hΦ rfl
    obtain ⟨v, hv', hruns⟩ := h.book.looks id sp .settled hΦ hu0
    have hv' : ex.look sp.worker = some v := hv'
    rw [hv] at hv'
    cases hv'
    exact hruns hlive
  -- A settled worker tells the callback; any other task runs within the frame.
  have hwithin : Program.Within KeepsWorkers u true k.program := by
    by_cases hw : ∃ id sp, Φ id = some (sp, .settled) ∧ sp.worker = u
    · obtain ⟨id, sp, hΦ, hw⟩ := hw
      exact (Subagents.notify_within (KeepsWorkers.routine u) _ _ _).runs (hnotify id sp hΦ hw)
    · refine h.book.others u k.view hu0 hv hlive fun id sp φ hΦ hw' => ?_
      obtain rfl := Phase.eq_settled (hsettled id sp φ hΦ hw')
      exact hw ⟨id, sp, hΦ, hw'⟩
  obtain ⟨ex₁, hex₁⟩ : ∃ ex₁, ex.markRunning u = ex₁ := ⟨_, rfl⟩
  have hseen₁ : ex₁.seen = ex.seen := hex₁ ▸ markRunning_quiet ex hk hlive
  have hshared₁ : ex₁.shared = ex.shared := congrArg Seen.shared hseen₁
  have hsize₁ : ex₁.tasks.size ≠ 0 := by
    rw [← hex₁]
    simpa only [markRunning, modifyTask, Array.size_modify] using h.size
  have hk₁ : ex₁.task? u = some { k with state := .running, rewake := false } := by
    rw [← hex₁]
    exact task?_markRunning ex hk
  obtain ⟨r, hr⟩ : ∃ r, poll u ex₁ k.program = r := ⟨_, rfl⟩
  obtain ⟨hreach, hres⟩ := hwithin.poll_spec ex₁
  rw [hr] at hreach hres
  obtain ⟨k₂, hk₂, -⟩ := ((poll_keepsEnded u ex₁ k.program).task u).polled _ hk₁
  rw [hr] at hk₂
  have hseen' : (ex.runTask main u).seen =
      r.1.seen.setLook u (some (TaskView.after r.2 k₂.cancelled)) := by
    rw [runTask_seen ex main hk hc, hex₁, hr]
    simp only [hk₂, Option.map_some]
  have hshared' : (ex.runTask main u).shared = r.1.shared := congrArg Seen.shared hseen'
  have hb₁ : Book M cfg base Φ u ex₁.seen := by
    rw [hseen₁]
    exact h.book.but (look_zero ex) u
  obtain ⟨Φ', hg, hb', hf⟩ := hb₁.reach hsize₁ hreach hids (by rw [← hshared']; exact hN) ex.now
  rw [hseen₁] at hf
  -- An entry whose worker is the task was there before the run, and has settled.
  have hold : ∀ id sp φ, Φ' id = some (sp, φ) → sp.worker = u → Φ id = some (sp, φ) := by
    intro id sp φ hΦ' hw
    refine hg.old hΦ' fun hΦ => ?_
    obtain ⟨-, -, hl⟩ := hf id sp φ hΦ' hΦ
    have hl : ex.look sp.worker = none := hl
    rw [hw, hv] at hl
    cases hl
  have hbook : Book M cfg base Φ' 0 (ex.runTask main u).seen := by
    rw [hseen']
    refine hb'.setLook (fun id sp φ hΦ' hw => ?_)
      (fun _ _ => TaskView.program_after_within hres _) TaskView.program_after_of_done 0
    have hΦ := hold id sp φ hΦ' hw
    obtain rfl := Phase.eq_settled (hsettled id sp φ hΦ hw)
    refine ⟨TaskView.after r.2 k₂.cancelled, ?_, fun hd => ?_⟩
    · show Function.update r.1.seen.look u _ sp.worker = _
      rw [hw, Function.update_self]
    · rw [TaskView.program_after hd, hw]
      exact (hnotify id sp hΦ hw).tail ⟨ex₁, by rw [hr]⟩
  have hs := SteadyBut.runTask ex main u
  refine ⟨Φ', hg, hf, ?_, hbook, ?_, timing_run h.timing hs
    (fun id sp φ hΦ' _ hΦ => hg.old hΦ' hΦ) hf (fun _ ht => runTask_fresh ex main u ht)
    (fun id sp φ hΦ' => (hbook.worker id sp φ hΦ').2) fun id sp φ hΦ' hw => ?_⟩
  · rw [hshared', ← hshared₁]
    exact KeepsWorkers.nextTaskId_le_of_reach hreach
  · have := (runTask_keepsEndedBut ex main u).size
    have := h.size
    omega
  · have hΦ := hold id sp φ hΦ' hw
    obtain rfl := Phase.eq_settled (hsettled id sp φ hΦ hw)
    exact (h.timing id sp .settled hΦ).settled_le (Nat.le_of_eq hs.now.symm)

/-- **A run of a worker before its settlement keeps the invariant:** its entry settles or goes on
racing, every other entry stays, and the ledger grows by the tasks the run spawned. -/
theorem Inv.runWorker (h : Inv M cfg base Φ ex) {id : String} {sp : Spawn} {φ : Phase}
    (hΦ : Φ id = some (sp, φ)) (hφ : ¬φ.IsSettled) (hspawn : Tool.spawnSubagent ∉ cfg.tools.tools)
    (hids : Deployment.DistinctIds N) (hN : (ex.runTask main sp.worker).shared.nextTaskId ≤ N) :
    ∃ Φ', Advances Φ Φ' ∧ FreshSince Φ Φ' ex.now ex.seen ∧
      ex.shared.nextTaskId ≤ (ex.runTask main sp.worker).shared.nextTaskId ∧
      Inv M cfg base Φ' (ex.runTask main sp.worker) := by
  obtain ⟨hnext, Φ', φ', hΦ', hothers, hf, hbook, htiming⟩ :=
    h.book.runWorker main h.size hΦ hφ (h.timing id sp φ hΦ) hspawn hids rfl hN
  -- Every other entry is the entry it was, with another worker.
  have hold : ∀ id' sp' φ'', Φ' id' = some (sp', φ'') → sp'.worker ≠ sp.worker → Φ id' ≠ none →
      Φ id' = some (sp', φ'') := by
    intro id' sp' φ'' hΦ'' hw hne
    have hid : id' ≠ id := by
      rintro rfl
      rw [hΦ'] at hΦ''
      obtain ⟨rfl, -⟩ := Prod.mk.inj (Option.some.inj hΦ'')
      exact hw rfl
    obtain ⟨e, he⟩ := Option.ne_none_iff_exists'.1 hne
    rw [he, ← hΦ'', hothers id' e hid he]
  refine ⟨Φ', fun id' sp' φ'' hΦ'' => ?_, hf, hnext, hbook, ?_,
    timing_run h.timing (SteadyBut.runTask ex main sp.worker) hold hf
      (fun _ ht => runTask_fresh ex main _ ht) (fun id' sp' φ'' h' => (hbook.worker id' sp' φ'' h').2)
      fun id' sp' φ'' hΦ'' hw => ?_⟩
  · by_cases hid : id' = id
    · subst hid
      rw [hΦ] at hΦ''
      obtain ⟨rfl, rfl⟩ := Prod.mk.inj (Option.some.inj hΦ'')
      exact ⟨φ', hΦ', fun hs => absurd hs hφ⟩
    · exact ⟨φ'', hothers id' _ hid hΦ'', fun hs => hs⟩
  · have := (runTask_keepsEndedBut ex main sp.worker).size
    have := h.size
    omega
  · -- The worker is the worker of its own entry only.
    obtain rfl := hbook.distinct id' id sp' sp φ'' φ' hΦ'' hΦ' hw
    rw [hΦ'] at hΦ''
    obtain ⟨rfl, rfl⟩ := Prod.mk.inj (Option.some.inj hΦ'')
    exact htiming

/-- **Every run of a task keeps the invariant,** the ledger moving on. -/
theorem Inv.runTask (h : Inv M cfg base Φ ex) (hspawn : Tool.spawnSubagent ∉ cfg.tools.tools)
    (hids : Deployment.DistinctIds N) (u : Nat) (hN : (ex.runTask main u).shared.nextTaskId ≤ N) :
    ∃ Φ', Advances Φ Φ' ∧ FreshSince Φ Φ' ex.now ex.seen ∧
      ex.shared.nextTaskId ≤ (ex.runTask main u).shared.nextTaskId ∧
      Inv M cfg base Φ' (ex.runTask main u) := by
  cases hk : ex.task? u with
  | none =>
    have hex : ex.runTask main u = ex := by
      unfold Executor.runTask
      rw [hk]
    rw [hex]
    exact ⟨Φ, Advances.refl Φ, FreshSince.refl Φ _ _, Nat.le_refl _, h⟩
  | some k =>
    by_cases hend : k.state.isDone = true ∨ k.cancelled = true
    · obtain ⟨hshared, hinv⟩ := h.runEnded main hk hend
      exact ⟨Φ, Advances.refl Φ, FreshSince.refl Φ _ _,
        Nat.le_of_eq (congrArg Deployment.nextTaskId hshared).symm, hinv⟩
    have hlive : k.state.isDone = false := by simpa using (not_or.1 hend).1
    have hc : k.cancelled = false := by simpa using (not_or.1 hend).2
    -- A worker before its settlement races; any other task runs within the frame.
    by_cases hw : ∃ id sp φ, Φ id = some (sp, φ) ∧ sp.worker = u ∧ ¬φ.IsSettled
    · obtain ⟨id, sp, φ, hΦ, rfl, hφ⟩ := hw
      exact h.runWorker main hΦ hφ hspawn hids hN
    · have hsettled : ∀ id sp φ, Φ id = some (sp, φ) → sp.worker = u → φ.IsSettled := by
        intro id sp φ hΦ hw'
        by_contra hφ
        exact hw ⟨id, sp, φ, hΦ, hw', hφ⟩
      obtain ⟨Φ', hg, hf, hnext, hinv⟩ := h.runFrame main hk hc hlive hsettled hids hN
      exact ⟨Φ', hg.advances, hf, hnext, hinv⟩

end Run

/-! ## (5) Moves and runs of the executor -/

/-- **A poll of the main program keeps the invariant,** when the main program runs within the
frame: the ledger grows by the tasks it spawned, and what is left of it is within the frame. -/
theorem Inv.pollMain {α : Type} {ex : Exec} (h : Inv M cfg base Φ ex)
    {main : Program Job Deployment α} (hmain : Program.Within KeepsWorkers 0 true main)
    (hids : Deployment.DistinctIds N) (hN : (ex.pollMain main).1.shared.nextTaskId ≤ N) :
    ∃ Φ', Grows Φ Φ' ∧ FreshSince Φ Φ' ex.now ex.seen ∧
      ex.shared.nextTaskId ≤ (ex.pollMain main).1.shared.nextTaskId ∧
      Inv M cfg base Φ' (ex.pollMain main).1 ∧
      Program.Within KeepsWorkers 0 true (ex.pollMain main).2 := by
  obtain ⟨hreach, hres⟩ := hmain.poll_spec { ex with mainWoken := false }
  have hbook : Book M cfg base Φ 0 ({ ex with mainWoken := false } : Exec).seen := h.book
  obtain ⟨Φ', hg, hb', hf⟩ := hbook.reach h.size hreach hids hN ex.now
  have hbook' : Book M cfg base Φ' 0 (ex.pollMain main).1.seen := by
    rw [pollMain_seen]
    exact hb'
  have hsize : (ex.pollMain main).1.tasks.size ≠ 0 := by
    have hle := KeepsWorkers.size_le_of_reach hreach
    have : ex.tasks.size ≤ (poll 0 { ex with mainWoken := false } main).1.tasks.size := hle
    have := h.size
    show (poll 0 { ex with mainWoken := false } main).1.tasks.size ≠ 0
    omega
  have hnext := KeepsWorkers.nextTaskId_le_of_reach hreach
  refine ⟨Φ', hg, hf, hnext, ⟨hbook', hsize, ?_⟩, hres⟩
  -- The main program is no worker.
  exact timing_run h.timing (SteadyBut.pollMain ex main) (fun id sp φ hΦ' _ hΦ => hg.old hΦ' hΦ)
    hf (fun _ ht => pollMain_fresh ex main ht) (fun id sp φ hΦ' => (hbook'.worker id sp φ hΦ').2)
    fun id sp φ hΦ' hw => absurd hw (hbook'.worker id sp φ hΦ').1

/-- **Parking keeps the invariant,** when the clock moves only from an empty run queue. -/
theorem Inv.park {ex ex' : Exec} (h : Inv M cfg base Φ ex) (hT : Tidy ex)
    (hp : ex.park = some ex') (hpace : ex'.now = ex.now ∨ ex.queue = []) :
    Inv M cfg base Φ ex' := by
  have hq : ex'.seen = ex.seen := park_quiet hp
  refine ⟨by rw [hq]; exact h.book, ?_, fun id sp φ hΦ => (h.timing id sp φ hΦ).park hT hp hpace⟩
  have := (KeepsEnded.park hp).size
  have := h.size
  omega

/-- **Firing the due timers keeps the invariant.** -/
theorem Inv.parkYield {ex : Exec} (h : Inv M cfg base Φ ex) : Inv M cfg base Φ ex.parkYield := by
  have hq : ex.parkYield.seen = ex.seen := parkYield_quiet ex
  refine ⟨by rw [hq]; exact h.book, ?_, fun id sp φ hΦ => (h.timing id sp φ hΦ).parkYield⟩
  have := (KeepsEnded.parkYield ex).size
  have := h.size
  omega

/-- **Every paced move keeps the invariant,** the ledger moving on, with the main program within
the frame; an entry the move adds is fresh, spawned at the move's time. -/
theorem Inv.move {α : Type} {c c' : Exec × Program Job Deployment α} (h : Inv M cfg base Φ c.1)
    (hT : Tidy c.1) (hmain : Program.Within KeepsWorkers 0 true c.2) (hm : Paced c c')
    (hspawn : Tool.spawnSubagent ∉ cfg.tools.tools) (hids : Deployment.DistinctIds N)
    (hN : c'.1.shared.nextTaskId ≤ N) :
    ∃ Φ', Advances Φ Φ' ∧ FreshSince Φ Φ' c.1.now c.1.seen ∧
      c.1.shared.nextTaskId ≤ c'.1.shared.nextTaskId ∧ Inv M cfg base Φ' c'.1 ∧
      Program.Within KeepsWorkers 0 true c'.2 := by
  obtain ⟨hm, hpace⟩ := hm
  cases hm with
  | main _ =>
    obtain ⟨Φ', hg, hf, hnext, hinv, hres⟩ := h.pollMain hmain hids hN
    exact ⟨Φ', hg.advances, hf, hnext, hinv, hres⟩
  | @task ex main u _ =>
    obtain ⟨Φ', ha, hf, hnext, hinv⟩ :=
      (h.dequeue (ex.queue.erase u)).runTask (viewOf main) hspawn hids u hN
    exact ⟨Φ', ha, hf, hnext, hinv, hmain⟩
  | park hp =>
    exact ⟨Φ, Advances.refl Φ, FreshSince.refl Φ _ _,
      Nat.le_of_eq (congrArg (fun s => s.shared.nextTaskId) (park_quiet hp)).symm,
      h.park hT hp hpace, hmain⟩
  | @yield ex _ =>
    exact ⟨Φ, Advances.refl Φ, FreshSince.refl Φ _ _,
      Nat.le_of_eq (congrArg (fun s => s.shared.nextTaskId) (parkYield_quiet ex)).symm,
      h.parkYield, hmain⟩

/-- **Every paced run keeps the invariant,** the ledger moving on, while the ids it generates are
distinct: as the counter of task ids only grows, a bound at the end of the run bounds it at every
move. -/
theorem Inv.reach {α : Type} {c c' : Exec × Program Job Deployment α} (h : Inv M cfg base Φ c.1)
    (hT : Tidy c.1) (hC : CounterKept c.1.seen) (hmain : Program.Within KeepsWorkers 0 true c.2)
    (hr : Relation.ReflTransGen Paced c c') (hspawn : Tool.spawnSubagent ∉ cfg.tools.tools)
    (hids : Deployment.DistinctIds N) (hN : c'.1.shared.nextTaskId ≤ N) :
    ∃ Φ', Advances Φ Φ' ∧ c.1.shared.nextTaskId ≤ c'.1.shared.nextTaskId ∧
      Inv M cfg base Φ' c'.1 ∧ Program.Within KeepsWorkers 0 true c'.2 := by
  have hcount : Program.Within KeepsCounter 0 true c.2 :=
    hmain.mono fun _ _ => KeepsCounter.of_keepsWorkers
  induction hr with
  | refl => exact ⟨Φ, Advances.refl Φ, Nat.le_refl _, h, hmain⟩
  | @tail c₁ c₂ hr₁ hstep ih =>
    -- The move does not move the counter back, so the bound holds before it too.
    obtain ⟨hC₁, hsize₁, hcount₁, -⟩ :=
      hC.reaches h.size hcount (Relation.ReflTransGen.mono (fun _ _ hm => hm.1) _ _ hr₁)
    have hle := (hC₁.move hsize₁ hcount₁ hstep.1).2.2.2
    obtain ⟨Φ₁, ha₁, hnext₁, hinv₁, hmain₁⟩ := ih (Nat.le_trans hle hN)
    obtain ⟨Φ₂, ha₂, -, hnext₂, hinv₂, hmain₂⟩ :=
      hinv₁.move (hT.reaches hr₁) hmain₁ hstep hspawn hids hN
    exact ⟨Φ₂, ha₁.trans ha₂, Nat.le_trans hnext₁ hnext₂, hinv₂, hmain₂⟩

/-! ## (6) Every spawned task settles once -/

/-- **The invariant holds at the start** of a deployment whose manager has no tasks and which
remembers no heartbeat task: the ledger is empty, and ids are generated from the counter on. -/
theorem Inv.start {d : Deployment} (hd : d.subagents = some cfg) (htable : cfg.table = {})
    (hhb : d.heartbeatTask = none) :
    Inv d.model cfg d.nextTaskId (fun _ => none) (Executor.start Job.program d) := by
  have hlook : ∀ t, (Executor.start Job.program d).seen.look t = none := ChatLocks.look_start d
  have hbook : Book d.model cfg d.nextTaskId (fun _ => none) 0 (Executor.start Job.program d).seen :=
    { launch := rfl
      base_le := Nat.le_refl _
      model := rfl
      -- The empty table is what the empty log leaves.
      manager := ⟨[], by rw [TaskTable.replay_nil, ← htable]; exact hd, List.nodup_nil,
        fun _ h => nomatch h⟩
      issued := fun _ _ h => by cases h
      -- No id has been generated since the start.
      complete := fun _ hj hj' => absurd (Nat.lt_of_lt_of_le hj hj') (Nat.lt_irrefl _)
      running := fun _ _ _ h => by cases h
      worker := fun _ _ _ h => by cases h
      distinct := fun _ _ _ _ _ _ h => by cases h
      records := fun _ _ _ h => by cases h
      looks := fun _ _ _ h => by cases h
      others := fun t _ _ hv => by
        rw [hlook t] at hv
        cases hv
      finished := fun t _ _ hv => by
        rw [hlook t] at hv
        cases hv
      heartbeat := fun _ ht => by
        rw [show (Executor.start Job.program d).seen.shared.heartbeatTask = none from hhb] at ht
        cases ht }
  exact ⟨hbook, by simp [Executor.start], fun _ _ _ h => by cases h⟩

/-- **Along a paced run from the start of a deployment,** the executor stays tidy and every task
keeps the counter of task ids, when the main program leaves the workers alone. -/
theorem tidy_counterKept_of_start {α : Type} {d : Deployment} {main : Act α}
    (hmain : Program.Within KeepsWorkers 0 true main) {c : Exec × Act α}
    (hr : Relation.ReflTransGen Paced (Executor.start Job.program d, main) c) :
    Tidy c.1 ∧ CounterKept c.1.seen :=
  ⟨(Tidy.start Job.program d).reaches hr,
    (CounterKept.of_start (hmain.mono fun _ _ => KeepsCounter.of_keepsWorkers)
      (Relation.ReflTransGen.mono (fun _ _ hm => hm.1) _ _ hr)).1⟩

/-- **The counter of task ids only grows** along a paced run from the start of a deployment. -/
theorem nextTaskId_le_of_paced {α : Type} {d : Deployment} {main : Act α}
    (hmain : Program.Within KeepsWorkers 0 true main) {c c' : Exec × Act α}
    (hr : Relation.ReflTransGen Paced (Executor.start Job.program d, main) c)
    (hr' : Relation.ReflTransGen Paced c c') :
    c.1.shared.nextTaskId ≤ c'.1.shared.nextTaskId := by
  have hcount := hmain.mono fun _ _ => KeepsCounter.of_keepsWorkers
  have hmove : ∀ {c₁ c₂ : Exec × Act α}, Relation.ReflTransGen Paced c₁ c₂ → Reaches c₁ c₂ :=
    Relation.ReflTransGen.mono (fun _ _ hm => hm.1) _ _
  obtain ⟨hC, hsize, hm⟩ := CounterKept.of_start hcount (hmove hr)
  exact (hC.reaches hsize hm (hmove hr')).2.2.2

variable (M cfg) in
/-- **A spawned task before its settlement:** its record is as registered, and its race is not
over. -/
def Running (ex : Exec) (id : String) (sp : Spawn) : Prop :=
  ex.shared.record? id = some sp.record ∧ ex.now ≤ (sp.settlement M cfg).1

variable (M cfg) in
/-- **A spawned task after its settlement:** its race is over; its record is the settled one,
unless evicted; and its worker does nothing but tell the callback about the settled record, or
has ended. -/
def Settled (ex : Exec) (id : String) (sp : Spawn) : Prop :=
  (sp.settlement M cfg).1 ≤ ex.now ∧
    (ex.shared.record? id = some (sp.settled M cfg) ∨ ex.shared.record? id = none) ∧
    ∃ v, ex.look sp.worker = some v ∧ (v.done = false →
      Program.Runs sp.worker (Subagents.notify id (some (sp.settled M cfg)) cfg.callback) v.program)

section Shows

variable {ex : Exec} {id : String} {sp : Spawn} {φ : Phase}

/-- **An entry before its settlement shows a running task.** -/
theorem Inv.running (h : Inv M cfg base Φ ex) (hΦ : Φ id = some (sp, φ)) (hφ : ¬φ.IsSettled)
    (hspawn : Tool.spawnSubagent ∉ cfg.tools.tools) : Running M cfg ex id sp :=
  ⟨(recordAt_of_unsettled hφ).1 (h.book.records id sp φ hΦ), (h.timing id sp φ hΦ).now_le hφ hspawn⟩

/-- **A settled entry shows a settled task.** -/
theorem Inv.settled (h : Inv M cfg base Φ ex) (hΦ : Φ id = some (sp, .settled)) :
    Settled M cfg ex id sp :=
  ⟨h.timing id sp .settled hΦ, h.book.records id sp .settled hΦ,
    h.book.looks id sp .settled hΦ (h.book.worker id sp .settled hΦ).1⟩

/-- **A task shows settled only once its entry has settled:** before, its record is the running
one as registered, which a settlement makes final. -/
theorem Inv.isSettled_of_settled (h : Inv M cfg base Φ ex) (hΦ : Φ id = some (sp, φ))
    (hs : Settled M cfg ex id sp) : φ.IsSettled := by
  by_contra hφ
  have hrec : ex.shared.record? id = some sp.record :=
    (recordAt_of_unsettled hφ).1 (h.book.records id sp φ hΦ)
  have hrun := h.book.running id sp φ hΦ
  rcases hs.2.1 with hset | hnone
  · rw [hrec] at hset
    have hterm : sp.record.status.isTerminal = true := by
      rw [Option.some.inj hset]
      exact SubagentTask.settleWith_isTerminal _ _
    rw [hrun] at hterm
    cases hterm
  · rw [hrec] at hnone
    cases hnone

end Shows

/-- **Every spawned sub-agent task settles exactly once.** Run a deployment from its start, with
a sub-agent manager made for any tools, budget and callback and no tasks yet, no heartbeat task,
and a main program that leaves the workers alone; let the ids generated by the end of the run be
distinct. Take the `j`-th id, generated by a move at some time: right after that move the task's
record is in the table, running. From then on the task is either running, its record as registered
and its race not over, or settled, its race over, its record settled with the race's result (or
evicted) and its worker doing nothing but telling the callback; once settled it stays settled.
Its run asks the model at most `max maxIterations 1` times and is offered no sub-agent tool. -/
theorem spawned_task_settles_once {tools : ToolRegistry} {budget : SubagentBudget}
    {cb : Option CompletionCallback} {cfg : SubagentManager}
    (hcfg : cfg = SubagentManager.new tools budget cb) {d : Deployment}
    (hd : d.subagents = some cfg) (hhb : d.heartbeatTask = none) {α : Type} {main : Act α}
    (hmain : Program.Within KeepsWorkers 0 true main) {c₁ c₂ c₃ c₄ : Exec × Act α}
    (h₁ : Relation.ReflTransGen Paced (Executor.start Job.program d, main) c₁)
    (h₂ : Paced c₁ c₂) (h₃ : Relation.ReflTransGen Paced c₂ c₃)
    (h₄ : Relation.ReflTransGen Paced c₃ c₄)
    (hids : Deployment.DistinctIds c₄.1.shared.nextTaskId) {j : Nat}
    (hj : c₁.1.shared.nextTaskId < j) (hj' : j ≤ c₂.1.shared.nextTaskId) :
    ∃ sp : Spawn, sp.start = c₁.1.now ∧ sp.record.id = Deployment.taskId j ∧
      sp.record.status = .running ∧ c₂.1.shared.record? (Deployment.taskId j) = some sp.record ∧
      (Running d.model cfg c₃.1 (Deployment.taskId j) sp ∨
        Settled d.model cfg c₃.1 (Deployment.taskId j) sp) ∧
      (Settled d.model cfg c₃.1 (Deployment.taskId j) sp →
        Settled d.model cfg c₄.1 (Deployment.taskId j) sp) ∧
      (sp.run d.model cfg).2.length ≤ max budget.maxIterations 1 ∧
      ∀ t ∈ cfg.tools.tools, t.name ≠ Tool.spawnName := by
  subst hcfg
  have hspawn := SubagentManager.spawnSubagent_not_mem tools budget cb
  have r₂ := h₁.tail h₂
  have r₃ := r₂.trans h₃
  have hN₁ := nextTaskId_le_of_paced hmain h₁ ((h₃.trans h₄).head h₂)
  have hN₂ := nextTaskId_le_of_paced hmain r₂ (h₃.trans h₄)
  -- The invariant before the move, and after it.
  obtain ⟨hT₁, hC₁⟩ := tidy_counterKept_of_start hmain h₁
  obtain ⟨Φ₁, -, -, hinv₁, hmain₁⟩ :=
    (Inv.start hd rfl hhb).reach (Tidy.start Job.program d) (CounterKept.start d) hmain h₁ hspawn
      hids hN₁
  obtain ⟨Φ₂, -, hf₂, -, hinv₂, hmain₂⟩ := hinv₁.move hT₁ hmain₁ h₂ hspawn hids hN₂
  -- The id is new at the move, so the move registered it, fresh, at its time.
  have hnone : Φ₁ (Deployment.taskId j) = none :=
    hinv₁.book.none_of_lt hids hj (Nat.le_trans hj' hN₂)
  obtain ⟨⟨sp, φ⟩, he⟩ := Option.ne_none_iff_exists'.1
    (hinv₂.book.complete j (Nat.lt_of_le_of_lt hinv₁.book.base_le hj) hj')
  obtain ⟨rfl, hstart, -⟩ := hf₂ _ sp φ he hnone
  -- From the move on, the entry moves on, and a settled entry stays settled.
  obtain ⟨hT₂, hC₂⟩ := tidy_counterKept_of_start hmain r₂
  obtain ⟨hT₃, hC₃⟩ := tidy_counterKept_of_start hmain r₃
  obtain ⟨Φ₃, ha₃, -, hinv₃, hmain₃⟩ :=
    hinv₂.reach hT₂ hC₂ hmain₂ h₃ hspawn hids (nextTaskId_le_of_paced hmain r₃ h₄)
  obtain ⟨Φ₄, ha₄, -, hinv₄, -⟩ := hinv₃.reach hT₃ hC₃ hmain₃ h₄ hspawn hids (Nat.le_refl _)
  obtain ⟨φ₃, hΦ₃, -⟩ := ha₃ _ sp .fresh he
  obtain ⟨φ₄, hΦ₄, hset₄⟩ := ha₄ _ sp φ₃ hΦ₃
  have hrec₂ : c₂.1.shared.record? (Deployment.taskId j) = some sp.record :=
    hinv₂.book.records _ sp .fresh he
  refine ⟨sp, hstart, hinv₂.book.manager.id_of_record? hrec₂, hinv₂.book.running _ sp .fresh he, hrec₂, ?_,
    fun hs => ?_, AgentRun.timed_calls_le _ _ _ _ _ _ _,
    SubagentManager.name_ne_spawnName tools budget cb⟩
  · by_cases hφ : φ₃.IsSettled
    · obtain rfl := Phase.eq_settled hφ
      exact .inr (hinv₃.settled hΦ₃)
    · exact .inl (hinv₃.running hΦ₃ hφ hspawn)
  · obtain rfl := Phase.eq_settled (hset₄ (hinv₃.isSettled_of_settled hΦ₃ hs))
    exact hinv₄.settled hΦ₄

/-- A main program that spawns one sub-agent, on a deployment whose manager is made from no tools:
the first move registers the first id, with a running record. -/
theorem spawn_registers_running :
    ∃ sp : Spawn, sp.record.id = Deployment.taskId 1 ∧ sp.record.status = .running ∧
      ((Executor.start Job.program
          ({ subagents := some (SubagentManager.new {} {} none) } : Deployment)).pollMain
        ((AgentRun.spawnSubagent "summarise" none "chat" "c1").bind .pure)).1.shared.record?
          (Deployment.taskId 1) = some sp.record := by
  have hmain : Program.Within KeepsWorkers 0 true
      ((AgentRun.spawnSubagent "summarise" none "chat" "c1").bind .pure) :=
    AgentRun.spawnSubagent_within (KeepsWorkers.routine 0).reasons _ _ _ _ fun _ => .pure _
  have hpaced : Paced (Executor.start Job.program
      ({ subagents := some (SubagentManager.new {} {} none) } : Deployment),
      (AgentRun.spawnSubagent "summarise" none "chat" "c1").bind .pure)
      ((Executor.start Job.program
        ({ subagents := some (SubagentManager.new {} {} none) } : Deployment)).pollMain
        ((AgentRun.spawnSubagent "summarise" none "chat" "c1").bind .pure)) :=
    ⟨.main rfl, .inl (SteadyBut.pollMain _ _).now⟩
  -- The spawn moves the counter from 0 to 1.
  have hnext : ((Executor.start Job.program
      ({ subagents := some (SubagentManager.new {} {} none) } : Deployment)).pollMain
      ((AgentRun.spawnSubagent "summarise" none "chat" "c1").bind .pure)).1.shared.nextTaskId = 1 :=
    rfl
  obtain ⟨sp, -, hid, hrun, hrec, -⟩ := spawned_task_settles_once rfl rfl rfl hmain .refl hpaced
    .refl .refl (fun _ _ _ hjk hk => absurd hjk (by omega)) Nat.zero_lt_one (Nat.le_of_eq hnext.symm)
  exact ⟨sp, hid, hrun, hrec⟩

/-! ## (7) The manager's table in every reachable state -/

/-- **The sub-agent table is the table of a log of spawns and settlements in every reachable
state.** Run a deployment from its start, with a sub-agent manager made for any tools, budget and
callback and no tasks yet, no heartbeat task, and a main program that leaves the workers alone; let
the ids generated by the end of the run be distinct. The manager's table is the table that a log of
changes leaves, whose spawns are ids generated during the run, each once. So the table keeps its
invariant: its spawn order lists every id of its map once and nothing else, in the order the ids
were spawned; every record agrees with its status; at most `maxRetained` settled tasks are kept;
and the running tasks are the spawned ones that no settlement named yet, in spawn order. A worker's
settlement from there is one more change of the log: the table keeps its invariant, and the
eviction drops the earliest-spawned settled tasks in excess. -/
theorem task_table_logged {tools : ToolRegistry} {budget : SubagentBudget}
    {cb : Option CompletionCallback} {cfg : SubagentManager}
    (hcfg : cfg = SubagentManager.new tools budget cb) {d : Deployment}
    (hd : d.subagents = some cfg) (hhb : d.heartbeatTask = none) {α : Type} {main : Act α}
    (hmain : Program.Within KeepsWorkers 0 true main) {c : Exec × Act α}
    (hr : Relation.ReflTransGen Paced (Executor.start Job.program d, main) c)
    (hids : Deployment.DistinctIds c.1.shared.nextTaskId) :
    ∃ cs, c.1.shared.subagents =
        some { cfg with table := TaskTable.replay budget.maxRetained cs } ∧
      (∀ id ∈ TaskTable.Change.spawned cs,
        ∃ j, d.nextTaskId < j ∧ j ≤ c.1.shared.nextTaskId ∧ id = Deployment.taskId j) ∧
      TaskTable.Invariant budget.maxRetained cs (TaskTable.replay budget.maxRetained cs) ∧
      ∀ id r, ∃ tb, (Subagents.settle id r c.1.shared).1.subagents = some { cfg with table := tb } ∧
        TaskTable.Invariant budget.maxRetained (cs ++ [.settle id (Subagents.outcomeOf r)]) tb ∧
        TaskTable.EvictsOldest budget.maxRetained
          ((TaskTable.replay budget.maxRetained cs).settle id (Subagents.outcomeOf r)).1 tb := by
  subst hcfg
  have hspawn := SubagentManager.spawnSubagent_not_mem tools budget cb
  -- The ledger at the end of the run keeps the manager's table as the table of its log.
  obtain ⟨Φ, -, -, hinv, -⟩ := (Inv.start hd rfl hhb).reach (Tidy.start Job.program d)
    (CounterKept.start d) hmain hr hspawn hids (Nat.le_refl _)
  obtain ⟨cs, hsub, hnd, htracked⟩ := hinv.book.manager
  have hsub : c.1.shared.subagents = some { SubagentManager.new tools budget cb with
      table := TaskTable.replay budget.maxRetained cs } := hsub
  obtain ⟨hlogged, hevicts⟩ := TaskTable.replay_invariant budget.maxRetained cs hnd
  have hnd' : ∀ id o, (TaskTable.Change.spawned (cs ++ [.settle id o])).Nodup := by
    intro id o
    rw [TaskTable.spawned_append_settle]
    exact hnd
  refine ⟨cs, hsub, fun id hid => ?_, hlogged, fun id r => ⟨_, ?_,
    TaskTable.invariant_replay _ _ (hnd' id _), hevicts id _⟩⟩
  · -- A spawned id has an entry in the ledger, and the ledger's ids were generated in the run.
    obtain ⟨e, he⟩ := Option.ne_none_iff_exists'.1 (htracked id hid)
    exact hinv.book.issued id e he
  · -- A worker's settlement writes one more change of the log.
    rw [Subagents.settle_subagents, hsub, TaskTable.replay_append]
    rfl

/-- A main program that spawns one sub-agent, on a deployment whose manager keeps no settled task:
after the first move, the table is the table of a log whose spawn is the first id, and a
settlement from there keeps the invariant. -/
theorem task_table_logged_after_spawn :
    let d : Deployment := { subagents := some (SubagentManager.new {} { maxRetained := 0 } none) }
    let c := (Executor.start Job.program d).pollMain
      ((AgentRun.spawnSubagent "summarise" none "chat" "c1").bind .pure)
    ∃ cs, c.1.shared.subagents = some { SubagentManager.new {} { maxRetained := 0 } none with
        table := TaskTable.replay 0 cs } ∧
      (∀ id ∈ TaskTable.Change.spawned cs, id = Deployment.taskId 1) ∧
      TaskTable.Invariant 0 cs (TaskTable.replay 0 cs) ∧
      ∀ id r, ∃ tb, (Subagents.settle id r c.1.shared).1.subagents =
          some { SubagentManager.new {} { maxRetained := 0 } none with table := tb } ∧
        TaskTable.Invariant 0 (cs ++ [.settle id (Subagents.outcomeOf r)]) tb := by
  intro d c
  have hmain : Program.Within KeepsWorkers 0 true
      ((AgentRun.spawnSubagent "summarise" none "chat" "c1").bind .pure) :=
    AgentRun.spawnSubagent_within (KeepsWorkers.routine 0).reasons _ _ _ _ fun _ => .pure _
  have hpaced : Paced (Executor.start Job.program d,
      (AgentRun.spawnSubagent "summarise" none "chat" "c1").bind .pure) c :=
    ⟨.main rfl, .inl (SteadyBut.pollMain _ _).now⟩
  -- The spawn moves the counter from 0 to 1.
  have hnext : c.1.shared.nextTaskId = 1 := rfl
  obtain ⟨cs, hsub, hspawned, hinv, hsettle⟩ := task_table_logged rfl rfl rfl hmain
    (Relation.ReflTransGen.single hpaced) (fun _ _ _ hjk hk => absurd hjk (by omega))
  refine ⟨cs, hsub, fun id hid => ?_, hinv, fun id r => ?_⟩
  · obtain ⟨j, hj, hjle, rfl⟩ := hspawned id hid
    rw [hnext] at hjle
    obtain rfl : j = 1 := by
      have h0 : d.nextTaskId = 0 := rfl
      omega
    rfl
  · obtain ⟨tb, htb, htbinv, -⟩ := hsettle id r
    exact ⟨tb, htb, htbinv⟩

end Workers

end ChatGateway
