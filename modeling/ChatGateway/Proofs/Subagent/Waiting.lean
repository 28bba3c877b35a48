import ChatGateway.Proofs.Subagent.Timed
import ChatGateway.Proofs.Gateway.Calls
import ChatGateway.Proofs.Scheduling.Clock

/-! # Polling a program on the clock

A poll of a program on the clock (`Timed`) at the time it is started does exactly what the timed
reading says: it asks the model on the first transcripts of the reading, and then the program
has ended, with the reading's value or panic if the reading ends then, or waits on sleeps due
later, each with its timer registered for the task, and still reads the same from then on
(`Timed.poll`). While it waits, the clock may move up to its first deadline without changing the
reading (`Timed.shift`).

* `Program.sleeps`: the registered sleeps a blocked program waits on, with their deadlines; their
  timers are the ones the executor keeps for it (`Program.map_sleeps`).
* `Program.Waiting`: a program blocked on its sleeps, as a poll leaves a program on the clock.
* `Deployment.asked`: the deployment after the model was asked; a poll of a program on the clock
  changes nothing else of it.
* `Timed.Left`: what a poll leaves: a value or a panic at the current time, or a waiting program.
-/

namespace ChatGateway

open Scheduling Scheduling.Executor

/-! ## (1) Waiting programs -/

namespace Scheduling.Program

variable {ι σ : Type}

/-- **The registered sleeps a blocked program waits on,** as deadline and timer. -/
def sleeps {α : Type} : Program ι σ α → List (Nat × Nat)
  | .sleepUntil d (some t) _ => [(d, t)]
  | .guard inner _ => sleeps inner
  | .timeout d t inner _ => sleeps inner ++ (t.map (d, ·)).toList
  | .both p q _ => sleeps p ++ sleeps q
  | .loop _ c _ => sleeps c
  | _ => []

/-- The timers of the sleeps are the timers a blocked program waits on. -/
theorem map_sleeps {α : Type} (p : Program ι σ α) : p.sleeps.map Prod.snd = p.timerIds := by
  induction p with
  | sleepUntil d t k ih => cases t <;> rfl
  | guard inner k ihInner ih => exact ihInner
  | timeout d t inner k ihInner ih =>
    cases t <;> simp [sleeps, timerIds, ihInner]
  | both p q k ihP ihQ ih => simp [sleeps, timerIds, ihP, ihQ]
  | loop body c k ihB ihC ih => exact ihC
  | _ => rfl

/-- **A program blocked on its sleeps:** a registered sleep, a computation that never ends, or
two side by side, each blocked or one of them holding its value. -/
inductive Waiting : {α : Type} → Program ι σ α → Prop where
  | sleep {α : Type} (d t : Nat) (k : Unit → Program ι σ α) : Waiting (.sleepUntil d (some t) k)
  | pending {α : Type} : Waiting (.pending (α := α))
  | both {α β γ : Type} {p : Program ι σ β} {q : Program ι σ γ} (k : β × γ → Program ι σ α) :
      Waiting p → Waiting q → Waiting (.both p q k)
  | left {α β γ : Type} {p : Program ι σ β} (c : γ) (k : β × γ → Program ι σ α) :
      Waiting p → Waiting (.both p (.pure c) k)
  | right {α β γ : Type} (b : β) {q : Program ι σ γ} (k : β × γ → Program ι σ α) :
      Waiting q → Waiting (.both (.pure b) q k)

/-- A waiting program has not ended. -/
theorem Waiting.isDone {α : Type} {p : Program ι σ α} (h : Waiting p) : p.isDone = false := by
  cases h <;> rfl

end Scheduling.Program

open Scheduling.Program

/-! ## (2) Outcomes in time -/

namespace Outcome

variable {α β γ : Type}

/-- When the computation ends or panics, if it does. -/
def time? : Outcome α → Option Nat
  | .ends T _ => some T
  | .fails T _ => some T
  | .hangs => none

@[simp] theorem time?_ends (T : Nat) (a : α) : (Outcome.ends T a).time? = some T := rfl
@[simp] theorem time?_fails (T : Nat) (m : String) : (Outcome.fails T m : Outcome α).time? = some T :=
  rfl
@[simp] theorem time?_hangs : (Outcome.hangs : Outcome α).time? = none := rfl

/-- Side by side, a panic is one of the two computations'. -/
theorem both_eq_fails {ob : Outcome β} {oc : Outcome γ} {T : Nat} {m : String}
    (h : ob.both oc = .fails T m) : ob = .fails T m ∨ oc = .fails T m := by
  cases ob <;> cases oc <;> simp only [both, reduceCtorEq] at h
  all_goals first
    | (obtain ⟨rfl, rfl⟩ := h; first | exact .inl rfl | exact .inr rfl)
    | (split at h <;> (obtain ⟨rfl, rfl⟩ := h; first | exact .inl rfl | exact .inr rfl))

/-- Beside a computation that does not end, a value counts the same whenever it came. -/
theorem both_ends_left {oc : Outcome γ} (hc : ∀ U c, oc ≠ .ends U c) (T T' : Nat) (b : β) :
    (Outcome.ends T b).both oc = (Outcome.ends T' b).both oc := by
  cases oc with
  | ends U c => exact absurd rfl (hc U c)
  | fails U m => rfl
  | hangs => rfl

/-- A panic no later than the other computation's end wins. -/
theorem both_fails_left {oc : Outcome γ} {T : Nat} (m : String)
    (hc : ∀ U, oc.time? = some U → T ≤ U) : (Outcome.fails T m : Outcome β).both oc = .fails T m := by
  cases oc with
  | ends U c => rfl
  | fails U m' => exact if_pos (hc U rfl)
  | hangs => rfl

/-- A panic of the second computation wins when the first panics only later. -/
theorem both_fails_right {ob : Outcome β} {T : Nat} (m : String)
    (hb : ∀ U m', ob = .fails U m' → T < U) : ob.both (Outcome.fails T m : Outcome γ) = .fails T m := by
  cases ob with
  | ends U b => rfl
  | fails U m' => exact if_neg (Nat.not_le_of_lt (hb U m' rfl))
  | hangs => rfl

/-- A panic on either side is never a hang. -/
theorem both_ne_hangs {ob : Outcome β} {oc : Outcome γ}
    (h : (∃ T m, ob = .fails T m) ∨ ∃ U m, oc = .fails U m) : ob.both oc ≠ .hangs := by
  rcases h with ⟨T, m, rfl⟩ | ⟨U, m, rfl⟩
  · cases oc with
    | fails U m' => simp only [both]; split <;> exact fun h => by cases h
    | _ => exact fun h => by cases h
  · cases ob with
    | fails T m' => simp only [both]; split <;> exact fun h => by cases h
    | _ => exact fun h => by cases h

/-- The same, with the value second. -/
theorem both_ends_right {ob : Outcome β} (hb : ∀ T b, ob ≠ .ends T b) (U U' : Nat) (c : γ) :
    ob.both (Outcome.ends U c) = ob.both (Outcome.ends U' c) := by
  cases ob with
  | ends T b => exact absurd rfl (hb T b)
  | fails T m => rfl
  | hangs => rfl

end Outcome

/-! ## (3) What the timed reading of a program says on its own -/

namespace Timed

variable {M : ProviderScript} {top : Bool} {α : Type}

/-- **A fresh program waits on no registered sleep.** -/
theorem sleeps_eq_nil {p : Act α} {τ : Nat} {o : Outcome α} {cs : List (List ChatMessage)}
    (h : Timed M false p τ o cs) : p.sleeps = [] := by
  generalize hf : false = top at h
  induction h with
  | asleep => cases hf
  | both _ _ _ ihp ihq _ => simp [sleeps, ihp hf, ihq hf]
  | bothFails _ _ _ _ ihp ihq => simp [sleeps, ihp hf, ihq hf]
  | bothHangs _ _ _ _ ihp ihq => simp [sleeps, ihp hf, ihq hf]
  | _ => rfl

/-- **A program ends no earlier than it starts.** -/
theorem le_time {p : Act α} {τ : Nat} {o : Outcome α} {cs : List (List ChatMessage)}
    (h : Timed M top p τ o cs) {T : Nat} (hT : o.time? = some T) : τ ≤ T := by
  induction h generalizing T with
  | pure a τ => cases hT; exact Nat.le_refl _
  | panic m τ => cases hT; exact Nat.le_refl _
  | pending => cases hT
  | ask _ _ _ ih => exact ih hT
  | clock _ ih => exact ih hT
  | sleep d _ ih => exact Nat.le_trans (Nat.le_max_left _ _) (ih hT)
  | asleep d id _ ih => exact Nat.le_trans (Nat.le_max_left _ _) (ih hT)
  | both _ _ _ ihp _ ihk =>
    have h₁ := ihp rfl
    have h₂ := ihk hT
    omega
  | bothFails _ _ _ hb ihp ihq =>
    cases hT
    rcases Outcome.both_eq_fails hb with h | h
    · exact ihp (by rw [h]; rfl)
    · exact ihq (by rw [h]; rfl)
  | bothHangs => cases hT

/-- A value is read as ending at once. -/
theorem eq_of_pure {b : α} {τ : Nat} {o : Outcome α} {cs : List (List ChatMessage)}
    (h : Timed M top (.pure b) τ o cs) : o = .ends τ b ∧ cs = [] := by
  cases h
  exact ⟨rfl, rfl⟩

/-- **A waiting program ends when one of its sleeps is due at the earliest.** -/
theorem sleep_le_time {p : Act α} (hw : Waiting p) {τ : Nat} {o : Outcome α}
    {cs : List (List ChatMessage)} (h : Timed M true p τ o cs) {T : Nat} (hT : o.time? = some T) :
    ∃ x ∈ p.sleeps, x.1 ≤ T := by
  -- The side that ends last, or that panics, is waiting, and so has a sleep due by then.
  induction hw generalizing cs T with
  | sleep d t k =>
    cases h with
    | asleep _ _ hk =>
      exact ⟨(d, t), List.mem_singleton_self _,
        Nat.le_trans (Nat.le_max_right _ _) (hk.le_time hT)⟩
  | pending =>
    cases h
    cases hT
  | both k _ _ ihp ihq =>
    cases h with
    | both hp hq hk =>
      obtain ⟨x, hx, hle⟩ := ihp hp (Outcome.time?_ends _ _)
      have hTk := hk.le_time hT
      exact ⟨x, List.mem_append_left _ hx, by omega⟩
    | bothFails _ hp hq hb =>
      cases hT
      rcases Outcome.both_eq_fails hb with hf | hf
      · obtain ⟨x, hx, hle⟩ := ihp hp (by rw [hf]; rfl)
        exact ⟨x, List.mem_append_left _ hx, hle⟩
      · obtain ⟨x, hx, hle⟩ := ihq hq (by rw [hf]; rfl)
        exact ⟨x, List.mem_append_right _ hx, hle⟩
    | bothHangs => cases hT
  | left c k _ ihp =>
    cases h with
    | both hp hq hk =>
      obtain ⟨x, hx, hle⟩ := ihp hp (Outcome.time?_ends _ _)
      have hTk := hk.le_time hT
      exact ⟨x, List.mem_append_left _ hx, by omega⟩
    | bothFails _ hp hq hb =>
      cases hT
      rcases Outcome.both_eq_fails hb with hf | hf
      · obtain ⟨x, hx, hle⟩ := ihp hp (by rw [hf]; rfl)
        exact ⟨x, List.mem_append_left _ hx, hle⟩
      · cases hq.eq_of_pure.1.symm.trans hf
    | bothHangs => cases hT
  | right b k _ ihq =>
    cases h with
    | both hp hq hk =>
      obtain ⟨x, hx, hle⟩ := ihq hq (Outcome.time?_ends _ _)
      have hTk := hk.le_time hT
      exact ⟨x, List.mem_append_right _ hx, by omega⟩
    | bothFails _ hp hq hb =>
      cases hT
      rcases Outcome.both_eq_fails hb with hf | hf
      · cases hp.eq_of_pure.1.symm.trans hf
      · obtain ⟨x, hx, hle⟩ := ihq hq (by rw [hf]; rfl)
        exact ⟨x, List.mem_append_right _ hx, hle⟩
    | bothHangs => cases hT

end Timed

/-! ## (4) A poll of two programs side by side -/

namespace Scheduling.Executor

variable {ι σ : Type} {α β γ : Type} {me : Nat} {ex ex₁ ex₂ : Executor ι σ} {p : Program ι σ β}
  {q : Program ι σ γ} {k : β × γ → Program ι σ α}

/-- The first program panicked: so does the pair, and the second is not polled. -/
theorem poll_both_panic_left {m : String} (hp : poll me ex p = (ex₁, .panic m)) :
    poll me ex (.both p q k) = (ex₁, .panic m) := by
  rw [poll, hp]

/-- The second program panicked, after the first did not. -/
theorem poll_both_panic_right {p' : Program ι σ β} {m : String} (hp : poll me ex p = (ex₁, p'))
    (hp' : ∀ m, p' ≠ .panic m) (hq : poll me ex₁ q = (ex₂, .panic m)) :
    poll me ex (.both p q k) = (ex₂, .panic m) := by
  rw [poll, hp]
  dsimp only
  split
  · exact absurd rfl (hp' _)
  · rw [hq]

/-- Both programs ended: the continuation runs in the same poll. -/
theorem poll_both_pure {b : β} {c : γ} (hp : poll me ex p = (ex₁, .pure b))
    (hq : poll me ex₁ q = (ex₂, .pure c)) : poll me ex (.both p q k) = poll me ex₂ (k (b, c)) := by
  rw [poll, hp]
  dsimp only
  rw [hq]

/-- **Neither program panicked and not both ended:** the pair waits on what is left of them. -/
theorem poll_both_blocked {p' : Program ι σ β} {q' : Program ι σ γ} (hp : poll me ex p = (ex₁, p'))
    (hq : poll me ex₁ q = (ex₂, q')) (hp' : ∀ m, p' ≠ .panic m) (hq' : ∀ m, q' ≠ .panic m)
    (hpq : ∀ b c, ¬(p' = .pure b ∧ q' = .pure c)) :
    poll me ex (.both p q k) = (ex₂, .both p' q' k) := by
  rw [poll, hp]
  dsimp only
  split
  · exact absurd rfl (hp' _)
  · rw [hq]
    dsimp only
    split
    · exact absurd rfl (hq' _)
    · exact absurd ⟨rfl, rfl⟩ (hpq _ _)
    · rfl

end Scheduling.Executor

/-! ## (5) What a poll of a program on the clock does -/

/-- **The deployment after the model was asked** on the transcripts `cs`, with `offered` the
tools offered in the first call. -/
def Deployment.asked (d : Deployment) (cs : List (List ChatMessage)) (offered : Option (List Json)) :
    Deployment :=
  { d with calls := d.calls ++ cs, offered }

namespace Deployment

@[simp] theorem asked_nil (d : Deployment) : d.asked [] d.offered = d := by
  unfold asked
  rw [List.append_nil]

theorem asked_asked (d : Deployment) (cs cs' : List (List ChatMessage))
    (off off' : Option (List Json)) : (d.asked cs off).asked cs' off' = d.asked (cs ++ cs') off' := by
  simp only [asked, List.append_assoc]

@[simp] theorem asked_model (d : Deployment) (cs : List (List ChatMessage))
    (off : Option (List Json)) : (d.asked cs off).model = d.model := rfl

@[simp] theorem asked_subagents (d : Deployment) (cs : List (List ChatMessage))
    (off : Option (List Json)) : (d.asked cs off).subagents = d.subagents := rfl

end Deployment

/-- A call of the model is the deployment asked once. -/
theorem AgentRun.logCall_fst (messages : List ChatMessage) (schemas : List Json) (d : Deployment) :
    (logCall messages schemas d).1 = d.asked [messages] (d.offered.orElse fun _ => some schemas) :=
  rfl

namespace Timed

variable {M : ProviderScript} {α β γ : Type}

/-- **What a poll at `τ` by task `me` leaves of a program that ends as `o` after asking on `cs`:**
its value or its panic when it ends at `τ`, and otherwise a program waiting on sleeps due after
`τ`, with their timers among `timers`, which still ends as `o` from `τ`. -/
inductive Left (M : ProviderScript) (me τ : Nat) (timers : List Timer) {α : Type} :
    Outcome α → List (List ChatMessage) → Act α → Prop where
  | ended (a : α) : Left M me τ timers (.ends τ a) [] (.pure a)
  | failed (m : String) : Left M me τ timers (.fails τ m) [] (.panic m)
  | waiting {o : Outcome α} {cs : List (List ChatMessage)} {p : Act α} : Waiting p →
      Timed M true p τ o cs → (∀ x ∈ p.sleeps, τ < x.1 ∧ ⟨x.2, x.1, me⟩ ∈ timers) →
      Left M me τ timers o cs p

namespace Left

variable {me τ : Nat} {timers : List Timer} {o : Outcome α} {cs : List (List ChatMessage)}
  {p : Act α}

/-- What is left still reads the same. -/
theorem timed (h : Left M me τ timers o cs p) : Timed M true p τ o cs := by
  cases h with
  | ended a => exact .pure a τ
  | failed m => exact .panic m τ
  | waiting _ ht _ => exact ht

/-- Its sleeps are due after `τ`, with their timers among `timers`. -/
theorem sleeps (h : Left M me τ timers o cs p) :
    ∀ x ∈ p.sleeps, τ < x.1 ∧ (⟨x.2, x.1, me⟩ : Timer) ∈ timers := by
  cases h with
  | ended a => intro x hx; cases hx
  | failed m => intro x hx; cases hx
  | waiting _ _ hs => exact hs

/-- More timers do no harm. -/
theorem mono {timers' : List Timer} (h : Left M me τ timers o cs p)
    (ht : ∀ tm ∈ timers, tm ∈ timers') : Left M me τ timers' o cs p := by
  cases h with
  | ended a => exact .ended a
  | failed m => exact .failed m
  | waiting hw ht' hs => exact .waiting hw ht' fun x hx => ⟨(hs x hx).1, ht _ (hs x hx).2⟩

/-- **What is left, unless a panic, has ended or waits.** -/
theorem waiting_or_pure (h : Left M me τ timers o cs p) (hp : ∀ m, p ≠ .panic m) :
    Waiting p ∨ ∃ a, p = .pure a := by
  cases h with
  | ended a => exact .inr ⟨a, rfl⟩
  | failed m => exact absurd rfl (hp m)
  | waiting hw _ _ => exact .inl hw

/-- A value is left only by a program that ends now. -/
theorem eq_of_pure {a : α} (h : Left M me τ timers o cs (.pure a)) : o = .ends τ a ∧ cs = [] := by
  cases h with
  | ended => exact ⟨rfl, rfl⟩
  | waiting hw => cases hw

/-- A panic is left only by a program that panics now. -/
theorem eq_of_panic {m : String} (h : Left M me τ timers o cs (.panic m)) :
    o = .fails τ m ∧ cs = [] := by
  cases h with
  | failed => exact ⟨rfl, rfl⟩
  | waiting hw => cases hw

/-- A program that does not panic leaves no panic. -/
theorem ne_panic (h : Left M me τ timers o cs p) (ho : ∀ T m, o ≠ .fails T m) :
    ∀ m, p ≠ .panic m := by
  rintro m rfl
  exact ho _ _ h.eq_of_panic.1

/-- **A waiting program ends after `τ`,** if it ends. -/
theorem after (h : Left M me τ timers o cs p) (hw : Waiting p) {T : Nat} (hT : o.time? = some T) :
    τ < T := by
  obtain ⟨x, hx, hle⟩ := Timed.sleep_le_time hw h.timed hT
  exact Nat.lt_of_lt_of_le (h.sleeps x hx).1 hle

end Left

/-- **What is left, unless a panic, panics after `τ`,** if it panics. -/
theorem Left.fails_after {me τ : Nat} {timers : List Timer} {o : Outcome α}
    {cs : List (List ChatMessage)} {p : Act α} (h : Left M me τ timers o cs p)
    (hp : ∀ m, p ≠ .panic m) : ∀ U m, o = .fails U m → τ < U := by
  rintro U m rfl
  rcases h.waiting_or_pure hp with hw | ⟨a, rfl⟩
  · exact h.after hw rfl
  · cases h.eq_of_pure.1

/-- Two programs side by side, each waiting or with its value and not both with values, wait. -/
theorem waiting_both {p : Act β} {q : Act γ} (k : β × γ → Act α) (hp : Waiting p ∨ ∃ b, p = .pure b)
    (hq : Waiting q ∨ ∃ c, q = .pure c) (hpq : ∀ b c, ¬(p = .pure b ∧ q = .pure c)) :
    Waiting (.both p q k) := by
  rcases hp with hwp | ⟨b, rfl⟩
  · rcases hq with hwq | ⟨c, rfl⟩
    · exact .both k hwp hwq
    · exact .left c k hwp
  · rcases hq with hwq | ⟨c, rfl⟩
    · exact .right b k hwq
    · exact absurd ⟨rfl, rfl⟩ (hpq b c)

/-- **Two programs left side by side,** neither a panic and not both values, wait together. -/
theorem Left.pair {me τ : Nat} {timers : List Timer} {p : Act β} {q : Act γ} {op : Outcome β}
    {oq : Outcome γ} (hLp : Left M me τ timers op [] p) (hLq : Left M me τ timers oq [] q)
    (hp : ∀ m, p ≠ .panic m) (hq : ∀ m, q ≠ .panic m) (hpq : ∀ b c, ¬(p = .pure b ∧ q = .pure c))
    {k : β × γ → Act α} {o : Outcome α} {cs : List (List ChatMessage)}
    (ht : Timed M true (.both p q k) τ o cs) : Left M me τ timers o cs (.both p q k) := by
  refine .waiting (waiting_both k (hLp.waiting_or_pure hp) (hLq.waiting_or_pure hq) hpq) ht ?_
  intro x hx
  rcases List.mem_append.1 hx with hx | hx
  · exact hLp.sleeps x hx
  · exact hLq.sleeps x hx

/-- **A poll of a program on the clock at its start does what the reading says:** it asks the
model on the first transcripts of the reading, changes nothing else of the deployment, and leaves
what `Left` says. The sleeps at the program's front must have their timers, as the executor keeps
them for a waiting task. -/
theorem poll {top : Bool} {p : Act α} {τ : Nat} {o : Outcome α} {cs : List (List ChatMessage)}
    (h : Timed M top p τ o cs) (me : Nat) (ex : Exec) (hnow : ex.now = τ)
    (hM : ex.shared.model = M)
    (hreg : ∀ x ∈ p.sleeps, τ < x.1 → (⟨x.2, x.1, me⟩ : Timer) ∈ ex.timers) :
    ∃ cs₁ cs₂ off, cs = cs₁ ++ cs₂ ∧ (Executor.poll me ex p).1.shared = ex.shared.asked cs₁ off ∧
      Left M me τ (Executor.poll me ex p).1.timers o cs₂ (Executor.poll me ex p).2 := by
  -- The induction follows the reading; the executor changes along the poll.
  induction h generalizing ex with
  | pure a τ => exact ⟨[], [], ex.shared.offered, rfl, (Deployment.asked_nil _).symm, .ended a⟩
  | panic m τ => exact ⟨[], [], ex.shared.offered, rfl, (Deployment.asked_nil _).symm, .failed m⟩
  | pending τ =>
    exact ⟨[], [], ex.shared.offered, rfl, (Deployment.asked_nil _).symm,
      .waiting .pending (.pending τ) fun x hx => by cases hx⟩
  | @ask _ _ messages schemas k τ o cs hk ih =>
    -- The call is recorded, and the script's step for the transcript is taken.
    have hpoll : Executor.poll me ex (.step (AgentRun.logCall messages schemas) k) =
        Executor.poll me { ex with shared := (AgentRun.logCall messages schemas ex.shared).1 }
          (k (M.stepFor messages)) := by
      rw [← hM]
      rfl
    obtain ⟨cs₁, cs₂, off, hcs, hsh, hL⟩ :=
      ih { ex with shared := (AgentRun.logCall messages schemas ex.shared).1 } hnow hM
        (by rw [hk.sleeps_eq_nil]; intro x hx; cases hx)
    rw [hpoll]
    refine ⟨messages :: cs₁, cs₂, off, by rw [hcs]; rfl, ?_, hL⟩
    rw [hsh]
    exact Deployment.asked_asked _ _ _ _ _
  | @clock _ _ k τ o cs hk ih =>
    have hpoll : Executor.poll me ex (.clock k) = Executor.poll me ex (k τ) := by
      rw [← hnow]
      rfl
    rw [hpoll]
    exact ih ex hnow hM (by rw [hk.sleeps_eq_nil]; intro x hx; cases hx)
  | @sleep _ _ d k τ o cs hk ih =>
    by_cases hd : d ≤ τ
    · -- Due already: the poll goes on at once.
      have hpoll : Executor.poll me ex (.sleepUntil d none k) = Executor.poll me ex (k ()) := by
        simp only [Executor.poll, hnow, if_pos hd]
      rw [hpoll]
      rw [Nat.max_eq_left hd] at hk ih
      exact ih ex hnow hM (by rw [hk.sleeps_eq_nil]; intro x hx; cases hx)
    · -- Not yet due: a timer is registered, and the program waits on it.
      have hpoll : Executor.poll me ex (.sleepUntil d none k) =
          ((ex.addTimer d me).1, .sleepUntil d (some ex.nextId) k) := by
        simp only [Executor.poll, hnow, if_neg hd]
        rfl
      rw [hpoll]
      refine ⟨[], cs, ex.shared.offered, rfl, (Deployment.asked_nil _).symm,
        .waiting (.sleep d _ k) (.asleep d _ hk) ?_⟩
      intro x hx
      simp only [Program.sleeps, List.mem_singleton] at hx
      subst hx
      exact ⟨Nat.lt_of_not_le hd, mem_insertTimer.2 (.inl rfl)⟩
  | @asleep _ d id k τ o cs hk ih =>
    by_cases hd : d ≤ τ
    · have hpoll : Executor.poll me ex (.sleepUntil d (some id) k) = Executor.poll me ex (k ()) := by
        simp only [Executor.poll, hnow, if_pos hd]
      rw [hpoll]
      rw [Nat.max_eq_left hd] at hk ih
      exact ih ex hnow hM (by rw [hk.sleeps_eq_nil]; intro x hx; cases hx)
    · -- Not yet due: the program keeps waiting on its timer.
      have hpoll : Executor.poll me ex (.sleepUntil d (some id) k) =
          (ex, .sleepUntil d (some id) k) := by
        simp only [Executor.poll, hnow, if_neg hd]
      rw [hpoll]
      refine ⟨[], cs, ex.shared.offered, rfl, (Deployment.asked_nil _).symm,
        .waiting (.sleep d id k) (.asleep d id hk) ?_⟩
      intro x hx
      simp only [Program.sleeps, List.mem_singleton] at hx
      subst hx
      exact ⟨Nat.lt_of_not_le hd, hreg _ (List.mem_singleton_self _) (Nat.lt_of_not_le hd)⟩
  | @both _ _ β γ p q k τ T U b c o cs hp hq hk ihp ihq ihk =>
    -- The first program is polled, then the second from where it left off.
    obtain ⟨cs₁, cs₂, off, hcs, hsh, hL⟩ :=
      ihp ex hnow hM fun x hx => hreg x (List.mem_append_left _ hx)
    obtain ⟨rfl, rfl⟩ := List.append_eq_nil_iff.1 hcs.symm
    have hs₁ := poll_steady me ex p
    rcases hr₁ : Executor.poll me ex p with ⟨ex₁, p'⟩
    rw [hr₁] at hsh hL hs₁
    obtain ⟨cs₁', cs₂', off', hcs', hsh', hL'⟩ := ihq ex₁ (hs₁.now.trans hnow)
      (by rw [hsh]; exact hM) fun x hx hlt => hs₁.timers _ (hreg x (List.mem_append_right _ hx) hlt)
    obtain ⟨rfl, rfl⟩ := List.append_eq_nil_iff.1 hcs'.symm
    have hs₂ := poll_steady me ex₁ q
    rcases hr₂ : Executor.poll me ex₁ q with ⟨ex₂, q'⟩
    rw [hr₂] at hsh' hL' hs₂
    have hshared : ex₂.shared = ex.shared.asked [] off' := by
      rw [hsh', hsh, Deployment.asked_asked]
      rfl
    by_cases hpure : ∃ b' c', p' = .pure b' ∧ q' = .pure c'
    · -- Both ended now: the continuation runs in the same poll.
      obtain ⟨b', c', rfl, rfl⟩ := hpure
      obtain ⟨h₁, -⟩ := hL.eq_of_pure
      obtain ⟨h₂, -⟩ := hL'.eq_of_pure
      cases h₁
      cases h₂
      rw [poll_both_pure hr₁ hr₂]
      rw [Nat.max_self] at hk ihk
      obtain ⟨cs₁'', cs₂'', off'', hcs'', hsh'', hL''⟩ :=
        ihk ex₂ (hs₂.now.trans (hs₁.now.trans hnow)) (by rw [hshared]; exact hM)
          (by rw [hk.sleeps_eq_nil]; intro x hx; cases hx)
      refine ⟨cs₁'', cs₂'', off'', hcs'', ?_, hL''⟩
      rw [hsh'', hshared, Deployment.asked_asked]
      rfl
    · -- One of them waits, and so does the pair.
      have hp' := hL.ne_panic fun _ _ h => by cases h
      have hq' := hL'.ne_panic fun _ _ h => by cases h
      have hpq : ∀ b' c', ¬(p' = .pure b' ∧ q' = .pure c') := fun b' c' h => hpure ⟨b', c', h⟩
      rw [poll_both_blocked hr₁ hr₂ hp' hq' hpq]
      exact ⟨[], cs, off', rfl, hshared,
        Left.pair (hL.mono hs₂.timers) hL' hp' hq' hpq (.both hL.timed hL'.timed hk)⟩
  | @bothFails _ _ β γ p q k τ op oq T m hp hq hb ihp ihq =>
    obtain ⟨cs₁, cs₂, off, hcs, hsh, hL⟩ :=
      ihp ex hnow hM fun x hx => hreg x (List.mem_append_left _ hx)
    obtain ⟨rfl, rfl⟩ := List.append_eq_nil_iff.1 hcs.symm
    have hs₁ := poll_steady me ex p
    rcases hr₁ : Executor.poll me ex p with ⟨ex₁, p'⟩
    rw [hr₁] at hsh hL hs₁
    by_cases hfp : ∃ m', p' = .panic m'
    · -- The first program panicked now, before any panic of the second.
      obtain ⟨m', rfl⟩ := hfp
      obtain ⟨h₁, -⟩ := hL.eq_of_panic
      subst h₁
      rw [Outcome.both_fails_left m' fun U hU => hq.le_time hU] at hb
      cases hb
      rw [poll_both_panic_left hr₁]
      exact ⟨[], [], off, rfl, hsh, .failed _⟩
    · have hp' : ∀ m', p' ≠ .panic m' := fun m' h => hfp ⟨m', h⟩
      obtain ⟨cs₁', cs₂', off', hcs', hsh', hL'⟩ := ihq ex₁ (hs₁.now.trans hnow)
        (by rw [hsh]; exact hM) fun x hx hlt => hs₁.timers _ (hreg x (List.mem_append_right _ hx) hlt)
      obtain ⟨rfl, rfl⟩ := List.append_eq_nil_iff.1 hcs'.symm
      have hs₂ := poll_steady me ex₁ q
      rcases hr₂ : Executor.poll me ex₁ q with ⟨ex₂, q'⟩
      rw [hr₂] at hsh' hL' hs₂
      have hshared : ex₂.shared = ex.shared.asked [] off' := by
        rw [hsh', hsh, Deployment.asked_asked]
        rfl
      by_cases hfq : ∃ m', q' = .panic m'
      · -- The second panicked now, while the first panics later if at all.
        obtain ⟨m', rfl⟩ := hfq
        obtain ⟨h₂, -⟩ := hL'.eq_of_panic
        subst h₂
        rw [Outcome.both_fails_right m' (hL.fails_after hp')] at hb
        cases hb
        rw [poll_both_panic_right hr₁ hp' hr₂]
        exact ⟨[], [], off', rfl, hshared, .failed _⟩
      · -- Neither panicked now: they wait side by side.
        have hq' : ∀ m', q' ≠ .panic m' := fun m' h => hfq ⟨m', h⟩
        have hpq : ∀ b' c', ¬(p' = .pure b' ∧ q' = .pure c') := by
          rintro b' c' ⟨rfl, rfl⟩
          rw [hL.eq_of_pure.1, hL'.eq_of_pure.1] at hb
          cases hb
        rw [poll_both_blocked hr₁ hr₂ hp' hq' hpq]
        exact ⟨[], [], off', rfl, hshared,
          Left.pair (hL.mono hs₂.timers) hL' hp' hq' hpq (.bothFails k hL.timed hL'.timed hb)⟩
  | @bothHangs _ _ β γ p q k τ op oq hp hq hb ihp ihq =>
    obtain ⟨cs₁, cs₂, off, hcs, hsh, hL⟩ :=
      ihp ex hnow hM fun x hx => hreg x (List.mem_append_left _ hx)
    obtain ⟨rfl, rfl⟩ := List.append_eq_nil_iff.1 hcs.symm
    have hs₁ := poll_steady me ex p
    rcases hr₁ : Executor.poll me ex p with ⟨ex₁, p'⟩
    rw [hr₁] at hsh hL hs₁
    obtain ⟨cs₁', cs₂', off', hcs', hsh', hL'⟩ := ihq ex₁ (hs₁.now.trans hnow)
      (by rw [hsh]; exact hM) fun x hx hlt => hs₁.timers _ (hreg x (List.mem_append_right _ hx) hlt)
    obtain ⟨rfl, rfl⟩ := List.append_eq_nil_iff.1 hcs'.symm
    have hs₂ := poll_steady me ex₁ q
    rcases hr₂ : Executor.poll me ex₁ q with ⟨ex₂, q'⟩
    rw [hr₂] at hsh' hL' hs₂
    have hshared : ex₂.shared = ex.shared.asked [] off' := by
      rw [hsh', hsh, Deployment.asked_asked]
      rfl
    -- Neither side panics, and they do not both end: they wait side by side.
    have hp' : ∀ m', p' ≠ .panic m' := hL.ne_panic fun T m' h =>
      Outcome.both_ne_hangs (.inl ⟨T, m', h⟩) hb
    have hq' : ∀ m', q' ≠ .panic m' := hL'.ne_panic fun U m' h =>
      Outcome.both_ne_hangs (.inr ⟨U, m', h⟩) hb
    have hpq : ∀ b' c', ¬(p' = .pure b' ∧ q' = .pure c') := by
      rintro b' c' ⟨rfl, rfl⟩
      rw [hL.eq_of_pure.1, hL'.eq_of_pure.1] at hb
      cases hb
    rw [poll_both_blocked hr₁ hr₂ hp' hq' hpq]
    exact ⟨[], [], off', rfl, hshared,
      Left.pair (hL.mono hs₂.timers) hL' hp' hq' hpq (.bothHangs k hL.timed hL'.timed hb)⟩

/-- **While a program waits, the clock may move up to its first deadline:** it reads the same
from any time in between. A side that ended reads as ending whenever it is looked at, and the
other side, waiting, ends no earlier than the first deadline. -/
theorem shift {p : Act α} (hw : Waiting p) {τ τ' : Nat} {o : Outcome α}
    {cs : List (List ChatMessage)} (h : Timed M true p τ o cs) (hle : τ ≤ τ')
    (hdue : ∀ x ∈ p.sleeps, τ' ≤ x.1) : Timed M true p τ' o cs := by
  induction hw generalizing cs with
  | sleep d t k =>
    cases h with
    | asleep _ _ hk =>
      have hd : τ' ≤ d := hdue _ (List.mem_singleton_self _)
      refine .asleep d t ?_
      rw [Nat.max_eq_right (Nat.le_trans hle hd)] at hk
      rwa [Nat.max_eq_right hd]
  | pending =>
    cases h
    exact .pending τ'
  | both k _ _ ihp ihq =>
    have hdp : ∀ x : Nat × Nat, x ∈ _ → τ' ≤ x.1 := fun x hx => hdue x (List.mem_append_left _ hx)
    have hdq : ∀ x : Nat × Nat, x ∈ _ → τ' ≤ x.1 := fun x hx => hdue x (List.mem_append_right _ hx)
    cases h with
    | both hp hq hk => exact .both (ihp hp hdp) (ihq hq hdq) hk
    | bothFails _ hp hq hb => exact .bothFails k (ihp hp hdp) (ihq hq hdq) hb
    | bothHangs _ hp hq hb => exact .bothHangs k (ihp hp hdp) (ihq hq hdq) hb
  | left c k hwp ihp =>
    have hdp : ∀ x : Nat × Nat, x ∈ _ → τ' ≤ x.1 := fun x hx => hdue x (List.mem_append_left _ hx)
    cases h with
    | both hp hq hk =>
      obtain ⟨hU, -⟩ := hq.eq_of_pure
      cases hU
      -- The waiting side ends at a sleep's deadline or later, so no earlier than `τ'`.
      obtain ⟨x, hx, hxT⟩ := sleep_le_time hwp hp (Outcome.time?_ends _ _)
      have hT := Nat.le_trans (hdp x hx) hxT
      refine .both (ihp hp hdp) (.pure c τ') ?_
      rw [Nat.max_eq_left (Nat.le_trans hle hT)] at hk
      rwa [Nat.max_eq_left hT]
    | @bothFails _ _ _ _ _ _ _ _ op _ _ _ hp hq hb =>
      obtain ⟨hU, -⟩ := hq.eq_of_pure
      subst hU
      have hne : ∀ T b, op ≠ Outcome.ends T b := by rintro T b rfl; cases hb
      rw [Outcome.both_ends_right hne _ τ' c] at hb
      exact .bothFails k (ihp hp hdp) (.pure c τ') hb
    | @bothHangs _ _ _ _ _ _ _ _ op _ hp hq hb =>
      obtain ⟨hU, -⟩ := hq.eq_of_pure
      subst hU
      have hne : ∀ T b, op ≠ Outcome.ends T b := by rintro T b rfl; cases hb
      rw [Outcome.both_ends_right hne _ τ' c] at hb
      exact .bothHangs k (ihp hp hdp) (.pure c τ') hb
  | right b k hwq ihq =>
    have hdq : ∀ x : Nat × Nat, x ∈ _ → τ' ≤ x.1 := fun x hx => hdue x (List.mem_append_right _ hx)
    cases h with
    | both hp hq hk =>
      obtain ⟨hT, -⟩ := hp.eq_of_pure
      cases hT
      obtain ⟨x, hx, hxU⟩ := sleep_le_time hwq hq (Outcome.time?_ends _ _)
      have hU := Nat.le_trans (hdq x hx) hxU
      refine .both (.pure b τ') (ihq hq hdq) ?_
      rw [Nat.max_eq_right (Nat.le_trans hle hU)] at hk
      rwa [Nat.max_eq_right hU]
    | @bothFails _ _ _ _ _ _ _ _ _ oq _ _ hp hq hb =>
      obtain ⟨hT, -⟩ := hp.eq_of_pure
      subst hT
      have hne : ∀ U c, oq ≠ Outcome.ends U c := by rintro U c rfl; cases hb
      rw [Outcome.both_ends_left hne _ τ' b] at hb
      exact .bothFails k (.pure b τ') (ihq hq hdq) hb
    | @bothHangs _ _ _ _ _ _ _ _ _ oq hp hq hb =>
      obtain ⟨hT, -⟩ := hp.eq_of_pure
      subst hT
      have hne : ∀ U c, oq ≠ Outcome.ends U c := by rintro U c rfl; cases hb
      rw [Outcome.both_ends_left hne _ τ' b] at hb
      exact .bothHangs k (.pure b τ') (ihq hq hdq) hb

end Timed

end ChatGateway
