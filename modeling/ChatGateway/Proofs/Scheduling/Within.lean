import ChatGateway.Proofs.Scheduling.Poll
import Mathlib.Logic.Relation

/-! # Programs whose effects stay within a frame

`Program.Within A me b p` says that every effect the program `p` can have on the executor, when
it runs as task `me`, is a step of the relation `A`: each synchronous update, each timer it
registers, each task it spawns or cancels, each mutex it takes or releases, each yield, and the
wake a loop gives its own task between two rounds. The flag
`b` says whether `p` may end in a panic; a panic inside a `guard` is caught and does not count.

Besides the effects themselves, `A` may admit whole *calls*: a program `q` that, whatever the
executor, ends within one poll with a value and an `A`-step (`Within.call`). A call is how a
frame admits an operation such as publishing an event, whose inner steps it could not admit one
by one.

* `Within.poll_spec`: a poll of a `Within` program moves the executor by `A`-steps only, and what
  is left of the program is again `Within`. This is the one induction over `poll` that every
  invariant of the executor rests on.
* `Within.bind`, `Within.mono`: programs built from `Within` parts are `Within`, and a larger
  frame admits more.
-/

namespace ChatGateway

namespace Scheduling

namespace Executor

variable {ι σ : Type}

/-- **The executor after task `me` asks for mutex `m`:** it takes a fresh ticket, and holds the
mutex when nobody holds it or waits for it, or queues behind the waiters otherwise. -/
def lockAttempt (ex : Executor ι σ) (me m : Nat) : Executor ι σ :=
  let s := ex.mutex m
  if s.holder.isNone && s.waiters.isEmpty then
    ex.fresh.1.setMutex m { s with holder := some ex.nextId }
  else ex.fresh.1.setMutex m { s with waiters := s.waiters ++ [(me, ex.nextId)] }

/-- The executor after task `me` yields: it is woken again once the others have run. -/
def defer (ex : Executor ι σ) (me : Nat) : Executor ι σ :=
  { ex with deferred := ex.deferred ++ [me] }

end Executor

namespace Program

open Executor

variable {ι σ : Type}

/-- **A program whose effects are all steps of `A`** when it runs as task `me`; it may end in a
panic only if `panics` holds. -/
inductive Within (A : Executor ι σ → Executor ι σ → Prop) (me : Nat) :
    Bool → {α : Type} → Program ι σ α → Prop where
  | pure {panics : Bool} {α : Type} (a : α) : Within A me panics (.pure a)
  | panic {α : Type} (m : String) : Within A me true (.panic (α := α) m)
  | pending {panics : Bool} {α : Type} : Within A me panics (.pending (α := α))
  | step {panics : Bool} {α β : Type} (f : σ → σ × β) (k : β → Program ι σ α) :
      (∀ ex : Executor ι σ, A ex { ex with shared := (f ex.shared).1 }) →
      (∀ x, Within A me panics (k x)) → Within A me panics (.step f k)
  | clock {panics : Bool} {α : Type} (k : Nat → Program ι σ α) :
      (∀ t, Within A me panics (k t)) → Within A me panics (.clock k)
  | sleepUntil {panics : Bool} {α : Type} (d : Nat) (t : Option Nat) (k : Unit → Program ι σ α) :
      (∀ ex : Executor ι σ, A ex (ex.addTimer d me).1) →
      (∀ u, Within A me panics (k u)) → Within A me panics (.sleepUntil d t k)
  | spawn {panics : Bool} {α : Type} (job : ι) (k : Nat → Program ι σ α) :
      (∀ ex : Executor ι σ, A ex (ex.spawnTask job).1) →
      (∀ i, Within A me panics (k i)) → Within A me panics (.spawn job k)
  | join {panics : Bool} {α : Type} (t : Nat) (k : Bool → Program ι σ α) :
      (∀ ok, Within A me panics (k ok)) → Within A me panics (.join t k)
  | started {panics : Bool} {α : Type} (t : Nat) (k : Unit → Program ι σ α) :
      (∀ u, Within A me panics (k u)) → Within A me panics (.started t k)
  | finished {panics : Bool} {α : Type} (t : Nat) (k : Bool → Program ι σ α) :
      (∀ done, Within A me panics (k done)) → Within A me panics (.finished t k)
  | abort {panics : Bool} {α : Type} (t : Nat) (k : Unit → Program ι σ α) :
      (∀ ex : Executor ι σ, A ex (ex.abortTask t)) →
      (∀ u, Within A me panics (k u)) → Within A me panics (.abort t k)
  | lock {panics : Bool} {α : Type} (m : Nat) (t : Option Nat) (k : Unit → Program ι σ α) :
      (∀ ex : Executor ι σ, A ex (ex.lockAttempt me m)) →
      (∀ u, Within A me panics (k u)) → Within A me panics (.lock m t k)
  | unlock {panics : Bool} {α : Type} (m : Nat) (k : Unit → Program ι σ α) :
      (∀ ex : Executor ι σ, A ex (ex.release m)) →
      (∀ u, Within A me panics (k u)) → Within A me panics (.unlock m k)
  | yieldNow {panics : Bool} {α : Type} (y : Bool) (k : Unit → Program ι σ α) :
      (∀ ex : Executor ι σ, A ex (ex.defer me)) →
      (∀ u, Within A me panics (k u)) → Within A me panics (.yieldNow y k)
  | guard {panics : Bool} {α β : Type} (inner : Program ι σ β) (k : Except String β → Program ι σ α) :
      Within A me true inner → (∀ r, Within A me panics (k r)) →
      Within A me panics (.guard inner k)
  | timeout {panics : Bool} {α β : Type} (d : Nat) (t : Option Nat) (inner : Program ι σ β)
      (k : Option β → Program ι σ α) :
      (∀ ex : Executor ι σ, A ex (ex.addTimer d me).1) → Within A me panics inner →
      (∀ r, Within A me panics (k r)) → Within A me panics (.timeout d t inner k)
  | both {panics : Bool} {α β γ : Type} (p : Program ι σ β) (q : Program ι σ γ)
      (k : β × γ → Program ι σ α) :
      Within A me panics p → Within A me panics q → (∀ r, Within A me panics (k r)) →
      Within A me panics (.both p q k)
  | loop {panics : Bool} {α β γ : Type} (body : β → Program ι σ (β ⊕ γ))
      (current : Program ι σ (β ⊕ γ)) (k : γ → Program ι σ α) :
      (∀ ex : Executor ι σ, A ex (ex.wake me)) → (∀ b, Within A me panics (body b)) →
      Within A me panics current → (∀ c, Within A me panics (k c)) →
      Within A me panics (.loop body current k)
  | call {panics : Bool} {α β : Type} (q : Program ι σ β) (k : β → Program ι σ α) :
      (∀ ex : Executor ι σ, ∃ x, (poll me ex q).2 = .pure x ∧ A ex (poll me ex q).1) →
      (∀ x, Within A me panics (k x)) → Within A me panics (q.bind k)

namespace Within

variable {A A' : Executor ι σ → Executor ι σ → Prop} {me : Nat}

/-- **A larger frame admits more programs.** -/
theorem mono (hA : ∀ ex ex', A ex ex' → A' ex ex') {panics : Bool} {α : Type}
    {p : Program ι σ α} (h : Within A me panics p) : Within A' me panics p := by
  induction h with
  | pure a => exact .pure a
  | panic m => exact .panic m
  | pending => exact .pending
  | step f k hf _ ih => exact .step f k (fun ex => hA _ _ (hf ex)) ih
  | clock k _ ih => exact .clock k ih
  | sleepUntil d t k hd _ ih => exact .sleepUntil d t k (fun ex => hA _ _ (hd ex)) ih
  | spawn job k hs _ ih => exact .spawn job k (fun ex => hA _ _ (hs ex)) ih
  | join t k _ ih => exact .join t k ih
  | started t k _ ih => exact .started t k ih
  | finished t k _ ih => exact .finished t k ih
  | abort t k ha _ ih => exact .abort t k (fun ex => hA _ _ (ha ex)) ih
  | lock m t k hl _ ih => exact .lock m t k (fun ex => hA _ _ (hl ex)) ih
  | unlock m k hu _ ih => exact .unlock m k (fun ex => hA _ _ (hu ex)) ih
  | yieldNow y k hy _ ih => exact .yieldNow y k (fun ex => hA _ _ (hy ex)) ih
  | guard inner k _ _ ihInner ih => exact .guard inner k ihInner ih
  | timeout d t inner k hd _ _ ihInner ih =>
    exact .timeout d t inner k (fun ex => hA _ _ (hd ex)) ihInner ih
  | both p q k _ _ _ ihP ihQ ih => exact .both p q k ihP ihQ ih
  | loop body c k hw _ _ _ ihB ihC ih => exact .loop body c k (fun ex => hA _ _ (hw ex)) ihB ihC ih
  | call q k hq _ ih =>
    refine .call q k (fun ex => ?_) ih
    obtain ⟨x, hx, hstep⟩ := hq ex
    exact ⟨x, hx, hA _ _ hstep⟩

/-- A program that never panics may also be counted among those that may. -/
theorem relax {panics : Bool} {α : Type} {p : Program ι σ α} (h : Within A me panics p) :
    Within A me true p := by
  induction h with
  | pure a => exact .pure a
  | panic m => exact .panic m
  | pending => exact .pending
  | step f k hf _ ih => exact .step f k hf ih
  | clock k _ ih => exact .clock k ih
  | sleepUntil d t k hd _ ih => exact .sleepUntil d t k hd ih
  | spawn job k hs _ ih => exact .spawn job k hs ih
  | join t k _ ih => exact .join t k ih
  | started t k _ ih => exact .started t k ih
  | finished t k _ ih => exact .finished t k ih
  | abort t k ha _ ih => exact .abort t k ha ih
  | lock m t k hl _ ih => exact .lock m t k hl ih
  | unlock m k hu _ ih => exact .unlock m k hu ih
  | yieldNow y k hy _ ih => exact .yieldNow y k hy ih
  | guard inner k hInner _ _ ih => exact .guard inner k hInner ih
  | timeout d t inner k hd _ _ ihInner ih => exact .timeout d t inner k hd ihInner ih
  | both p q k _ _ _ ihP ihQ ih => exact .both p q k ihP ihQ ih
  | loop body c k hw _ _ _ ihB ihC ih => exact .loop body c k hw ihB ihC ih
  | call q k hq _ ih => exact .call q k hq ih

/-- **Only a program that may panic can be a panic.** A call may hide a panic behind its
value (`pure a` bound to a panic), so the induction looks through calls; the executor `ex` only
serves to run a call that would itself panic. -/
theorem eq_true_of_panic (ex : Executor ι σ) {panics : Bool} {α : Type} {p : Program ι σ α}
    (h : Within A me panics p) {m : String} (hp : p = .panic m) : panics = true := by
  induction h with
  | panic _ => rfl
  | call q k hq _ ih =>
    cases q with
    | pure a => exact ih a hp
    | panic m' =>
      obtain ⟨x, hx, _⟩ := hq ex
      simp only [poll] at hx
      cases hx
    | _ => cases hp
  | _ => cases hp

/-- **Sequencing keeps a program within its frame.** -/
theorem bind {panics : Bool} {α β : Type} {p : Program ι σ α} {f : α → Program ι σ β}
    (hp : Within A me panics p) (hf : ∀ a, Within A me panics (f a)) :
    Within A me panics (p.bind f) := by
  induction hp with
  | pure a => exact hf a
  | panic m => exact .panic m
  | pending => exact .pending
  | step g k hg _ ih => exact .step g _ hg fun x => ih x hf
  | clock k _ ih => exact .clock _ fun t => ih t hf
  | sleepUntil d t k hd _ ih => exact .sleepUntil d t _ hd fun u => ih u hf
  | spawn job k hs _ ih => exact .spawn job _ hs fun i => ih i hf
  | join t k _ ih => exact .join t _ fun ok => ih ok hf
  | started t k _ ih => exact .started t _ fun u => ih u hf
  | finished t k _ ih => exact .finished t _ fun done => ih done hf
  | abort t k ha _ ih => exact .abort t _ ha fun u => ih u hf
  | lock m t k hl _ ih => exact .lock m t _ hl fun u => ih u hf
  | unlock m k hu _ ih => exact .unlock m _ hu fun u => ih u hf
  | yieldNow y k hy _ ih => exact .yieldNow y _ hy fun u => ih u hf
  | guard inner k hInner _ _ ih => exact .guard inner _ hInner fun r => ih r hf
  | timeout d t inner k hd hInner _ _ ih => exact .timeout d t inner _ hd hInner fun r => ih r hf
  | both p q k hp hq _ _ _ ih => exact .both p q _ hp hq fun r => ih r hf
  | loop body c k hw hb hc _ _ _ ih => exact .loop body c _ hw hb hc fun r => ih r hf
  | call q k hq _ ih =>
    rw [Program.bind_assoc]
    exact .call q _ hq fun x => ih x hf

/-- A synchronous update that `A` admits. -/
theorem update {panics : Bool} {β : Type} {f : σ → σ × β}
    (hf : ∀ ex : Executor ι σ, A ex { ex with shared := (f ex.shared).1 }) :
    Within A me panics (Scheduling.Program.update f) :=
  .step f _ hf fun x => .pure x

/-- A read of the shared state, which every frame admits once it admits standing still. -/
theorem read {panics : Bool} {β : Type} (f : σ → β) (hA : ∀ ex : Executor ι σ, A ex ex) :
    Within A me panics (Scheduling.Program.read (ι := ι) f) :=
  .step _ _ (fun ex => hA ex) fun x => .pure x

/-- A synchronous change of the shared state that `A` admits. -/
theorem modify {panics : Bool} {f : σ → σ}
    (hf : ∀ ex : Executor ι σ, A ex { ex with shared := f ex.shared }) :
    Within A me panics (Scheduling.Program.modify (ι := ι) f) :=
  .step _ _ hf fun _ => .pure ()

/-- Reading the clock has no effect. -/
theorem now {panics : Bool} : Within A me panics (Scheduling.Program.now (ι := ι) (σ := σ)) :=
  .clock _ fun t => .pure t

/-- A sleep registers at most a timer of its own. -/
theorem sleep {panics : Bool} (ms : Nat) (hd : ∀ (ex : Executor ι σ) d, A ex (ex.addTimer d me).1) :
    Within A me panics (Scheduling.Program.sleep (ι := ι) ms) :=
  .clock _ fun _ => .sleepUntil _ _ _ (fun ex => hd ex _) fun _ => .pure ()

/-- Starting a task that `A` admits. -/
theorem fork {panics : Bool} (job : ι) (hs : ∀ ex : Executor ι σ, A ex (ex.spawnTask job).1) :
    Within A me panics (Scheduling.Program.fork (σ := σ) job) :=
  .spawn _ _ hs fun i => .pure i

/-- Waiting for a task has no effect. -/
theorem await {panics : Bool} (t : Nat) :
    Within A me panics (Scheduling.Program.await (ι := ι) (σ := σ) t) :=
  .join _ _ fun ok => .pure ok

/-- **A caught program never panics,** whatever it does inside. -/
theorem catching {panics : Bool} {β : Type} {p : Program ι σ β} (h : Within A me true p) :
    Within A me panics (Scheduling.Program.catching p) :=
  .guard _ _ h fun r => .pure r

/-- A time limit registers at most a timer of its own. -/
theorem within {panics : Bool} {β : Type} (ms : Nat)
    (hd : ∀ (ex : Executor ι σ) d, A ex (ex.addTimer d me).1) {p : Program ι σ β}
    (h : Within A me panics p) : Within A me panics (Scheduling.Program.within ms p) :=
  .clock _ fun _ => .timeout _ _ _ _ (fun ex => hd ex _) h fun r => .pure r

/-- **A loop over a list** stays within the frame of its body. -/
theorem forM {panics : Bool} {γ : Type} (xs : List γ) {f : γ → Program ι σ Unit}
    (h : ∀ x ∈ xs, Within A me panics (f x)) : Within A me panics (xs.forM f) := by
  induction xs with
  | nil => exact .pure _
  | cons x xs ih =>
    simp only [List.forM, Program.bind_def]
    have hx : Within A me panics (f x) := h x List.mem_cons_self
    exact hx.bind fun _ => ih fun y hy => h y (List.mem_cons_of_mem x hy)

/-- **Programs run side by side** stay within their common frame. -/
theorem all {panics : Bool} {β : Type} (ps : List (Program ι σ β))
    (h : ∀ p ∈ ps, Within A me panics p) : Within A me panics (Scheduling.Program.all ps) := by
  induction ps with
  | nil => exact .pure []
  | cons p ps ih =>
    have hp : Within A me panics p := h p List.mem_cons_self
    have hps : ∀ q ∈ ps, Within A me panics q := fun q hq => h q (List.mem_cons_of_mem p hq)
    cases ps with
    | nil => exact hp.bind fun b => .pure [b]
    | cons q qs => exact .both _ _ _ hp (ih hps) fun ⟨b, bs⟩ => .pure (b :: bs)

/-- **What one poll of a `Within` program does:** it moves the executor by steps of `A`, and
what is left of the program is again within the frame. -/
theorem poll_spec {panics : Bool} {α : Type} {p : Program ι σ α} (h : Within A me panics p)
    (ex : Executor ι σ) :
    Relation.ReflTransGen A ex (poll me ex p).1 ∧ Within A me panics (poll me ex p).2 := by
  -- The induction follows the derivation of `Within`, which follows the program.
  induction h generalizing ex with
  | pure a => exact ⟨.refl, .pure a⟩
  | panic m => exact ⟨.refl, .panic m⟩
  | pending => exact ⟨.refl, .pending⟩
  | step f k hf _ ih =>
    obtain ⟨reach, within⟩ := ih (f ex.shared).2 { ex with shared := (f ex.shared).1 }
    exact ⟨.head (hf ex) reach, within⟩
  | clock k _ ih => exact ih ex.now ex
  | sleepUntil d t k hd hk ih =>
    simp only [poll]
    split
    · exact ih () ex
    · split
      · exact ⟨.refl, .sleepUntil d _ k hd hk⟩
      · exact ⟨.single (hd ex), .sleepUntil d _ k hd hk⟩
  | spawn job k hs _ ih =>
    obtain ⟨reach, within⟩ := ih (ex.spawnTask job).2 (ex.spawnTask job).1
    exact ⟨.head (hs ex) reach, within⟩
  | join t k hk ih =>
    simp only [poll]
    split
    · exact ih _ ex
    · exact ⟨.refl, .join t k hk⟩
  | started t k hk ih =>
    simp only [poll]
    split
    · exact ih () ex
    · exact ⟨.refl, .started t k hk⟩
  | finished t k _ ih => exact ih _ ex
  | abort t k ha _ ih =>
    obtain ⟨reach, within⟩ := ih () (ex.abortTask t)
    exact ⟨.head (ha ex) reach, within⟩
  | lock m t k hl hk ih =>
    cases t with
    | none =>
      have taken := hl ex
      simp only [lockAttempt] at taken
      simp only [poll, fresh]
      split
      · rename_i free
        rw [if_pos free] at taken
        obtain ⟨reach, within⟩ := ih () _
        exact ⟨.head taken reach, within⟩
      · rename_i busy
        rw [if_neg busy] at taken
        exact ⟨.single taken, .lock m _ k hl hk⟩
    | some ticket =>
      simp only [poll]
      split
      · exact ih () ex
      · exact ⟨.refl, .lock m _ k hl hk⟩
  | unlock m k hu _ ih =>
    obtain ⟨reach, within⟩ := ih () (ex.release m)
    exact ⟨.head (hu ex) reach, within⟩
  | yieldNow y k hy hk ih =>
    cases y with
    | true => exact ih () ex
    | false => exact ⟨.single (hy ex), .yieldNow true k hy hk⟩
  | guard inner k hInner hk ihInner ih =>
    obtain ⟨reach, within⟩ := ihInner ex
    simp only [poll]
    generalize poll me ex inner = r at reach within ⊢
    obtain ⟨ex₁, inner'⟩ := r
    cases inner' with
    | pure b =>
      obtain ⟨reach₁, within₁⟩ := ih (.ok b) ex₁
      exact ⟨reach.trans reach₁, within₁⟩
    | panic m =>
      obtain ⟨reach₁, within₁⟩ := ih (.error m) ex₁
      exact ⟨reach.trans reach₁, within₁⟩
    | _ => exact ⟨reach, .guard _ k within hk⟩
  | timeout d t inner k hd hInner hk ihInner ih =>
    obtain ⟨reach, within⟩ := ihInner ex
    simp only [poll]
    generalize poll me ex inner = r at reach within ⊢
    obtain ⟨ex₁, inner'⟩ := r
    cases inner' with
    | pure b =>
      obtain ⟨reach₁, within₁⟩ := ih (some b) ex₁
      exact ⟨reach.trans reach₁, within₁⟩
    | panic m =>
      -- The inner panic is rethrown at the type of the whole race.
      have hpanics := within.eq_true_of_panic ex₁ rfl
      subst hpanics
      exact ⟨reach, .panic m⟩
    | _ =>
      -- A blocked inner computation is raced against the deadline.
      dsimp only at within ⊢
      split
      · obtain ⟨reach₁, within₁⟩ := ih none ex₁
        exact ⟨reach.trans reach₁, within₁⟩
      · split
        · exact ⟨reach, .timeout d _ _ k hd within hk⟩
        · exact ⟨reach.tail (hd ex₁), .timeout d _ _ k hd within hk⟩
  | both p q k hp hq hk ihP ihQ ih =>
    obtain ⟨reachP, withinP⟩ := ihP ex
    simp only [poll]
    generalize poll me ex p = r at reachP withinP ⊢
    obtain ⟨ex₁, p'⟩ := r
    obtain ⟨reachQ, withinQ⟩ := ihQ ex₁
    generalize poll me ex₁ q = r' at reachQ withinQ ⊢
    obtain ⟨ex₂, q'⟩ := r'
    cases p' with
    | panic m =>
      have hpanics := withinP.eq_true_of_panic ex₁ rfl
      subst hpanics
      exact ⟨reachP, .panic m⟩
    | pure b =>
      cases q' with
      | panic m =>
        have hpanics := withinQ.eq_true_of_panic ex₂ rfl
        subst hpanics
        exact ⟨reachP.trans reachQ, .panic m⟩
      | pure c =>
        obtain ⟨reach₁, within₁⟩ := ih (b, c) ex₂
        exact ⟨(reachP.trans reachQ).trans reach₁, within₁⟩
      | _ =>
        dsimp only at withinQ ⊢
        exact ⟨reachP.trans reachQ, .both _ _ k withinP withinQ hk⟩
    | _ =>
      cases q' with
      | panic m =>
        have hpanics := withinQ.eq_true_of_panic ex₂ rfl
        subst hpanics
        exact ⟨reachP.trans reachQ, .panic m⟩
      | _ =>
        dsimp only at withinP withinQ ⊢
        exact ⟨reachP.trans reachQ, .both _ _ k withinP withinQ hk⟩
  | loop body c k hw hb hc hk ihB ihC ih =>
    obtain ⟨reach, within⟩ := ihC ex
    simp only [poll]
    generalize poll me ex c = r at reach within ⊢
    obtain ⟨ex₁, c'⟩ := r
    cases c' with
    | pure r =>
      cases r with
      | inr x =>
        obtain ⟨reach₁, within₁⟩ := ih x ex₁
        exact ⟨reach.trans reach₁, within₁⟩
      | inl b =>
        -- A round over: the task wakes itself for the next one.
        exact ⟨reach.tail (hw ex₁), .loop body _ k hw hb (hb b) hk⟩
    | panic m =>
      have hpanics := within.eq_true_of_panic ex₁ rfl
      subst hpanics
      exact ⟨reach, .panic m⟩
    | _ => exact ⟨reach, .loop body _ k hw hb within hk⟩
  | call q k hq _ ih =>
    obtain ⟨x, hx, hstep⟩ := hq ex
    have hpoll : poll me ex q = ((poll me ex q).1, .pure x) := by rw [← hx]
    rw [poll_bind_of_pure hpoll]
    obtain ⟨reach, within⟩ := ih x (poll me ex q).1
    exact ⟨.head hstep reach, within⟩

end Within

end Program

end Scheduling

end ChatGateway
