import Mathlib.Data.List.Forall2
import ChatGateway.Proofs.Scheduling.Within

/-! # What polls leave of a task's program

A task's program changes only when the task is polled, and between two of its polls the other
tasks may change the executor in any way. `Program.Runs me p q` says that polls of task `me`, each
from some executor, take `p` to `q`: it describes what a program may become in every run,
whatever the interleaving and whatever the clock.

* `Program.Runs.bind_cases`: a run of `p.bind f` is a run of `p`, followed, once `p` has ended
  with a value, by a run of what `f` makes of that value.
* `Program.Runs.guard_cases`: a run of a panic boundary is a run of the guarded program, and then
  of the continuation on its value or on its panic.
* `Program.AllOf`: what is left of programs run side by side by `Program.all`. One poll of it
  polls each of them in turn (`Program.AllOf.poll_cases`), so each has been polled before any
  value is used.
* `Program.all_runs`: whatever order they end in, `Program.all ps` ends with the list of the
  values its programs ended with, in the order of `ps`.
-/

namespace ChatGateway

namespace Scheduling

open Executor

namespace Program

variable {ι σ : Type}

/-! ## (1) Runs of a task's program -/

/-- **One poll of task `me`,** from some executor, takes `p` to `q`. -/
def Polled (me : Nat) {α : Type} (p q : Program ι σ α) : Prop :=
  ∃ ex : Executor ι σ, (poll me ex p).2 = q

/-- **What polls of task `me` make of a program,** whatever the executor at each poll. -/
abbrev Runs (me : Nat) {α : Type} : Program ι σ α → Program ι σ α → Prop :=
  Relation.ReflTransGen (Polled me)

variable {me : Nat}

/-- A finished program stays as it is. -/
theorem Runs.of_pure {α : Type} {a : α} {q : Program ι σ α} (h : Runs me (.pure a) q) :
    q = .pure a := by
  induction h with
  | refl => rfl
  | tail _ hstep ih =>
    obtain ⟨ex, rfl⟩ := hstep
    rw [ih]
    rfl

/-- A sequenced program is finished only when its first part finished and the rest did. -/
theorem bind_eq_pure {α β : Type} {p : Program ι σ α} {f : α → Program ι σ β} {b : β}
    (h : p.bind f = .pure b) : ∃ a, p = .pure a ∧ f a = .pure b := by
  cases p with
  | pure a => exact ⟨a, rfl, h⟩
  | _ => cases h

/-- **A poll of a sequenced program,** split by what the poll left of its first part: a value,
handed to `f` within the same poll, or anything else, with `f` waiting behind it. -/
theorem poll_bind_cases {α β : Type} (ex : Executor ι σ) (p : Program ι σ α)
    (f : α → Program ι σ β) :
    (∃ a, (poll me ex p).2 = .pure a ∧ poll me ex (p.bind f) = poll me (poll me ex p).1 (f a)) ∨
      poll me ex (p.bind f) = ((poll me ex p).1, (poll me ex p).2.bind f) := by
  rw [poll_bind]
  rcases poll me ex p with ⟨ex', q⟩
  cases q with
  | pure a => exact .inl ⟨a, rfl, rfl⟩
  | _ => exact .inr rfl

/-- **A run of a sequenced program:** `p` has not ended yet and `f` waits behind what is left of
it, or `p` ended with a value and `f` of that value has run since. -/
theorem Runs.bind_cases {α β : Type} {p : Program ι σ α} {f : α → Program ι σ β}
    {q : Program ι σ β} (h : Runs me (p.bind f) q) :
    (∃ p', Runs me p p' ∧ q = p'.bind f) ∨ ∃ a, Runs me p (.pure a) ∧ Runs me (f a) q := by
  induction h with
  | refl => exact .inl ⟨p, .refl, rfl⟩
  | tail _ hstep ih =>
    obtain ⟨ex, rfl⟩ := hstep
    rcases ih with ⟨p', hp', rfl⟩ | ⟨a, ha, hfa⟩
    · rcases poll_bind_cases ex p' f with ⟨a, hpa, heq⟩ | heq
      · -- `p` ends within this poll, and `f` runs on in the same poll.
        exact .inr ⟨a, hp'.tail ⟨ex, hpa⟩, by rw [heq]; exact .single ⟨_, rfl⟩⟩
      · exact .inl ⟨_, hp'.tail ⟨ex, rfl⟩, by rw [heq]⟩
    · exact .inr ⟨a, ha, hfa.tail ⟨ex, rfl⟩⟩

/-- **A sequenced program ends** with what `f` makes of the value `p` ended with. -/
theorem Runs.bind_pure {α β : Type} {p : Program ι σ α} {f : α → Program ι σ β} {b : β}
    (h : Runs me (p.bind f) (.pure b)) : ∃ a, Runs me p (.pure a) ∧ Runs me (f a) (.pure b) := by
  rcases h.bind_cases with ⟨p', hp', heq⟩ | hdone
  · obtain ⟨a, rfl, hfa⟩ := bind_eq_pure heq.symm
    exact ⟨a, hp', by rw [hfa]⟩
  · exact hdone

/-- **A poll of a panic boundary,** split by what the poll left of the guarded program: a value or
a panic, handed to the continuation within the same poll, or a blocked program still guarded. -/
theorem poll_guard_cases {α β : Type} (ex : Executor ι σ) (inner : Program ι σ β)
    (k : Except String β → Program ι σ α) :
    (∃ b, (poll me ex inner).2 = .pure b ∧
        poll me ex (.guard inner k) = poll me (poll me ex inner).1 (k (.ok b))) ∨
      (∃ m, (poll me ex inner).2 = .panic m ∧
        poll me ex (.guard inner k) = poll me (poll me ex inner).1 (k (.error m))) ∨
      poll me ex (.guard inner k) = ((poll me ex inner).1, .guard (poll me ex inner).2 k) := by
  rw [poll]
  rcases poll me ex inner with ⟨ex', q⟩
  cases q with
  | pure b => exact .inl ⟨b, rfl, rfl⟩
  | panic m => exact .inr (.inl ⟨m, rfl, rfl⟩)
  | _ => exact .inr (.inr rfl)

/-- **A run of a panic boundary:** the guarded program has not ended, or it ended with a value or
a panic and the continuation has run since on that outcome. -/
theorem Runs.guard_cases {α β : Type} {inner : Program ι σ β} {k : Except String β → Program ι σ α}
    {q : Program ι σ α} (h : Runs me (.guard inner k) q) :
    (∃ inner', Runs me inner inner' ∧ q = .guard inner' k) ∨
      (∃ b, Runs me inner (.pure b) ∧ Runs me (k (.ok b)) q) ∨
      ∃ m, Runs me inner (.panic m) ∧ Runs me (k (.error m)) q := by
  induction h with
  | refl => exact .inl ⟨inner, .refl, rfl⟩
  | tail _ hstep ih =>
    obtain ⟨ex, rfl⟩ := hstep
    rcases ih with ⟨inner', hi, rfl⟩ | ⟨b, hb, hk⟩ | ⟨m, hm, hk⟩
    · rcases poll_guard_cases ex inner' k with ⟨b, hb, heq⟩ | ⟨m, hm, heq⟩ | heq
      · exact .inr (.inl ⟨b, hi.tail ⟨ex, hb⟩, by rw [heq]; exact .single ⟨_, rfl⟩⟩)
      · exact .inr (.inr ⟨m, hi.tail ⟨ex, hm⟩, by rw [heq]; exact .single ⟨_, rfl⟩⟩)
      · exact .inl ⟨_, hi.tail ⟨ex, rfl⟩, by rw [heq]⟩
    · exact .inr (.inl ⟨b, hb, hk.tail ⟨ex, rfl⟩⟩)
    · exact .inr (.inr ⟨m, hm, hk.tail ⟨ex, rfl⟩⟩)

/-- **What runs leave of a program within a frame is within it.** -/
theorem Within.runs {A : Executor ι σ → Executor ι σ → Prop} {panics : Bool} {α : Type}
    {p q : Program ι σ α} (hp : Within A me panics p) (h : Runs me p q) : Within A me panics q := by
  induction h with
  | refl => exact hp
  | tail _ hstep ih =>
    obtain ⟨ex, rfl⟩ := hstep
    exact (ih.poll_spec ex).2

/-! ## (2) Programs side by side -/

/-- **What is left of programs run side by side by `Program.all`,** each of them having become
the program at its place in the list: the empty list, one program with the list of its value
behind it, a program beside what is left of the others, or nothing but values. -/
inductive AllOf {β : Type} : List (Program ι σ β) → Program ι σ (List β) → Prop
  | nil : AllOf [] (.pure [])
  | single (p : Program ι σ β) : AllOf [p] (p.bind fun b => .pure [b])
  | cons (p : Program ι σ β) {ps : List (Program ι σ β)} {r : Program ι σ (List β)}
      (k : β × List β → Program ι σ (List β)) :
      ps ≠ [] → AllOf ps r → (∀ b bs, k (b, bs) = .pure (b :: bs)) → AllOf (p :: ps) (.both p r k)
  | done (bs : List β) : AllOf (bs.map .pure) (.pure bs)

/-- `Program.all` starts as its programs side by side. -/
theorem allOf_all {β : Type} (ps : List (Program ι σ β)) : AllOf ps (all ps) := by
  induction ps with
  | nil => exact .nil
  | cons p ps ih =>
    cases ps with
    | nil => exact .single p
    | cons q qs => exact .cons p _ (List.cons_ne_nil q qs) ih fun _ _ => rfl

/-- **Programs polled in turn** by task `me`: from `ex`, each program of `ps` is polled from the
executor the ones before it left and becomes the program at its place in `qs`; the last poll left
`ex'`. -/
inductive PolledEach (me : Nat) {β : Type} :
    Executor ι σ → List (Program ι σ β) → Executor ι σ → List (Program ι σ β) → Prop
  | nil (ex : Executor ι σ) : PolledEach me ex [] ex []
  | cons {ex ex' : Executor ι σ} {p : Program ι σ β} {ps qs : List (Program ι σ β)} :
      PolledEach me (poll me ex p).1 ps ex' qs →
        PolledEach me ex (p :: ps) ex' ((poll me ex p).2 :: qs)

/-- Each program polled in turn has had one poll. -/
theorem PolledEach.forall₂ {β : Type} {ex ex' : Executor ι σ} {ps qs : List (Program ι σ β)}
    (h : PolledEach me ex ps ex' qs) : List.Forall₂ (Polled me) ps qs := by
  induction h with
  | nil => exact .nil
  | cons _ ih => exact .cons ⟨_, rfl⟩ ih

/-- Polling values changes nothing. -/
theorem polledEach_pure {β : Type} (ex : Executor ι σ) (bs : List β) :
    PolledEach me ex (bs.map .pure) ex (bs.map .pure) := by
  induction bs with
  | nil => exact .nil ex
  | cons b bs ih => exact .cons ih

/-- Only values side by side are finished. -/
theorem AllOf.eq_map_pure {β : Type} {ps : List (Program ι σ β)} {bs : List β}
    (h : AllOf ps (.pure bs)) : ps = bs.map .pure := by
  generalize hr : (Program.pure bs : Program ι σ (List β)) = r at h
  cases h with
  | nil => cases hr; rfl
  | single p =>
    obtain ⟨a, rfl, ha⟩ := bind_eq_pure hr.symm
    cases ha
    rfl
  | cons => cases hr
  | done => cases hr; rfl

/-- **One poll of programs side by side** polls each of them in turn, every one from the executor
the ones before it left, and leaves them side by side again; unless one of them panicked. -/
theorem AllOf.poll_cases {β : Type} {ps : List (Program ι σ β)} {r : Program ι σ (List β)}
    (h : AllOf ps r) (ex : Executor ι σ) :
    (∃ m, (poll me ex r).2 = .panic m) ∨
      ∃ qs, PolledEach me ex ps (poll me ex r).1 qs ∧ AllOf qs (poll me ex r).2 := by
  induction h generalizing ex with
  | nil => exact .inr ⟨[], .nil ex, .nil⟩
  | single p =>
    rcases poll_bind_cases ex p (fun b => .pure [b]) with ⟨a, hpa, heq⟩ | heq
    · refine .inr ⟨[.pure a], ?_, ?_⟩
      · rw [heq, ← hpa]
        exact .cons (.nil _)
      · rw [heq]
        exact .done [a]
    · rw [heq]
      exact .inr ⟨_, .cons (.nil _), .single _⟩
  | cons p k hne hrest hk ih =>
    rename_i ps r
    -- The first program is polled, then, unless it panicked, the rest from where it left off.
    rw [poll]
    rcases hp : poll me ex p with ⟨ex₁, p'⟩
    dsimp only
    split
    · exact .inl ⟨_, rfl⟩
    · rename_i hnp
      rcases ih ex₁ with ⟨m, hm⟩ | ⟨qs, hqs, hall⟩
      · rcases hr : poll me ex₁ r with ⟨ex₂, r'⟩
        rw [hr] at hm
        cases hm
        exact .inl ⟨_, rfl⟩
      · have hpolled : PolledEach me ex (p :: ps) (poll me ex₁ r).1 (p' :: qs) := by
          have h₁ : (poll me ex p).1 = ex₁ := by rw [hp]
          have h₂ : (poll me ex p).2 = p' := by rw [hp]
          rw [← h₂]
          exact .cons (by rw [h₁]; exact hqs)
        rcases hr : poll me ex₁ r with ⟨ex₂, r'⟩
        rw [hr] at hpolled hall
        dsimp only
        split
        · exact .inl ⟨_, rfl⟩
        · -- Both have ended: the continuation conses their values within the same poll.
          rename_i b c
          rw [hk]
          have hc := hall.eq_map_pure
          subst hc
          exact .inr ⟨_, hpolled, .done (b :: c)⟩
        · have hqs_ne : qs ≠ [] := by
            rintro rfl
            cases hpolled with
            | cons h' => exact hne (List.eq_nil_of_length_eq_zero (by cases h'; rfl))
          exact .inr ⟨_, hpolled, .cons _ k hqs_ne hall hk⟩
  | done bs => exact .inr ⟨_, polledEach_pure ex bs, .done bs⟩

/-- Runs of programs, each followed by one more poll, are runs. -/
theorem forall₂_runs_tail {β : Type} {ps qs qs' : List (Program ι σ β)}
    (h : List.Forall₂ (Runs me) ps qs) (h' : List.Forall₂ (Polled me) qs qs') :
    List.Forall₂ (Runs me) ps qs' := by
  induction h generalizing qs' with
  | nil => cases h'; exact .nil
  | cons hrun _ ih =>
    cases h' with
    | cons hpoll hrest => exact .cons (hrun.tail hpoll) (ih hrest)

/-- **The programs side by side along a run:** each has run on its own, or one of them panicked. -/
theorem AllOf.runs {β : Type} {ps : List (Program ι σ β)} {r r' : Program ι σ (List β)}
    (h : AllOf ps r) (hr : Runs me r r') :
    (∃ m, r' = .panic m) ∨ ∃ qs, AllOf qs r' ∧ List.Forall₂ (Runs me) ps qs := by
  induction hr with
  | refl => exact .inr ⟨ps, h, List.forall₂_same.2 fun _ _ => .refl⟩
  | tail _ hstep ih =>
    obtain ⟨ex, rfl⟩ := hstep
    rcases ih with ⟨m, rfl⟩ | ⟨qs, hall, hruns⟩
    · exact .inl ⟨m, rfl⟩
    · rcases hall.poll_cases ex with hm | ⟨qs', hpolled, hall'⟩
      · exact .inl hm
      · -- Each program's run goes on by its own poll.
        exact .inr ⟨qs', hall', forall₂_runs_tail hruns hpolled.forall₂⟩

/-- **Programs run side by side end with their values in order:** whatever order they ended in,
`Program.all ps` ends with a list holding, at each place, a value its program ended with. -/
theorem all_runs {β : Type} {ps : List (Program ι σ β)} {bs : List β}
    (h : Runs me (all ps) (.pure bs)) : List.Forall₂ (fun p b => Runs me p (.pure b)) ps bs := by
  rcases (allOf_all ps).runs h with ⟨m, hm⟩ | ⟨qs, hall, hruns⟩
  · cases hm
  · rw [hall.eq_map_pure, List.forall₂_map_right_iff] at hruns
    exact hruns

end Program

end Scheduling

end ChatGateway
