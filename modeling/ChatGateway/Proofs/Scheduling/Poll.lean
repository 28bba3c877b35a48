import ChatGateway.Scheduling.Executor

/-! # Polling a sequenced program

A poll of `p.bind f` is a poll of `p` until `p` blocks or ends, and then, if `p` ended with a
value, a poll of what `f` makes of it within the same poll (`Executor.poll_bind`). The monad laws
of `Program` are here too, so that programs written with `do` can be taken apart: a `do` block
unfolds to nested `Program.bind`s (`Program.bind_def`), and `Program.bind_assoc` regroups them.
-/

namespace ChatGateway

namespace Scheduling

namespace Program

variable {ι σ : Type}

/-- `>>=` on programs is `Program.bind`. -/
@[simp] theorem bind_def {α β : Type} (p : Program ι σ α) (f : α → Program ι σ β) :
    p >>= f = p.bind f := rfl

/-- `pure` on programs is `Program.pure`. -/
@[simp] theorem pure_def {α : Type} (a : α) : (Pure.pure a : Program ι σ α) = .pure a := rfl

/-- **Sequencing is associative.** -/
theorem bind_assoc {α β γ : Type} (p : Program ι σ α) (f : α → Program ι σ β)
    (g : β → Program ι σ γ) : (p.bind f).bind g = p.bind fun a => (f a).bind g := by
  induction p with
  | pure a => rfl
  | panic m => rfl
  | step h k ih => simp only [bind, ih]
  | clock k ih => simp only [bind, ih]
  | sleepUntil d t k ih => simp only [bind, ih]
  | pending => rfl
  | spawn j k ih => simp only [bind, ih]
  | join t k ih => simp only [bind, ih]
  | started t k ih => simp only [bind, ih]
  | finished t k ih => simp only [bind, ih]
  | abort t k ih => simp only [bind, ih]
  | lock m t k ih => simp only [bind, ih]
  | unlock m k ih => simp only [bind, ih]
  | yieldNow y k ih => simp only [bind, ih]
  | guard inner k _ ih => simp only [bind, ih]
  | timeout d t inner k _ ih => simp only [bind, ih]
  | both p q k _ _ ih => simp only [bind, ih]
  | loop body c k _ _ ih => simp only [bind, ih]

end Program

namespace Executor

variable {ι σ : Type}

/-- **A poll of a sequenced program.** `p` is polled first; a value it ends with is handed to
`f` within the same poll, a panic skips `f`, and a blocked `p` leaves `f` waiting behind it. -/
theorem poll_bind {α β : Type} (me : Nat) (ex : Executor ι σ) (p : Program ι σ α)
    (f : α → Program ι σ β) :
    poll me ex (p.bind f) =
      match poll me ex p with
      | (ex', .pure a) => poll me ex' (f a)
      | (ex', .panic m) => (ex', .panic m)
      | (ex', q) => (ex', q.bind f) := by
  -- The induction follows `poll`'s own recursion; each continuation is a smaller program.
  induction p generalizing ex with
  | pure a => rfl
  | panic m => rfl
  | step h k ih => simp only [Program.bind, poll]; exact ih _ _ _
  | clock k ih => simp only [Program.bind, poll]; exact ih _ _ _
  | sleepUntil d t k ih =>
    simp only [Program.bind, poll]
    split
    · exact ih _ _ _
    · split <;> rfl
  | pending => rfl
  | spawn j k ih => simp only [Program.bind, poll]; exact ih _ _ _
  | join t k ih =>
    simp only [Program.bind, poll]
    split
    · exact ih _ _ _
    · rfl
  | started t k ih =>
    simp only [Program.bind, poll]
    split
    · exact ih _ _ _
    · rfl
  | finished t k ih => simp only [Program.bind, poll]; exact ih _ _ _
  | abort t k ih => simp only [Program.bind, poll]; exact ih _ _ _
  | lock m t k ih =>
    cases t with
    | none =>
      simp only [Program.bind, poll]
      split
      · exact ih _ _ _
      · rfl
    | some ticket =>
      simp only [Program.bind, poll]
      split
      · exact ih _ _ _
      · rfl
  | unlock m k ih => simp only [Program.bind, poll]; exact ih _ _ _
  | yieldNow y k ih =>
    cases y with
    | true => simp only [Program.bind, poll]; exact ih _ _ _
    | false => rfl
  | guard inner k _ ih =>
    simp only [Program.bind, poll]
    split <;> simp only [ih] <;> rfl
  | timeout d t inner k _ ih =>
    simp only [Program.bind, poll]
    split
    · exact ih _ _ _
    · rfl
    · split
      · exact ih _ _ _
      · split <;> rfl
  | both p q k _ _ ih =>
    simp only [Program.bind, poll]
    split
    · rfl
    · split
      · rfl
      · exact ih _ _ _
      · rfl
  | loop body c k _ _ ih =>
    simp only [Program.bind, poll]
    split
    · exact ih _ _ _
    all_goals rfl

/-- A poll of a sequenced program whose first part ends with a value within the poll. -/
theorem poll_bind_of_pure {α β : Type} {me : Nat} {ex ex' : Executor ι σ} {p : Program ι σ α}
    {a : α} (h : poll me ex p = (ex', .pure a)) (f : α → Program ι σ β) :
    poll me ex (p.bind f) = poll me ex' (f a) := by
  rw [poll_bind, h]

/-- A poll of a sequenced program whose first part blocks leaves the rest waiting behind it. -/
theorem poll_bind_blocked {α β : Type} {me : Nat} {ex : Executor ι σ} {p : Program ι σ α}
    (h : (poll me ex p).2.isDone = false) (f : α → Program ι σ β) :
    poll me ex (p.bind f) = ((poll me ex p).1, (poll me ex p).2.bind f) := by
  rw [poll_bind]
  generalize poll me ex p = r at h ⊢
  obtain ⟨ex', q⟩ := r
  cases q with
  | pure a => cases h
  | panic m => cases h
  | _ => rfl

/-! ### A poll of a loop

A poll of a loop polls its current round. A round that ends with the state of the next one ends the
poll there: the loop's task is woken, so that it is queued again and the next round runs at its
next turn. -/

section Loop

variable {α β γ : Type} {me : Nat} {ex ex' : Executor ι σ} {body : β → Program ι σ (β ⊕ γ)}
  {current : Program ι σ (β ⊕ γ)} {k : γ → Program ι σ α}

/-- **A round that goes round again ends the poll,** with the next round set up and the loop's
task woken. -/
theorem poll_loop_again {b : β} (h : poll me ex current = (ex', .pure (.inl b))) :
    poll me ex (.loop body current k) = (ex'.wake me, .loop body (body b) k) := by
  simp only [poll, h]

/-- A round that leaves the loop goes on with what follows it, within the same poll. -/
theorem poll_loop_exit {c : γ} (h : poll me ex current = (ex', .pure (.inr c))) :
    poll me ex (.loop body current k) = poll me ex' (k c) := by
  simp only [poll, h]

/-- A round that panics ends the loop with the panic. -/
theorem poll_loop_panic {m : String} (h : poll me ex current = (ex', .panic m)) :
    poll me ex (.loop body current k) = (ex', .panic m) := by
  simp only [poll, h]

/-- **A round that blocks stays inside the loop.** -/
theorem poll_loop_blocked (h : (poll me ex current).2.isDone = false) :
    poll me ex (.loop body current k) =
      ((poll me ex current).1, .loop body (poll me ex current).2 k) := by
  simp only [poll]
  generalize poll me ex current = r at h ⊢
  obtain ⟨ex₁, q⟩ := r
  cases q with
  | pure v => cases h
  | panic m => cases h
  | _ => rfl

end Loop

end Executor

end Scheduling

end ChatGateway
