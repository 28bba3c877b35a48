import Mathlib
import ChatGateway.Bus.Stats

/-! # The arithmetic of handler statistics

A handler's statistics are three 64-bit counters that every call advances: the calls by one, the
failures by one when the call failed, and the latency total by the call's whole microseconds taken
modulo `2^64`. This file follows the counters through any sequence of calls on a fresh handler.

* `HandlerStats.Call`, `HandlerStats.replay`: the calls, and the statistics they leave.
* `HandlerStats.toNat_foldl_counter`: a counter that each call advances by a step ends at the sum
  of the steps modulo `2^64`; the three counters are instances (`calls_replay`, `failures_replay`,
  `totalMicros_replay`).
* `HandlerStats.totalMicros_lt_calls_mul_succ`, `HandlerStats.calls_mul_averageMicros_le`: the
  average is the total over the calls rounded down, read as two bounds.
* `HandlerStats.replay_counts_and_average`: the counters after any calls, and the average between
  the shortest and the longest latency while the microseconds add up to less than `2^64`; the
  upper bound needs fewer than `2^64` calls as well.
* `HandlerStats.average_bound_fails_past_count_wrap`: once the call count wraps, the average can
  exceed every latency although the microseconds add up to ten.
-/

namespace ChatGateway

namespace HandlerStats

/-! ## (1) Calls and the statistics they leave -/

/-- A call a handler's statistics count: one that succeeded or one that failed, after its
latency. -/
inductive Call where
  | success (latency : Duration)
  | failure (latency : Duration)
  deriving Repr, DecidableEq

/-- The latency of a call. -/
def Call.latency : Call → Duration
  | .success latency | .failure latency => latency

/-- Whether a call failed. -/
def Call.failed : Call → Bool
  | .success _ => false
  | .failure _ => true

/-- Counts one call. -/
def record (s : HandlerStats) : Call → HandlerStats
  | .success latency => s.recordSuccess latency
  | .failure latency => s.recordFailure latency

/-- **The statistics a sequence of calls leaves** on a fresh handler. -/
def replay (cs : List Call) : HandlerStats := cs.foldl record {}

section Record

variable (s : HandlerStats) (c : Call)

@[simp] theorem calls_record : (s.record c).calls = s.calls + 1 := by
  cases c <;> rfl

@[simp] theorem failures_record :
    (s.record c).failures = s.failures + if c.failed then 1 else 0 := by
  cases c
  · simp [record, recordSuccess, Call.failed]
  · rfl

@[simp] theorem totalMicros_record :
    (s.record c).totalMicros = s.totalMicros + c.latency.micros.toUInt64 := by
  cases c <;> rfl

end Record

/-- The average read as a number: zero with no call, else the total over the calls, rounded
down. -/
theorem averageMicros_toNat (s : HandlerStats) :
    s.averageMicros.toNat =
      if s.calls.toNat = 0 then 0 else s.totalMicros.toNat / s.calls.toNat := by
  unfold averageMicros
  by_cases h : s.calls = 0
  · rw [if_pos h, if_pos (by rw [h]; rfl)]
    rfl
  · have h0 : s.calls.toNat ≠ 0 := fun h0 => h ((@UInt64.toNat_inj s.calls 0).1 h0)
    rw [if_neg h, if_neg h0, UInt64.toNat_div]

/-! ## (2) Wrapping counters -/

/-- **A wrapping counter after a run.** A counter that each call advances by `step c`, modulo
`2^64`, ends at its start plus the sum of the steps, modulo `2^64`. -/
theorem toNat_foldl_counter (counter : HandlerStats → UInt64) (step : Call → UInt64)
    (h : ∀ s c, counter (s.record c) = counter s + step c) :
    ∀ (cs : List Call) (s : HandlerStats),
      (counter (cs.foldl record s)).toNat =
        ((counter s).toNat + (cs.map fun c => (step c).toNat).sum) % 2 ^ 64
  | [], s => by simp [Nat.mod_eq_of_lt (counter s).toNat_lt]
  | c :: cs, s => by
    rw [List.foldl_cons, toNat_foldl_counter counter step h cs, h, UInt64.toNat_add,
      List.map_cons, List.sum_cons, Nat.mod_add_mod, Nat.add_assoc]

/-- The call count is the number of calls modulo `2^64`. -/
theorem calls_replay (cs : List Call) : (replay cs).calls.toNat = cs.length % 2 ^ 64 := by
  rw [replay, toNat_foldl_counter calls (fun _ => 1) calls_record]
  simp

/-- The failure steps add up to the number of failed calls. -/
theorem sum_failure_steps (cs : List Call) :
    (cs.map fun c => (if c.failed then (1 : UInt64) else 0).toNat).sum = cs.countP Call.failed := by
  induction cs with
  | nil => rfl
  | cons c cs ih =>
    rw [List.map_cons, List.sum_cons, ih, List.countP_cons, Nat.add_comm]
    cases c.failed <;> rfl

/-- The failure count is the number of failed calls modulo `2^64`. -/
theorem failures_replay (cs : List Call) :
    (replay cs).failures.toNat = cs.countP Call.failed % 2 ^ 64 := by
  rw [replay, toNat_foldl_counter failures _ failures_record, sum_failure_steps]
  simp

/-- The latency total holds the sum of the latencies' microseconds, each taken modulo `2^64`,
modulo `2^64`. -/
theorem totalMicros_replay (cs : List Call) :
    (replay cs).totalMicros.toNat = (cs.map fun c => c.latency.micros % 2 ^ 64).sum % 2 ^ 64 := by
  rw [replay, toNat_foldl_counter totalMicros _ totalMicros_record]
  simp

/-! ## (3) The average between the latencies -/

/-- The average times the calls does not exceed the total. -/
theorem calls_mul_averageMicros_le (s : HandlerStats) :
    s.calls.toNat * s.averageMicros.toNat ≤ s.totalMicros.toNat := by
  rw [averageMicros_toNat]
  split
  · simp
  · exact Nat.mul_div_le _ _

/-- Once a call is counted, the calls times one more than the average exceed the total. -/
theorem totalMicros_lt_calls_mul_succ (s : HandlerStats) (h : s.calls.toNat ≠ 0) :
    s.totalMicros.toNat < s.calls.toNat * (s.averageMicros.toNat + 1) := by
  rw [averageMicros_toNat, if_neg h]
  exact Nat.lt_mul_div_succ _ (Nat.pos_of_ne_zero h)

/-- While the microseconds add up to less than `2^64`, none of them wraps and the latency total
is their sum. -/
theorem totalMicros_replay_of_sum_lt {cs : List Call}
    (h : (cs.map (·.latency.micros)).sum < 2 ^ 64) :
    (replay cs).totalMicros.toNat = (cs.map (·.latency.micros)).sum := by
  have hkeep : (cs.map fun c => c.latency.micros % 2 ^ 64) = cs.map (·.latency.micros) :=
    List.map_congr_left fun c hc =>
      Nat.mod_eq_of_lt ((List.le_sum_of_mem (List.mem_map_of_mem hc)).trans_lt h)
  rw [totalMicros_replay, hkeep, Nat.mod_eq_of_lt h]

/-- **Some call took no longer than the average,** while the microseconds add up to less than
`2^64`, however many calls were made. -/
theorem exists_latency_le_average {cs : List Call} (hne : cs ≠ [])
    (h : (cs.map (·.latency.micros)).sum < 2 ^ 64) :
    ∃ c ∈ cs, c.latency.micros ≤ (replay cs).averageMicros.toNat := by
  -- Were every latency above the average, they would add up to at least the number of calls
  -- times one more than the average.
  suffices hlt : (cs.map (·.latency.micros)).sum <
      (cs.map fun _ => (replay cs).averageMicros.toNat + 1).sum by
    obtain ⟨c, hc, hlt⟩ := List.exists_lt_of_sum_lt _ _ hlt
    exact ⟨c, hc, Nat.lt_succ_iff.1 hlt⟩
  rw [List.map_const', List.sum_replicate, smul_eq_mul]
  have hcalls := calls_replay cs
  by_cases hz : (replay cs).calls.toNat = 0
  · -- The count wrapped to zero: there were at least `2^64` calls, more than the microseconds.
    have hwrap : 2 ^ 64 ≤ cs.length := by
      have := List.length_pos_iff.2 hne
      omega
    rw [averageMicros_toNat, if_pos hz]
    omega
  · -- Otherwise the count is the number of calls modulo `2^64`, at most their number.
    calc (cs.map (·.latency.micros)).sum
        = (replay cs).totalMicros.toNat := (totalMicros_replay_of_sum_lt h).symm
      _ < (replay cs).calls.toNat * ((replay cs).averageMicros.toNat + 1) :=
          totalMicros_lt_calls_mul_succ _ hz
      _ ≤ cs.length * ((replay cs).averageMicros.toNat + 1) :=
          Nat.mul_le_mul_right _ (hcalls ▸ Nat.mod_le _ _)

/-- **Some call took at least as long as the average,** when fewer than `2^64` calls were made
and their microseconds add up to less than `2^64`. -/
theorem exists_average_le_latency {cs : List Call} (hne : cs ≠ []) (hn : cs.length < 2 ^ 64)
    (h : (cs.map (·.latency.micros)).sum < 2 ^ 64) :
    ∃ c ∈ cs, (replay cs).averageMicros.toNat ≤ c.latency.micros := by
  apply List.exists_le_of_sum_le hne
  have hcalls : (replay cs).calls.toNat = cs.length := by rw [calls_replay, Nat.mod_eq_of_lt hn]
  rw [List.map_const', List.sum_replicate, smul_eq_mul, ← hcalls, ← totalMicros_replay_of_sum_lt h]
  exact calls_mul_averageMicros_le _

/-- **Handler statistics after any calls.** On a fresh handler the calls, the failures and the
latency total are the true ones modulo `2^64`, each latency entering as its whole microseconds
modulo `2^64`, and the average is the total over the calls rounded down, zero with no call. While
the microseconds add up to less than `2^64`, some call took no longer than the average, and when
fewer than `2^64` calls were made, some call took at least as long. -/
theorem replay_counts_and_average (cs : List Call) :
    (replay cs).calls.toNat = cs.length % 2 ^ 64 ∧
    (replay cs).failures.toNat = cs.countP Call.failed % 2 ^ 64 ∧
    (replay cs).totalMicros.toNat = (cs.map fun c => c.latency.micros % 2 ^ 64).sum % 2 ^ 64 ∧
    (replay cs).averageMicros.toNat =
      (if (replay cs).calls.toNat = 0 then 0
       else (replay cs).totalMicros.toNat / (replay cs).calls.toNat) ∧
    (cs ≠ [] → (cs.map (·.latency.micros)).sum < 2 ^ 64 →
      (∃ c ∈ cs, c.latency.micros ≤ (replay cs).averageMicros.toNat) ∧
      (cs.length < 2 ^ 64 → ∃ c ∈ cs, (replay cs).averageMicros.toNat ≤ c.latency.micros)) :=
  ⟨calls_replay cs, failures_replay cs, totalMicros_replay cs, averageMicros_toNat _,
    fun hne h => ⟨exists_latency_le_average hne h, fun hn => exists_average_le_latency hne hn h⟩⟩

/-- Calls of 10, 20 and 30 ms, the last one failed, average 20 ms. -/
example : replay [.success ⟨0, 10000000⟩, .success ⟨0, 20000000⟩, .failure ⟨0, 30000000⟩] =
      { calls := 3, failures := 1, totalMicros := 60000 } ∧
    (replay [.success ⟨0, 10000000⟩, .success ⟨0, 20000000⟩,
      .failure ⟨0, 30000000⟩]).averageMicros = 20000 := by
  decide

/-- **Past the wrap of the call count the average leaves the latencies.** Two calls of 5 µs and
`2^64 - 1` calls of no time add up to 10 µs, but the count wraps to one, so the average is 10 µs,
longer than every call. -/
theorem average_bound_fails_past_count_wrap :
    ¬ ∀ cs : List Call, cs ≠ [] → (cs.map (·.latency.micros)).sum < 2 ^ 64 →
      (∃ c ∈ cs, c.latency.micros ≤ (replay cs).averageMicros.toNat) ∧
      (∃ c ∈ cs, (replay cs).averageMicros.toNat ≤ c.latency.micros) := by
  intro hbounds
  -- The number of calls of no time stays a name, so that nothing unfolds the long list.
  obtain ⟨N, hN⟩ : ∃ N, N = 2 ^ 64 - 1 := ⟨_, rfl⟩
  generalize hcs : [Call.success ⟨0, 5000⟩, .success ⟨0, 5000⟩] ++
    List.replicate N (Call.success ⟨0, 0⟩) = cs
  have hsum : (cs.map (·.latency.micros)).sum = 10 := by
    simp [← hcs, Call.latency, Duration.micros]
  have hcalls : (replay cs).calls.toNat = 1 := by
    simp only [calls_replay, ← hcs, List.length_append, List.length_cons, List.length_nil,
      List.length_replicate]
    omega
  have havg : (replay cs).averageMicros.toNat = 10 := by
    rw [averageMicros_toNat, if_neg (by omega), hcalls, totalMicros_replay_of_sum_lt (by omega),
      hsum, Nat.div_one]
  have hshort : ∀ c ∈ cs, c.latency.micros ≤ 5 := by
    intro c hc
    simp only [← hcs, List.cons_append, List.nil_append, List.mem_cons, List.mem_replicate] at hc
    rcases hc with rfl | rfl | ⟨-, rfl⟩ <;> decide
  obtain ⟨c, hc, hle⟩ := (hbounds cs (by simp [← hcs]) (by omega)).2
  have := hshort c hc
  omega

end HandlerStats

end ChatGateway
