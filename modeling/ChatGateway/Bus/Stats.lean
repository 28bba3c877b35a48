/-! # Handler statistics

Every bus handler keeps three 64-bit counters: calls, failures, and the total latency in whole
microseconds. All three wrap around at `2^64`, and a latency is added as its microsecond count
taken modulo `2^64`. The average latency is zero before the first call and otherwise the total
divided by the number of calls, rounded down.
-/

namespace ChatGateway

/-- **A span of time:** whole seconds and the nanoseconds beyond them. -/
structure Duration where
  secs : Nat
  nanos : Nat
  deriving Repr, DecidableEq

/-- The whole microseconds of a duration. -/
def Duration.micros (d : Duration) : Nat := d.secs * 1000000 + d.nanos / 1000

/-- A duration of `ms` milliseconds. -/
def Duration.ofMillis (ms : Nat) : Duration := ⟨ms / 1000, ms % 1000 * 1000000⟩

/-- **The counters of one bus handler.** -/
structure HandlerStats where
  calls : UInt64 := 0
  failures : UInt64 := 0
  totalMicros : UInt64 := 0
  deriving Repr, DecidableEq

namespace HandlerStats

/-- Counts a call that succeeded after `latency`. -/
def recordSuccess (s : HandlerStats) (latency : Duration) : HandlerStats :=
  { s with calls := s.calls + 1, totalMicros := s.totalMicros + latency.micros.toUInt64 }

/-- Counts a call that failed after `latency`. -/
def recordFailure (s : HandlerStats) (latency : Duration) : HandlerStats :=
  { s with calls := s.calls + 1, failures := s.failures + 1,
           totalMicros := s.totalMicros + latency.micros.toUInt64 }

/-- **The average latency in microseconds,** zero before the first call. -/
def averageMicros (s : HandlerStats) : UInt64 :=
  if s.calls = 0 then 0 else s.totalMicros / s.calls

end HandlerStats

end ChatGateway
