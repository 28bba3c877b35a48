import ChatGateway.Config.Schema
import ChatGateway.Config.Interval
import ChatGateway.Heartbeat.Ack
import ChatGateway.Heartbeat.Error
import ChatGateway.Heartbeat.Window
import ChatGateway.Heartbeat.Zone

/-! # The heartbeat schedule

A `HeartbeatPlan` is what the heartbeat service runs from: the interval, the prompt, the
acknowledgment limit, the daily window and its zone, and the delivery target.

* `HeartbeatPlan.ofSettings` builds a plan from the heartbeat settings, checking in order the
  interval, the window, the zone and the target; the first bad one is the error.
* `WallClock` gives the minute of the day in a zone at each instant; the window is read on it.
* `HeartbeatPlan.nextTick` is the tick grid: ticks fall at `start + k * every`. A tick that is
  late by more than five milliseconds moves the next deadline to the first grid point after the
  late instant, skipping the ticks it overran; a tick on time or almost on time is followed by
  the next grid point.
-/

namespace ChatGateway

/-- **Everything the heartbeat service runs from.** -/
structure HeartbeatPlan where
  everyMs : Nat
  prompt : String
  ackMaxChars : Nat
  window : ActiveWindow
  zone : WindowZone
  target : DeliveryTarget
  deriving Repr

namespace HeartbeatPlan

/-- **Builds a plan,** or says which setting is wrong. -/
def ofSettings (h : HeartbeatSettings) : Except HeartbeatError HeartbeatPlan := do
  let everyMs ← match Interval.parseMillis h.every with
    | some ms => pure ms
    | none => throw (.invalidInterval h.every)
  let window ← match ActiveWindow.parse? h.activeHours.start h.activeHours.finish with
    | some w => pure w
    | none => throw (.message ("invalid active hours " ++ h.activeHours.start ++ "-" ++
        h.activeHours.finish))
  let zone ← WindowZone.parse h.activeHours.timezone
  let target ← match h.deliverTo with
    | some t => pure t
    | none => throw .missingTarget
  pure { everyMs, prompt := Heartbeat.resolvePrompt h.prompt, ackMaxChars := h.ackMaxChars,
         window, zone, target }

/-- How late a tick may be and still keep its successor on the next grid point. -/
def lateness : Nat := 5

/-- **The deadline after a tick** that was due at `due` and fired at `now`. -/
def nextTick (every due now : Nat) : Nat :=
  if now > due + lateness then now + every - (now - due) % every else due + every

end HeartbeatPlan

/-- **The wall clock an active window is read on:** the minute of the day in a zone at each
instant of the virtual clock, always below `24 * 60`. A process reads it from the system clock and
the zone's rules, which no part of the gateway controls; a deployment takes it as given. -/
structure WallClock where
  minuteOf : WindowZone → Nat → Fin 1440

namespace WallClock

/-- The wall clock of a process started at midnight in every zone. -/
def midnight : WallClock := ⟨fun _ t => ⟨t / 60000 % 1440, Nat.mod_lt _ (by decide)⟩⟩

instance : Inhabited WallClock := ⟨midnight⟩

instance : Repr WallClock := ⟨fun _ _ => "WallClock"⟩

end WallClock

end ChatGateway
