import ChatGateway.Heartbeat.ZoneNames
import ChatGateway.Heartbeat.Error

/-! # The zone of an active window

A window is read in the system's local time (written `local`, or left empty) or in a named IANA
time zone; any other text is refused as an unknown time zone.
-/

namespace ChatGateway

/-- **The time zone an active window is read in.** -/
inductive WindowZone where
  | localTime
  | named (name : String)
  deriving Repr, DecidableEq

namespace WindowZone

/-- **Reads a window zone.** -/
def parse (tz : String) : Except HeartbeatError WindowZone :=
  if tz.isEmpty || tz == "local" then .ok .localTime
  else if Zone.isName tz then .ok (.named tz)
  else .error (.unknownTimezone tz)

end WindowZone

end ChatGateway
