import ChatGateway.Text.Blank
import ChatGateway.Text.Replace

/-! # Heartbeat replies and prompts

A heartbeat asks the engine whether anything needs the user's attention; the engine answers
`HEARTBEAT_OK` when nothing does.

* `Heartbeat.stripAck` removes the token from a reply, also in the bold forms `**HEARTBEAT_OK**`
  and `<b>HEARTBEAT_OK</b>`, and decides whether the reply is suppressed: when nothing is left,
  or when the token was there and what is left is a short acknowledgement of at most
  `maxAckChars` characters.
* `Heartbeat.resolvePrompt` is the configured prompt, trimmed, or `Heartbeat.defaultPrompt` when
  none is configured or it is blank.
-/

namespace ChatGateway

namespace Heartbeat

/-- The reply that means nothing needs attention. -/
def ackToken : String := "HEARTBEAT_OK"

/-- The prompt sent when none is configured. -/
def defaultPrompt : String :=
  "You are performing a periodic heartbeat check. Review any pending items " ++
  "(inbox, calendar, reminders, background tasks) and determine if anything " ++
  "needs the user's attention right now.\n\n" ++
  "- If nothing requires attention, reply with exactly: HEARTBEAT_OK\n" ++
  "- If something needs attention, describe it concisely.\n" ++
  "Do NOT wrap HEARTBEAT_OK in markdown formatting."

/-- **A reply with the acknowledgement token removed, and whether to suppress it.** -/
structure AckCheck where
  shouldSkip : Bool
  text : String
  didStrip : Bool
  deriving Repr, DecidableEq

/-- The written forms of the token, bold ones first. -/
def ackForms : List String := ["**" ++ ackToken ++ "**", "<b>" ++ ackToken ++ "</b>", ackToken]

/-- Removes one form of the token, noting whether it occurred. -/
def removeForm (acc : List Char × Bool) (form : String) : List Char × Bool :=
  let (cs, seen) := acc
  if Text.occursIn form.toList cs then (Text.replaceAll form.toList [] cs, true) else (cs, seen)

/-- **Strips the acknowledgement token from a reply.** -/
def stripAck (reply : String) (maxAckChars : Nat) : AckCheck :=
  let (rest, didStrip) := ackForms.foldl removeForm ((Text.trim reply).toList, false)
  let text := Text.trim (String.ofList rest)
  { shouldSkip := text.isEmpty || (didStrip && decide (text.length ≤ maxAckChars))
    text, didStrip }

/-- **The prompt a heartbeat sends.** -/
def resolvePrompt (custom : Option String) : String :=
  match custom.map Text.trim with
  | some p => if p.isEmpty then defaultPrompt else p
  | none => defaultPrompt

end Heartbeat

end ChatGateway
