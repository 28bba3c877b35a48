import ChatGateway.Text.Blank

/-! # Active windows

A heartbeat runs only inside its daily active window, given by two clock times.

* A clock time is written `H:MM` or `HH:MM`: one or two digits of hour (at most 23), a colon, one
  or two digits of minute (at most 59), with blanks allowed before each number and around the
  whole text, and nothing else. `24:00` stands for the end of the day.
* A window from `opens` to `closes` (minutes since midnight) contains the minutes
  `opens ≤ m < closes`; when `closes` comes before `opens` the window runs overnight and
  contains the minutes from `opens` on and those before `closes`. Equal ends give a window that
  is never open; `00:00` to `24:00` is always open.
-/

namespace ChatGateway

namespace ClockTime

/-- One or two ASCII digits after optional blanks: the number and the rest. -/
def readNumber (cs : List Char) : Option (Nat × List Char) :=
  match Text.dropBlanks cs with
  | a :: b :: rest =>
    if a.isDigit then
      if b.isDigit then some ((a.toNat - 48) * 10 + (b.toNat - 48), rest)
      else some (a.toNat - 48, b :: rest)
    else none
  | [a] => if a.isDigit then some (a.toNat - 48, []) else none
  | [] => none

/-- **Minutes since midnight of an `HH:MM` clock time,** without the `24:00` special case. -/
def parseMinutes (s : String) : Option Nat := do
  let (h, rest) ← readNumber s.toList
  match rest with
  | ':' :: rest =>
    let (m, rest) ← readNumber rest
    if h ≤ 23 ∧ m ≤ 59 ∧ rest = [] then some (h * 60 + m) else none
  | _ => none

end ClockTime

/-- **A daily window, in minutes since midnight;** `closes` may be 1440, the end of the day. -/
structure ActiveWindow where
  opens : Nat
  closes : Nat
  deriving Repr, DecidableEq

namespace ActiveWindow

/-- The window that is always open. -/
def always : ActiveWindow := ⟨0, 1440⟩

/-- A bound of a window: `24:00`, or a clock time, each with blanks around it. -/
def parseBound (s : String) : Option Nat :=
  let t := Text.trim s
  if t = "24:00" then some 1440 else ClockTime.parseMinutes t

/-- **Reads a window from its two bounds.** -/
def parse? (opens closes : String) : Option ActiveWindow := do
  let a ← parseBound opens
  let b ← parseBound closes
  pure ⟨a, b⟩

/-- **Whether the window contains a minute,** overnight windows included. -/
def contains (w : ActiveWindow) (minute : Nat) : Bool :=
  if w.opens ≤ w.closes then w.opens ≤ minute && minute < w.closes
  else w.opens ≤ minute || minute < w.closes

end ActiveWindow

end ChatGateway
