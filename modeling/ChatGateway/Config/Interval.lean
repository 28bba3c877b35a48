import ChatGateway.Text.Blank

/-! # Interval texts

An interval is written as a count and a unit: `250ms`, `90s`, `30m`, `1h`, or a bare count of
milliseconds. Blanks around the whole text and between count and unit are ignored; the count is
a decimal number with an optional `+`, at most `2^64 - 1`, and the interval in milliseconds must
be positive and fit in 64 bits.
-/

namespace ChatGateway

namespace Interval

/-- The largest count of milliseconds. -/
def maxMillis : Nat := Nat.pow 2 64 - 1

/-- The value of one or more decimal digits, when it is at most `2^64 - 1`. -/
def parseDigits (digits : List Char) : Option Nat :=
  if digits.isEmpty || !digits.all Char.isDigit then none
  else
    let n := digits.foldl (fun acc c => acc * 10 + (c.toNat - 48)) 0
    if n ≤ maxMillis then some n else none

/-- A decimal count with an optional leading `+`, within 64 bits. -/
def parseCount (s : String) : Option Nat :=
  match s.toList with
  | '+' :: rest => parseDigits rest
  | cs => parseDigits cs

/-- The count text and the milliseconds per unit, read off the unit suffix. -/
def splitUnit (s : String) : String × Nat :=
  let cs := s.toList
  let strip (n : Nat) := String.ofList (cs.take (cs.length - n))
  if cs.getLast? = some 's' ∧ cs.dropLast.getLast? = some 'm' then (strip 2, 1)
  else if cs.getLast? = some 'h' then (strip 1, 3600000)
  else if cs.getLast? = some 'm' then (strip 1, 60000)
  else if cs.getLast? = some 's' then (strip 1, 1000)
  else (s, 1)

/-- **The milliseconds an interval text stands for,** or `none` when it is not one. -/
def parseMillis (text : String) : Option Nat :=
  let s := Text.trim text
  if s.isEmpty then none
  else
    let (count, perUnit) := splitUnit s
    match parseCount (Text.trim count) with
    | some n => if n * perUnit ≤ maxMillis ∧ 0 < n * perUnit then some (n * perUnit) else none
    | none => none

end Interval

end ChatGateway
