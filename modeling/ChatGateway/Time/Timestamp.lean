import ChatGateway.Text.Blank

/-! # Timestamps

A `Timestamp` is an instant in UTC: a day (counted from 1970-01-01, proleptic Gregorian
calendar), a second of that day and nanoseconds, which pass one second only inside a leap
second.

* `Timestamp.parse` reads the RFC 3339 form `2024-01-01T12:00:00.5+02:00`, leniently: `T`, `t`
  or a space between date and time, blanks before each number and after the seconds, `Z`, `z`,
  `UTC` (any case) or a numeric offset (`+hh:mm`, `-hhmm`, `−hh mm`) at the end, any number of
  fraction digits (nine are kept). Failures are `TimeIssue`s, worded like `input is out of range`.
* `Timestamp.render` writes `YYYY-MM-DDTHH:MM:SS[.fff|.ffffff|.fffffffff]Z`: as few fraction
  digits as the value needs in steps of three, a four-digit year, or a signed one outside
  0…9999 (`+10000`, `-0001`).
-/

namespace ChatGateway

/-- **Why a text is not a timestamp.** -/
inductive TimeIssue where
  | outOfRange
  | impossible
  | notEnough
  | invalid
  | tooShort
  | tooLong
  deriving Repr, DecidableEq

/-- The wording of each issue. -/
def TimeIssue.text : TimeIssue → String
  | .outOfRange => "input is out of range"
  | .impossible => "no possible date and time matching input"
  | .notEnough => "input is not enough for unique date and time"
  | .invalid => "input contains invalid characters"
  | .tooShort => "premature end of input"
  | .tooLong => "trailing input"

/-- **An instant in UTC.** -/
structure Timestamp where
  day : Int
  second : Nat
  nanos : Nat
  deriving Repr, DecidableEq

namespace Civil

/-- Whether a year is a leap year. -/
def isLeap (y : Int) : Bool := (y % 4 == 0 && y % 100 != 0) || y % 400 == 0

/-- The number of days of a month. -/
def monthLength (y : Int) (m : Nat) : Nat :=
  match m with
  | 2 => if isLeap y then 29 else 28
  | 4 | 6 | 9 | 11 => 30
  | _ => 31

/-- The day number (from 1970-01-01) of a calendar date. -/
def dayOf (y : Int) (m d : Nat) : Int :=
  let y := if m ≤ 2 then y - 1 else y
  let era := y.fdiv 400
  let yoe := y - era * 400
  let mp : Int := if m > 2 then m - 3 else m + 9
  let doy := (153 * mp + 2) / 5 + d - 1
  let doe := yoe * 365 + yoe / 4 - yoe / 100 + doy
  era * 146097 + doe - 719468

/-- The calendar date of a day number. -/
def dateOf (z : Int) : Int × Nat × Nat :=
  let z := z + 719468
  let era := z.fdiv 146097
  let doe := z - era * 146097
  let yoe := (doe - doe / 1460 + doe / 36524 - doe / 146096) / 365
  let y := yoe + era * 400
  let doy := doe - (365 * yoe + yoe / 4 - yoe / 100)
  let mp := (5 * doy + 2) / 153
  let d := (doy - (153 * mp + 2) / 5 + 1).toNat
  let m := (if mp < 10 then mp + 3 else mp - 9).toNat
  (if m ≤ 2 then y + 1 else y, m, d)

/-- The first and last representable years. -/
def minYear : Int := -262143
/-- See `minYear`. -/
def maxYear : Int := 262142

end Civil

namespace Timestamp

/-- Up to `max` ASCII digits, at least one. -/
def digits (cs : List Char) (max : Nat) : Except TimeIssue (Nat × List Char) :=
  let ds := (cs.takeWhile Char.isDigit).take max
  if cs.isEmpty then .error .tooShort
  else if ds.isEmpty then .error .invalid
  else
    let n := ds.foldl (fun acc c => acc * 10 + (c.toNat - 48)) 0
    if n < Nat.pow 2 63 then .ok (n, cs.drop ds.length) else .error .outOfRange

/-- A number after optional blanks, of at most `max` digits. -/
def number (cs : List Char) (max : Nat) : Except TimeIssue (Nat × List Char) :=
  digits (Text.dropBlanks cs) max

/-- The year: a sign and any number of digits, or four digits. -/
def year (cs : List Char) : Except TimeIssue (Int × List Char) :=
  match Text.dropBlanks cs with
  | '-' :: rest => (digits rest (Nat.pow 2 64)).map fun (n, r) => (-(n : Int), r)
  | '+' :: rest => (digits rest (Nat.pow 2 64)).map fun (n, r) => ((n : Int), r)
  | cs => (digits cs 4).map fun (n, r) => ((n : Int), r)

/-- A literal character, after optional blanks. -/
def literal (c : Char) (cs : List Char) : Except TimeIssue (List Char) :=
  match Text.dropBlanks cs with
  | [] => .error .tooShort
  | d :: rest => if d = c then .ok rest else .error .invalid

/-- A value within bounds, or out of range. -/
def within (lo hi : Nat) (v : Nat) : Except TimeIssue Nat :=
  if lo ≤ v ∧ v ≤ hi then .ok v else .error .outOfRange

/-- An optional fraction of a second, in nanoseconds. -/
def fraction (cs : List Char) : Except TimeIssue (Nat × List Char) :=
  match cs with
  | '.' :: rest => do
    let (v, after) ← digits rest 9
    let used := rest.length - after.length
    let v := v * Nat.pow 10 (9 - used)
    pure (v, after.dropWhile Char.isDigit)
  | _ => .ok (0, cs)

/-- The next two characters of an offset, which must be ASCII digits. The text is measured in
bytes: a lone character of two or more bytes is long enough, and is then not a digit. -/
def twoDigits (cs : List Char) : Except TimeIssue (Char × Char × List Char) :=
  match cs with
  | a :: b :: rest => .ok (a, b, rest)
  | [a] => if a.utf8Size ≥ 2 then .error .invalid else .error .tooShort
  | [] => .error .tooShort

/-- A numeric offset from UTC, `Z` or `z`, in seconds east. -/
def offset (cs : List Char) : Except TimeIssue (Int × List Char) :=
  match cs with
  | 'Z' :: rest | 'z' :: rest => .ok (0, rest)
  | [] => .error .tooShort
  | c :: rest => do
    let negative ← if c = '+' then pure false
      else if c = '-' ∨ c.toNat = 0x2212 then pure true
      else .error .invalid
    let (h1, h2, rest) ← twoDigits rest
    if !(h1.isDigit && h2.isDigit) then .error .invalid
    let hours := (h1.toNat - 48) * 10 + (h2.toNat - 48)
    let rest := rest.dropWhile fun c => c = ':' || Text.isBlank c
    let (m1, m2, rest) ← twoDigits rest
    let minutes ←
      if '0' ≤ m1 ∧ m1 ≤ '5' ∧ m2.isDigit then pure ((m1.toNat - 48) * 10 + (m2.toNat - 48))
      else if '6' ≤ m1 ∧ m1 ≤ '9' ∧ m2.isDigit then .error .outOfRange
      else .error .invalid
    let secs : Int := hours * 3600 + minutes * 60
    pure (if negative then -secs else secs, rest)

/-- Whether the text starts with `UTC` in any case. -/
def startsWithUtc (cs : List Char) : Bool :=
  match cs with
  | a :: b :: c :: _ => a.toLower = 'u' && b.toLower = 't' && c.toLower = 'c'
  | _ => false

/-- The fields read from a timestamp text. -/
structure Fields where
  year : Int
  month : Nat
  day : Nat
  hour : Nat
  minute : Nat
  second : Nat
  nanos : Nat
  offset : Int

/-- Reads the fields of a timestamp text, with no check of the date itself. -/
def fields (cs : List Char) : Except TimeIssue Fields := do
  let (y, cs) ← year cs
  if y < -Int.pow 2 31 ∨ y ≥ Int.pow 2 31 then .error .outOfRange
  let cs ← literal '-' cs
  let (mo, cs) ← number cs 2
  let mo ← within 1 12 mo
  let cs ← literal '-' cs
  let (d, cs) ← number cs 2
  let d ← within 1 31 d
  let cs ← match cs with
    | c :: rest => if c = 'T' ∨ c = 't' ∨ c = ' ' then pure rest else .error .invalid
    | [] => .error .tooShort
  let (h, cs) ← number cs 2
  let h ← within 0 23 h
  let cs ← literal ':' cs
  let (mi, cs) ← number cs 2
  let mi ← within 0 59 mi
  let cs ← literal ':' cs
  let (s, cs) ← number cs 2
  let s ← within 0 60 s
  let (ns, cs) ← fraction cs
  let cs := Text.dropBlanks cs
  let (off, cs) ← if startsWithUtc cs then pure (0, cs.drop 3) else offset cs
  if !(Text.dropBlanks cs).isEmpty then .error .tooLong
  pure ⟨y, mo, d, h, mi, s, ns, off⟩

/-- **Reads a timestamp text and converts it to UTC.** -/
def parse (text : String) : Except TimeIssue Timestamp := do
  let f ← fields text.toList
  if f.year < Civil.minYear ∨ f.year > Civil.maxYear ∨ f.day > Civil.monthLength f.year f.month then
    .error .outOfRange
  let (second, nanos) := if f.second = 60 then (59, 1000000000 + f.nanos) else (f.second, f.nanos)
  if f.offset ≤ -86400 ∨ f.offset ≥ 86400 then .error .outOfRange
  let clock := f.hour * 3600 + f.minute * 60 + second
  let localSecs := (Civil.dayOf f.year f.month f.day) * 86400 + clock
  let utc := localSecs - f.offset
  let day := utc.fdiv 86400
  let (y, _, _) := Civil.dateOf day
  if y < Civil.minYear ∨ y > Civil.maxYear then .error .impossible
  pure ⟨day, (utc - day * 86400).toNat, nanos⟩

/-- A number written with at least `width` digits. -/
def padded (width : Nat) (n : Nat) : String :=
  let s := toString n
  String.ofList (List.replicate (width - s.length) '0') ++ s

/-- The year as written: four digits within 0…9999, else signed with at least four digits. -/
def yearText (y : Int) : String :=
  if 0 ≤ y ∧ y ≤ 9999 then padded 4 y.toNat
  else (if y < 0 then "-" else "+") ++ padded 4 y.natAbs

/-- The fraction of a second, in as few groups of three digits as it needs. -/
def fractionText (nanos : Nat) : String :=
  if nanos = 0 then ""
  else if nanos % 1000000 = 0 then "." ++ padded 3 (nanos / 1000000)
  else if nanos % 1000 = 0 then "." ++ padded 6 (nanos / 1000)
  else "." ++ padded 9 nanos

/-- **The RFC 3339 text of a timestamp, in UTC.** -/
def render (t : Timestamp) : String :=
  let (y, m, d) := Civil.dateOf t.day
  let (sec, nanos) := if t.nanos ≥ 1000000000 then (t.second % 60 + 1, t.nanos - 1000000000)
    else (t.second % 60, t.nanos)
  yearText y ++ "-" ++ padded 2 m ++ "-" ++ padded 2 d ++ "T" ++ padded 2 (t.second / 3600) ++
    ":" ++ padded 2 (t.second / 60 % 60) ++ ":" ++ padded 2 sec ++ fractionText nanos ++ "Z"

end Timestamp

end ChatGateway
