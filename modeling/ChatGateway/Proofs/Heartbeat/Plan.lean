import ChatGateway.Proofs.Heartbeat.Ack
import ChatGateway.Config.Validate
import ChatGateway.Heartbeat.Schedule

/-! # Heartbeat settings that pass the check can be planned

The configuration check and the heartbeat's construction read the same settings by different
rules. The check takes an active-hours bound as written: it compares it with `24:00` and reads it
as a clock time. The construction trims the bound first. This file proves that the check is the
stricter of the two, so that settings the check accepts are never refused when the heartbeat is
built, for want of a target apart.

* `ClockTime.readNumber_spec`: a number is one or two digits after the blanks it skips.
* `ClockTime.parseMinutes_trim`: a clock time that reads as written reads the same trimmed: it
  ends with a digit, and the blanks before its numbers are skipped anyway.
* `ActiveWindow.parseBound_of_validBound`: every bound the check accepts bounds a window.
* `WindowZone.parse_ok_iff`: the zones the construction accepts are those the check accepts.
* `HeartbeatPlan.ofSettings_of_parts`, `HeartbeatPlan.ofSettings_ok`: with the interval, the
  bounds and the zone read, a plan is built when there is a target and refused otherwise; a plan
  keeps its settings' resolved prompt, limit and target.
-/

namespace ChatGateway

namespace ClockTime

/-! ## (1) Clock times read the same trimmed -/

/-- **A number is one or two digits** after the blanks it skips, and what is left follows them. -/
theorem readNumber_spec {cs rest : List Char} {n : Nat} (h : readNumber cs = some (n, rest)) :
    ∃ digits, Text.dropBlanks cs = digits ++ rest ∧ digits ≠ [] ∧ ∀ d ∈ digits, d.isDigit = true := by
  unfold readNumber at h
  split at h
  · rename_i a b r hcs
    by_cases ha : a.isDigit = true
    · by_cases hb : b.isDigit = true
      · simp only [ha, hb, if_true, Option.some.injEq, Prod.mk.injEq] at h
        obtain ⟨-, rfl⟩ := h
        exact ⟨[a, b], by simp [hcs], by simp, by simp [ha, hb]⟩
      · simp only [ha, hb, if_true, Bool.false_eq_true, if_false, Option.some.injEq,
          Prod.mk.injEq] at h
        obtain ⟨-, rfl⟩ := h
        exact ⟨[a], by simp [hcs], by simp, by simp [ha]⟩
    · simp [ha] at h
  · rename_i a hcs
    by_cases ha : a.isDigit = true
    · simp only [ha, if_true, Option.some.injEq, Prod.mk.injEq] at h
      obtain ⟨-, rfl⟩ := h
      exact ⟨[a], by simp [hcs], by simp, by simp [ha]⟩
    · simp [ha] at h
  · cases h

/-- Blanks skipped before a number make no difference. -/
theorem readNumber_dropBlanks (cs : List Char) : readNumber (Text.dropBlanks cs) = readNumber cs := by
  unfold readNumber
  rw [Text.dropBlanks_of_head? (Text.head?_dropBlanks cs)]

/-- A digit is not blank. -/
theorem isBlank_of_isDigit {c : Char} (h : c.isDigit = true) : Text.isBlank c = false := by
  simp only [Char.isDigit, Bool.and_eq_true, decide_eq_true_eq] at h
  have h1 : 48 ≤ c.toNat := h.1
  have h2 : c.toNat ≤ 57 := h.2
  simp only [Text.isBlank, Bool.or_eq_false_iff, Bool.and_eq_false_iff, beq_eq_false_iff_ne,
    decide_eq_false_iff_not]
  omega

/-- **A clock time ends with a digit.** -/
theorem getLast?_of_parseMinutes {s : String} {m : Nat} (h : parseMinutes s = some m) :
    ∀ c ∈ s.toList.getLast?, Text.isBlank c = false := by
  unfold parseMinutes at h
  simp only [Option.bind_eq_bind, Option.bind_eq_some_iff] at h
  obtain ⟨⟨hh, rest⟩, hr, h⟩ := h
  split at h
  · rename_i after hcolon
    obtain ⟨⟨mm, left⟩, hm, h⟩ := Option.bind_eq_some_iff.1 h
    have hleft : left = [] := by
      by_contra hne
      simp [hne] at h
    subst hleft
    -- The text is blanks, the hour, the colon, blanks and the minute's digits.
    obtain ⟨hours, hs, -, -⟩ := readNumber_spec hr
    obtain ⟨minutes, hmin, hne, hdigits⟩ := readNumber_spec hm
    obtain ⟨before, hbefore⟩ := List.dropWhile_suffix (l := s.toList) Text.isBlank
    obtain ⟨between, hbetween⟩ := List.dropWhile_suffix (l := after) Text.isBlank
    have hlast : s.toList.getLast? = some (minutes.getLast hne) := by
      rw [← hbefore]
      simp only [Text.dropBlanks] at hs hmin
      simp only at hcolon
      rw [hs, hcolon, ← hbetween, hmin, List.append_nil, ← List.cons_append]
      simp only [List.getLast?_append, List.getLast?_eq_some_getLast hne, Option.some_or]
    intro c hc
    rw [hlast, Option.mem_some_iff] at hc
    subst hc
    exact isBlank_of_isDigit (hdigits _ (List.getLast_mem hne))
  · cases h

/-- **A clock time that reads as written reads the same trimmed.** It ends with a digit, so
trimming removes only the blanks in front, which the first number skips anyway. -/
theorem parseMinutes_trim {s : String} {m : Nat} (h : parseMinutes s = some m) :
    parseMinutes (Text.trim s) = some m := by
  have htrim : (Text.trim s).toList = Text.dropBlanks s.toList :=
    Text.toList_trim_of_getLast? (getLast?_of_parseMinutes h)
  unfold parseMinutes at h ⊢
  rw [htrim, readNumber_dropBlanks]
  exact h

end ClockTime

/-! ## (2) What the check accepts, the construction accepts -/

namespace ActiveWindow

/-- **Every bound the check accepts bounds a window:** `24:00` as written, or a clock time as
written, is a bound once trimmed. -/
theorem parseBound_of_validBound {v : String} (h : Config.validBound v = true) :
    ∃ m, parseBound v = some m := by
  unfold parseBound
  by_cases h24 : Text.trim v = "24:00"
  · exact ⟨1440, by simp [h24]⟩
  · simp only [h24, if_false]
    unfold Config.validBound at h
    rcases Bool.or_eq_true_iff.1 h with hv | hv
    · -- `24:00` as written is `24:00` trimmed.
      rw [beq_iff_eq] at hv
      subst hv
      exact absurd (by decide) h24
    · obtain ⟨m, hm⟩ := Option.isSome_iff_exists.1 hv
      exact ⟨m, ClockTime.parseMinutes_trim hm⟩

/-- A window is read when both its bounds are. -/
theorem parse?_of_parseBound {opens closes : String} {a b : Nat} (ha : parseBound opens = some a)
    (hb : parseBound closes = some b) : parse? opens closes = some ⟨a, b⟩ := by
  simp [parse?, ha, hb]

end ActiveWindow

namespace WindowZone

/-- **The zones the construction accepts are those the check accepts:** the local zone, written
`local` or left empty, and the named zones. -/
theorem parse_ok_iff (tz : String) :
    (∃ z, parse tz = .ok z) ↔ (tz.isEmpty || tz == "local" || Zone.isName tz) = true := by
  unfold parse
  by_cases hl : (tz.isEmpty || tz == "local") = true
  · simp [hl]
  · by_cases hn : Zone.isName tz = true
    · simp [hl, hn]
    · simp [hl, hn]

end WindowZone

namespace HeartbeatPlan

/-- **Settings whose interval, bounds and zone are read** give a plan when they have a target,
and are refused for want of one otherwise. -/
theorem ofSettings_of_parts {s : HeartbeatSettings} {every : Nat} {window : ActiveWindow}
    {zone : WindowZone} (he : Interval.parseMillis s.every = some every)
    (hw : ActiveWindow.parse? s.activeHours.start s.activeHours.finish = some window)
    (hz : WindowZone.parse s.activeHours.timezone = .ok zone) :
    ofSettings s = match s.deliverTo with
      | some target =>
        .ok { everyMs := every, prompt := Heartbeat.resolvePrompt s.prompt,
              ackMaxChars := s.ackMaxChars, window, zone, target }
      | none => .error .missingTarget := by
  unfold ofSettings
  rw [he, hw, hz]
  cases s.deliverTo <;> rfl

/-- **A plan keeps what its settings say:** the resolved prompt, the acknowledgement limit and the
delivery target. -/
theorem ofSettings_ok {s : HeartbeatSettings} {plan : HeartbeatPlan} (h : ofSettings s = .ok plan) :
    plan.prompt = Heartbeat.resolvePrompt s.prompt ∧ plan.ackMaxChars = s.ackMaxChars ∧
      s.deliverTo = some plan.target := by
  unfold ofSettings at h
  cases he : Interval.parseMillis s.every with
  | none => simp [he] at h; cases h
  | some every =>
    cases hw : ActiveWindow.parse? s.activeHours.start s.activeHours.finish with
    | none => simp [he, hw] at h; cases h
    | some window =>
      cases hz : WindowZone.parse s.activeHours.timezone with
      | error e => simp [he, hw, hz] at h; cases h
      | ok zone =>
        cases ht : s.deliverTo with
        | none => simp [he, hw, hz, ht] at h; cases h
        | some target =>
          simp [he, hw, hz, ht] at h
          cases h
          exact ⟨rfl, rfl, rfl⟩

end HeartbeatPlan

end ChatGateway
