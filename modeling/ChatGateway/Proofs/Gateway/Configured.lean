import ChatGateway.Proofs.Heartbeat.Plan
import ChatGateway.Gateway.Configured

/-! # Building a gateway from its configuration

`Deployment.ofConfig` refuses a configuration whose check finds an error, with every finding
displayed; otherwise the one refusal left is an enabled heartbeat without a delivery target. The
check reads each heartbeat setting at least as strictly as the heartbeat's construction does
(`Proofs/Heartbeat/Plan`), so no other heartbeat error can come up.

* `Config.checked_heartbeat`: a configuration without error findings has an interval, bounds and a
  zone that the check reads.
* `Config.ofSettings_of_checked`: its heartbeat settings are planned when they have a target, and
  refused for want of one otherwise, whether the heartbeat is enabled or not.
* `Deployment.ofConfig_of_hasErrors`, `Deployment.ofConfig_of_checked`: the two ways the building
  goes.
* `Deployment.ofConfig_outcome`: the whole.
-/

namespace ChatGateway

namespace Config

/-- Findings have an error when one of the two parts has. -/
theorem hasErrors_append (a b : List Diagnostic) :
    hasErrors (a ++ b) = (hasErrors a || hasErrors b) :=
  List.any_append

/-- **The heartbeat settings of a configuration without error findings** have an interval, two
active-hours bounds and a zone that the check reads. -/
theorem checked_heartbeat {c : Config} (h : hasErrors c.validate = false) :
    (Interval.parseMillis c.heartbeat.every).isSome = true ∧
      validBound c.heartbeat.activeHours.start = true ∧
      validBound c.heartbeat.activeHours.finish = true ∧
      (c.heartbeat.activeHours.timezone.isEmpty || c.heartbeat.activeHours.timezone == "local" ||
        Zone.isName c.heartbeat.activeHours.timezone) = true := by
  unfold validate at h
  simp only [hasErrors_append, Bool.or_eq_false_iff] at h
  obtain ⟨⟨⟨⟨⟨-, hinterval⟩, hbounds⟩, hzone⟩, -⟩, -⟩ := h
  have herror : (Severity.error == Severity.error) = true := rfl
  -- Each setting the check cannot read gives an error finding of its own.
  refine ⟨?_, ?_, ?_, ?_⟩
  · cases hp : Interval.parseMillis c.heartbeat.every with
    | none => simp [hp, hasErrors, herror] at hinterval
    | some _ => rfl
  · cases hv : validBound c.heartbeat.activeHours.start with
    | false => simp [hv, hasErrors, herror] at hbounds
    | true => rfl
  · cases hv : validBound c.heartbeat.activeHours.finish with
    | false => simp [hv, hasErrors, herror] at hbounds
    | true => rfl
  · by_contra hz
    simp only [Bool.not_eq_true, Bool.or_eq_false_iff] at hz
    obtain ⟨⟨hempty, hlocal⟩, hname⟩ := hz
    have hcond : (!c.heartbeat.activeHours.timezone.isEmpty &&
        c.heartbeat.activeHours.timezone != "local" &&
        !Zone.isName c.heartbeat.activeHours.timezone) = true := by
      simp [hempty, hname, bne, hlocal]
    simp [hcond, hasErrors, herror] at hzone

/-- **The heartbeat settings of a configuration without error findings are planned** when they
have a target, and refused for want of one otherwise. -/
theorem ofSettings_of_checked {c : Config} (h : hasErrors c.validate = false) :
    (c.heartbeat.deliverTo = none → HeartbeatPlan.ofSettings c.heartbeat = .error .missingTarget) ∧
      ∀ t, c.heartbeat.deliverTo = some t → ∃ plan, HeartbeatPlan.ofSettings c.heartbeat = .ok plan := by
  obtain ⟨hinterval, hstart, hfinish, hzone⟩ := checked_heartbeat h
  obtain ⟨every, he⟩ := Option.isSome_iff_exists.1 hinterval
  obtain ⟨a, ha⟩ := ActiveWindow.parseBound_of_validBound hstart
  obtain ⟨b, hb⟩ := ActiveWindow.parseBound_of_validBound hfinish
  obtain ⟨zone, hz⟩ := (WindowZone.parse_ok_iff _).2 hzone
  have hplan := HeartbeatPlan.ofSettings_of_parts he (ActiveWindow.parse?_of_parseBound ha hb) hz
  refine ⟨fun hnone => ?_, fun t ht => ?_⟩
  · rw [hplan, hnone]
  · rw [hplan, ht]
    exact ⟨_, rfl⟩

/-- **The heartbeat service of a configuration without error findings:** none when the heartbeat
is disabled; when it is enabled, refused for want of a target, and planned otherwise. -/
theorem heartbeatService_of_checked {c : Config} (h : hasErrors c.validate = false) :
    (c.heartbeat.enabled = false → c.heartbeatService = .ok none) ∧
      (c.heartbeat.enabled = true → c.heartbeat.deliverTo = none →
        c.heartbeatService = .error .missingTarget) ∧
      (c.heartbeat.enabled = true → ∀ t, c.heartbeat.deliverTo = some t →
        ∃ plan, c.heartbeatService = .ok (some { plan })) := by
  obtain ⟨hnone, hsome⟩ := ofSettings_of_checked h
  refine ⟨fun he => ?_, fun he ht => ?_, fun he t ht => ?_⟩
  · rw [heartbeatService, if_neg (by simp [he])]
  · rw [heartbeatService, if_pos he, hnone ht]
    rfl
  · obtain ⟨plan, hp⟩ := hsome t ht
    rw [heartbeatService, if_pos he, hp]
    exact ⟨plan, rfl⟩

end Config

namespace Deployment

variable (c : Config) (model : ProviderScript) (tools : ToolRegistry)

/-- **A configuration with an error finding is refused,** with every finding displayed and
joined by `; `. -/
theorem ofConfig_of_hasErrors (h : Config.hasErrors c.validate = true) :
    ofConfig c model tools =
      .error (.invalidConfig ("; ".intercalate (c.validate.map Diagnostic.display))) := by
  simp only [ofConfig, h, if_true]
  rfl

/-- **A configuration without error findings is wired,** unless its heartbeat is enabled and
cannot be planned. -/
theorem ofConfig_of_checked (h : Config.hasErrors c.validate = false) :
    ofConfig c model tools = (c.heartbeatService.mapError GatewayError.heartbeat).map (wired c model tools) := by
  simp only [ofConfig, h, Bool.false_eq_true, if_false]
  cases c.heartbeatService.mapError GatewayError.heartbeat <;> rfl

/-- **Building a gateway from a configuration.** A configuration whose check finds an error is
refused with every finding displayed and joined by `; `, and only such a one. Otherwise it is
refused exactly when its heartbeat is enabled without a delivery target, and a gateway is built in
every other case: whatever interval, active-hours bounds and zone the check accepts, the heartbeat's
construction accepts too, enabled or not, and every bound the check accepts as written bounds a
window once trimmed. -/
theorem ofConfig_outcome :
    (Config.hasErrors c.validate = true ↔
      ofConfig c model tools =
        .error (.invalidConfig ("; ".intercalate (c.validate.map Diagnostic.display)))) ∧
    (Config.hasErrors c.validate = false →
      (ofConfig c model tools = .error (.heartbeat .missingTarget) ↔
          c.heartbeat.enabled = true ∧ c.heartbeat.deliverTo = none) ∧
      (¬(c.heartbeat.enabled = true ∧ c.heartbeat.deliverTo = none) →
          ∃ d, ofConfig c model tools = .ok d) ∧
      ∀ t, c.heartbeat.deliverTo = some t → ∃ plan, HeartbeatPlan.ofSettings c.heartbeat = .ok plan) ∧
    ∀ v, Config.validBound v = true → ∃ m, ActiveWindow.parseBound v = some m := by
  refine ⟨⟨ofConfig_of_hasErrors c model tools, fun h => ?_⟩, fun h => ?_,
    fun v hv => ActiveWindow.parseBound_of_validBound hv⟩
  · -- Without error findings the refusal, if any, is the heartbeat's.
    cases hc : Config.hasErrors c.validate
    · rw [ofConfig_of_checked c model tools hc] at h
      cases hs : c.heartbeatService with
      | error e => rw [hs] at h; cases h
      | ok hb => rw [hs] at h; cases h
    · rfl
  · obtain ⟨hoff, hmissing, hplanned⟩ := Config.heartbeatService_of_checked h
    rw [ofConfig_of_checked c model tools h]
    refine ⟨?_, fun hne => ?_, (Config.ofSettings_of_checked h).2⟩
    · -- Refused exactly when enabled without a target.
      cases he : c.heartbeat.enabled
      · rw [hoff he]
        exact iff_of_false (fun h => by cases h) (fun h => by cases h.1)
      · cases ht : c.heartbeat.deliverTo with
        | none =>
          rw [hmissing he ht]
          exact iff_of_true rfl ⟨rfl, rfl⟩
        | some t =>
          obtain ⟨plan, hp⟩ := hplanned he t ht
          rw [hp]
          exact iff_of_false (fun h => by cases h) (fun h => by cases h.2)
    · cases he : c.heartbeat.enabled
      · rw [hoff he]
        exact ⟨_, rfl⟩
      · cases ht : c.heartbeat.deliverTo with
        | none => exact absurd ⟨he, ht⟩ hne
        | some t =>
          obtain ⟨plan, hp⟩ := hplanned he t ht
          rw [hp]
          exact ⟨_, rfl⟩

end Deployment

end ChatGateway
