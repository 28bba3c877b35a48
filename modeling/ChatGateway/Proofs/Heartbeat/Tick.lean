import ChatGateway.Proofs.Heartbeat.Plan
import ChatGateway.Proofs.Gateway.Responder

/-! # One heartbeat

What one heartbeat does, run at once or by the timer loop (both run `Heartbeats.tick`):

* outside the active window, read on the deployment's wall clock in the plan's zone, it ends at
  once, without asking the engine and without changing anything (`Heartbeats.poll_tick_outside`);
* inside it, it asks the engine with the heartbeat message `Heartbeats.prompt` (to the delivery
  target, from `heartbeat`, with the plan's prompt, marked `heartbeat: true`) and goes on with
  `Heartbeats.afterReply` (`Heartbeats.poll_tick_inside`); the engine's own work publishes
  nothing (`Reasoning.poll_silent`);
* an engine error is returned as it is, and a suppressed reply ends the heartbeat, both without
  a change (`Heartbeats.poll_afterReply_error`, `Heartbeats.poll_afterReply_suppressed`);
* any other reply is published once, as `Heartbeats.deliveryOf` makes it
  (`Heartbeats.poll_afterReply_delivered`, `Heartbeats.deliveryOf_spec`): the stripped text, the
  reply's media, and the reply's metadata under the heartbeat mark, which no key of the reply
  overrides.
-/

namespace ChatGateway

open Scheduling Scheduling.Executor Scheduling.Program

/-- Reading the clock goes on at once with the current time. -/
theorem Scheduling.Executor.poll_now_bind {α : Type} (me : Nat) (ex : Exec) (k : Nat → Act α) :
    poll me ex (Scheduling.Program.now.bind k) = poll me ex (k ex.now) :=
  rfl

namespace Heartbeats

/-! ## (1) The message to the engine and what follows its answer -/

/-- **The message a heartbeat sends the engine:** to the delivery target, from `heartbeat`, with
the plan's prompt, marked `heartbeat: true`. -/
def prompt (plan : HeartbeatPlan) : InboundMessage :=
  ({ channel := plan.target.channel, chatId := plan.target.chatId, senderId := sender,
      content := plan.prompt } : InboundMessage).withMetadata "heartbeat" (.bool true)

/-- **What a heartbeat does once the engine has answered:** an error is returned as it is, a
suppressed reply ends the heartbeat, and any other reply is published. -/
def afterReply (plan : HeartbeatPlan) :
    Except String EngineReply → Act (Except String HeartbeatOutcome)
  | .error e => Pure.pure (.error e)
  | .ok r =>
    let check := Heartbeat.stripAck r.text plan.ackMaxChars
    if check.shouldSkip then Pure.pure (.ok .suppressed)
    else
      let o := deliveryOf plan r check.text
      (Delivery.publish (.outbound o)).bind fun _ => Pure.pure (.ok (.delivered o))

/-- A heartbeat reads the clock and the wall clock's minute in the plan's zone, and asks the
engine only inside the active window. -/
theorem tick_eq (plan : HeartbeatPlan) :
    tick plan = Scheduling.Program.now.bind fun t =>
      (Scheduling.Program.read fun (d : Deployment) => d.wallClock.minuteOf plan.zone t).bind
        fun minute =>
          if !plan.window.contains minute.val then .pure (.ok .outsideActiveHours)
          else (Reasoning.process (prompt plan)).bind (afterReply plan) :=
  rfl

/-- A poll of a heartbeat is a poll of its branch for the wall clock's minute now. -/
theorem poll_tick (me : Nat) (ex : Exec) (plan : HeartbeatPlan) :
    poll me ex (tick plan) =
      poll me ex (if !plan.window.contains (ex.shared.wallClock.minuteOf plan.zone ex.now).val then
          .pure (.ok .outsideActiveHours)
        else (Reasoning.process (prompt plan)).bind (afterReply plan)) :=
  rfl

variable (me : Nat) (ex : Exec) (plan : HeartbeatPlan)

/-- **Outside the active window** a heartbeat ends in its first poll, without asking the engine
and without changing anything. -/
theorem poll_tick_outside
    (h : plan.window.contains (ex.shared.wallClock.minuteOf plan.zone ex.now).val = false) :
    poll me ex (tick plan) = (ex, .pure (.ok .outsideActiveHours)) := by
  rw [poll_tick, h]
  rfl

/-- **Inside the active window** a heartbeat asks the engine with its message, and goes on with
the answer. -/
theorem poll_tick_inside
    (h : plan.window.contains (ex.shared.wallClock.minuteOf plan.zone ex.now).val = true) :
    poll me ex (tick plan) = poll me ex ((Reasoning.process (prompt plan)).bind (afterReply plan)) := by
  rw [poll_tick, h]
  rfl

/-- The heartbeat message, field by field. -/
theorem prompt_spec :
    (prompt plan).channel = plan.target.channel ∧ (prompt plan).chatId = plan.target.chatId ∧
      (prompt plan).senderId = "heartbeat" ∧ (prompt plan).content = plan.prompt ∧
      (prompt plan).metadata = [("heartbeat", .bool true)] :=
  ⟨rfl, rfl, rfl, rfl, rfl⟩

/-- **An engine error** is the heartbeat's result, and nothing changes. -/
theorem poll_afterReply_error (e : String) :
    poll me ex (afterReply plan (.error e)) = (ex, .pure (.error e)) :=
  rfl

/-- **A suppressed reply** ends the heartbeat, and nothing changes. -/
theorem poll_afterReply_suppressed {r : EngineReply}
    (h : (Heartbeat.stripAck r.text plan.ackMaxChars).shouldSkip = true) :
    poll me ex (afterReply plan (.ok r)) = (ex, .pure (.ok .suppressed)) := by
  simp only [afterReply, h, if_true]
  rfl

/-- **Any other reply is published once,** on an open bus, and is the heartbeat's result. -/
theorem poll_afterReply_delivered {r : EngineReply}
    (h : (Heartbeat.stripAck r.text plan.ackMaxChars).shouldSkip = false) :
    poll me ex (afterReply plan (.ok r)) =
      (if ex.shared.bus.closed then ex
        else Delivery.published ex
          (.outbound (deliveryOf plan r (Heartbeat.stripAck r.text plan.ackMaxChars).text)),
        .pure (.ok (.delivered (deliveryOf plan r (Heartbeat.stripAck r.text plan.ackMaxChars).text)))) := by
  simp only [afterReply, h, Bool.false_eq_true, if_false]
  rw [poll_bind, Delivery.poll_publish]
  by_cases hc : ex.shared.bus.closed = true
  · simp only [hc, if_true]
    rfl
  · simp only [hc, Bool.false_eq_true, if_false]
    rfl

/-! ## (2) The delivered message -/

/-- Filling in the reply's metadata keeps every key already set, and gives a new key the first
value the reply has for it. -/
theorem lookupField_foldl_keep (k : String) (fs acc : Metadata) :
    Json.lookupField k (fs.foldl (fun acc (k, v) =>
        if (Json.lookupField k acc).isSome then acc else Json.insertField k v acc) acc) =
      (Json.lookupField k acc).or ((fs.find? (·.1 == k)).map (·.2)) := by
  -- The induction carries the fields set so far in `acc`.
  induction fs generalizing acc with
  | nil => simp
  | cons f fs ih =>
    obtain ⟨k', v⟩ := f
    rw [List.foldl_cons, ih]
    by_cases hk : k' = k
    · subst hk
      cases hl : Json.lookupField k' acc with
      | none => simp [hl]
      | some w => simp [hl]
    · -- Another key: neither the step nor the reply's first value for `k` changes.
      have hk' : (k' == k) = false := by simpa using hk
      have hsame : Json.lookupField k (if (Json.lookupField k' acc).isSome then acc
          else Json.insertField k' v acc) = Json.lookupField k acc := by
        split
        · rfl
        · exact Json.lookupField_insertField_of_ne (Ne.symm hk) v acc
      simp only [hsame, List.find?_cons, hk']

/-- **The delivery of a reply:** to the delivery target, with the given text and the reply's
media; its metadata has `heartbeat: true`, which no key of the reply overrides, and every other
key the reply gives, with the first value the reply gives it. -/
theorem deliveryOf_spec (r : EngineReply) (text : String) :
    (deliveryOf plan r text).channel = plan.target.channel ∧
      (deliveryOf plan r text).chatId = plan.target.chatId ∧
      (deliveryOf plan r text).content = text ∧ (deliveryOf plan r text).media = r.media ∧
      ∀ k, Json.lookupField k (deliveryOf plan r text).metadata =
        if k = "heartbeat" then some (.bool true) else (r.metadata.find? (·.1 == k)).map (·.2) := by
  refine ⟨rfl, rfl, rfl, rfl, fun k => ?_⟩
  simp only [deliveryOf, OutboundMessage.withMetadata, lookupField_foldl_keep,
    Json.lookupField_insertField]
  split
  · rfl
  · rfl

/-! ## (3) The whole -/

/-- **One heartbeat,** for every plan and every answer of the engine, run by task `me`:
* outside the active window, read on the deployment's wall clock in the plan's zone, it ends in
  its first poll, without asking the engine and without changing anything;
* inside it, it asks the engine with a message to the delivery target from `heartbeat`, whose
  content is the plan's prompt, the prompt resolved from its settings, and whose metadata is
  `heartbeat: true` alone; the engine's own work publishes nothing and reports nothing;
* an engine error is the heartbeat's result, and nothing is published;
* a reply is suppressed exactly when nothing is left of it once stripped, or when it contains the
  token and what is left has at most the plan's limit of characters; it then ends the heartbeat,
  and nothing is published;
* any other reply is published once, on an open bus, and is the heartbeat's result: to the
  delivery target, with what is left of the reply, trimmed and not empty, as content, the reply's
  media, and the reply's metadata with `heartbeat: true`, which no key of the reply overrides. -/
theorem heartbeat_tick (plan : HeartbeatPlan) (me : Nat) :
    (∀ ex : Exec, plan.window.contains (ex.shared.wallClock.minuteOf plan.zone ex.now).val = false →
      poll me ex (tick plan) = (ex, .pure (.ok .outsideActiveHours))) ∧
    (∀ ex : Exec, plan.window.contains (ex.shared.wallClock.minuteOf plan.zone ex.now).val = true →
      poll me ex (tick plan) =
        poll me ex ((Reasoning.process (prompt plan)).bind (afterReply plan))) ∧
    ((prompt plan).channel = plan.target.channel ∧ (prompt plan).chatId = plan.target.chatId ∧
      (prompt plan).senderId = "heartbeat" ∧ (prompt plan).content = plan.prompt ∧
      (prompt plan).metadata = [("heartbeat", .bool true)]) ∧
    (∀ s, HeartbeatPlan.ofSettings s = .ok plan →
      plan.prompt = Heartbeat.resolvePrompt s.prompt ∧ plan.ackMaxChars = s.ackMaxChars ∧
        s.deliverTo = some plan.target) ∧
    (∀ p, Runs me (Reasoning.process (prompt plan)) p → ∀ ex : Exec, Silent ex (poll me ex p).1) ∧
    (∀ (e : String) (ex : Exec), poll me ex (afterReply plan (.error e)) = (ex, .pure (.error e))) ∧
    (∀ r : EngineReply, (Heartbeat.stripAck r.text plan.ackMaxChars).shouldSkip = true ↔
      (Heartbeat.stripAck r.text plan.ackMaxChars).text = "" ∨
        (Heartbeat.ackToken.toList <:+: r.text.toList ∧
          (Heartbeat.stripAck r.text plan.ackMaxChars).text.length ≤ plan.ackMaxChars)) ∧
    (∀ (r : EngineReply) (ex : Exec), (Heartbeat.stripAck r.text plan.ackMaxChars).shouldSkip = true →
      poll me ex (afterReply plan (.ok r)) = (ex, .pure (.ok .suppressed))) ∧
    (∀ (r : EngineReply) (ex : Exec),
      (Heartbeat.stripAck r.text plan.ackMaxChars).shouldSkip = false →
      poll me ex (afterReply plan (.ok r)) =
        (if ex.shared.bus.closed then ex
          else Delivery.published ex
            (.outbound (deliveryOf plan r (Heartbeat.stripAck r.text plan.ackMaxChars).text)),
          .pure (.ok (.delivered
            (deliveryOf plan r (Heartbeat.stripAck r.text plan.ackMaxChars).text))))) ∧
    (∀ r : EngineReply, (Heartbeat.stripAck r.text plan.ackMaxChars).shouldSkip = false →
      (Heartbeat.stripAck r.text plan.ackMaxChars).text ≠ "" ∧
        Text.trim (Heartbeat.stripAck r.text plan.ackMaxChars).text =
          (Heartbeat.stripAck r.text plan.ackMaxChars).text) ∧
    (∀ (r : EngineReply) (text : String),
      (deliveryOf plan r text).channel = plan.target.channel ∧
        (deliveryOf plan r text).chatId = plan.target.chatId ∧
        (deliveryOf plan r text).content = text ∧ (deliveryOf plan r text).media = r.media ∧
        ∀ k, Json.lookupField k (deliveryOf plan r text).metadata =
          if k = "heartbeat" then some (.bool true)
          else (r.metadata.find? (·.1 == k)).map (·.2)) :=
  ⟨fun ex => poll_tick_outside me ex plan, fun ex => poll_tick_inside me ex plan, prompt_spec plan,
    fun _ => HeartbeatPlan.ofSettings_ok, fun _ => Reasoning.poll_silent,
    fun e ex => poll_afterReply_error me ex plan e,
    fun r => Heartbeat.shouldSkip_iff r.text plan.ackMaxChars,
    fun _ ex => poll_afterReply_suppressed me ex plan, fun _ ex => poll_afterReply_delivered me ex plan,
    fun r h => ⟨Heartbeat.text_ne_of_shouldSkip_false h, Heartbeat.trim_text r.text plan.ackMaxChars⟩,
    deliveryOf_spec plan⟩

end Heartbeats

end ChatGateway
