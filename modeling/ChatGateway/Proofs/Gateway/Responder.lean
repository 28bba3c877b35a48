import ChatGateway.Proofs.Scheduling.Residual
import ChatGateway.Proofs.ChatLocks.Shapes
import ChatGateway.Proofs.Subagent.Origin

/-! # The responder's reply

The responder answers each inbound message with one outbound message to the same chat. It asks
the reasoning engine inside a panic boundary, makes the reply out of the engine's reply, its error
or its panic, publishes the reply and waits until it has been handled. This file says what the
reply is for every outcome of the engine, that the engine's own work publishes nothing and reports
nothing, that the reply is then published once with nothing after it but waiting, and that the
responder's handler task ends only as a success in the bus's statistics.

* `Handlers.RepliesTo`: a reply to the message's chat that refers to it and has something to
  deliver; `Handlers.replyFor` is one for every outcome of the engine.
* `Silent`, `Reasoning.process_silent`, `Reasoning.poll_silent`: every poll of the engine's work
  leaves the bus, the incidents and the dispatch counter alone.
* `Handlers.afterEngine`, `Handlers.runs_respond`: a run of the answer is a run of the engine,
  then of what follows its outcome (`Handlers.poll_afterEngine_ok`,
  `Handlers.poll_afterEngine_panic`).
* `Handlers.responder_ends_ok`, `Handlers.runs_run`, `Handlers.poll_runFrom_responder`: the
  handler never panics and ends only with success, which its task records as such.
* `Handlers.responder_reply`: the whole.
-/

namespace ChatGateway

open Scheduling Scheduling.Executor Scheduling.Program

namespace Handlers

/-! ## (1) The reply for each outcome of the engine -/

/-- **A reply to the message `m`:** to its channel and chat, referring to its id, with text or
media to deliver. -/
structure RepliesTo (m : InboundMessage) (r : OutboundMessage) : Prop where
  channel : r.channel = m.channel
  chatId : r.chatId = m.chatId
  inReplyTo : r.inReplyTo = m.messageId
  deliverable : r.isDeliverable = true

/-- **An error reply** says `Error: ` and the error, with no media and the one metadata key
`error` set to true. -/
theorem errorReply_spec (m : InboundMessage) (e : String) :
    RepliesTo m (errorReply m e) ∧ (errorReply m e).content = "Error: " ++ e ∧
      (errorReply m e).media = [] ∧ (errorReply m e).metadata = [("error", .bool true)] := by
  refine ⟨⟨rfl, rfl, rfl, ?_⟩, rfl, rfl, rfl⟩
  simp [errorReply, OutboundMessage.withMetadata, OutboundMessage.reply,
    OutboundMessage.isDeliverable]

/-- **An engine reply with text or media** is delivered as it is: its text, its media, and the
object its metadata makes, where a key has the last value the reply gives it. -/
theorem answerOf_of_deliverable (m : InboundMessage) {r : EngineReply}
    (h : r.text ≠ "" ∨ r.media ≠ []) :
    RepliesTo m (answerOf m (.ok r)) ∧ (answerOf m (.ok r)).content = r.text ∧
      (answerOf m (.ok r)).media = r.media ∧
      Json.obj (answerOf m (.ok r)).metadata = Json.object r.metadata := by
  unfold answerOf
  dsimp only
  split
  · rename_i hd
    exact ⟨⟨rfl, rfl, rfl, hd⟩, rfl, rfl, rfl⟩
  · -- A reply with text or media has something to deliver.
    rename_i hnd
    simp only [OutboundMessage.isDeliverable, OutboundMessage.withMedia, OutboundMessage.reply,
      Bool.or_eq_true, Bool.not_eq_true', String.isEmpty_iff, List.isEmpty_iff, not_or,
      Bool.not_eq_false] at hnd
    rcases h with h | h
    · exact absurd hnd.1 (by simpa using h)
    · exact absurd hnd.2 (by simpa using h)

/-- **An engine reply with neither text nor media** becomes the error reply that says so. -/
theorem answerOf_empty (m : InboundMessage) {r : EngineReply} (ht : r.text = "") (hm : r.media = []) :
    answerOf m (.ok r) = errorReply m "the reasoning engine returned an empty reply" := by
  unfold answerOf
  dsimp only
  rw [if_neg (by simp [OutboundMessage.isDeliverable, OutboundMessage.withMedia,
    OutboundMessage.reply, ht, hm])]
  rfl

/-- **The reply the responder publishes** for the message `m`, from the outcome of the engine:
its reply or its error, or the text of its panic. -/
def replyFor (m : InboundMessage) : Except String (Except String EngineReply) → OutboundMessage
  | .ok r => answerOf m r
  | .error p => errorReply m ("reasoning engine panicked: " ++ p)

/-- **Every outcome of the engine is answered** by a reply to the message's chat. -/
theorem replyFor_repliesTo (m : InboundMessage) (o : Except String (Except String EngineReply)) :
    RepliesTo m (replyFor m o) := by
  rcases o with p | e | r
  · exact (errorReply_spec m _).1
  · exact (errorReply_spec m _).1
  · by_cases h : r.text ≠ "" ∨ r.media ≠ []
    · exact (answerOf_of_deliverable m h).1
    · simp only [ne_eq, not_or, not_not] at h
      show RepliesTo m (answerOf m (.ok r))
      rw [answerOf_empty m h.1 h.2]
      exact (errorReply_spec m _).1

/-! ## (2) The engine's work is silent -/

end Handlers

/-- **A step that leaves the bus, the incidents and the dispatch counter alone:** it subscribes
nothing, reports no incident and publishes nothing. -/
def Silent (ex ex' : Exec) : Prop :=
  ex'.shared.bus = ex.shared.bus ∧ ex'.shared.incidents = ex.shared.incidents ∧
    ex'.shared.nextDispatch = ex.shared.nextDispatch

namespace Silent

/-- The engine's steps are silent. -/
theorem reasons (me : Nat) : Reasons Silent me where
  stay _ := ⟨rfl, rfl, rfl⟩
  timer _ _ := ⟨rfl, rfl, rfl⟩
  see _ _ := ⟨rfl, rfl, rfl⟩
  logCall _ _ _ := ⟨rfl, rfl, rfl⟩
  spawned _ _ _ _ _ := ⟨rfl, rfl, rfl⟩

/-- Silent steps one after another are silent. -/
theorem of_reach {ex ex' : Exec} (h : Relation.ReflTransGen Silent ex ex') : Silent ex ex' := by
  induction h with
  | refl => exact ⟨rfl, rfl, rfl⟩
  | tail _ hstep ih => exact ⟨hstep.1.trans ih.1, hstep.2.1.trans ih.2.1, hstep.2.2.trans ih.2.2⟩

end Silent

/-- **The engine's work is silent:** answering a message, whatever the engine, the model and the
tools do, publishes nothing, reports no incident and leaves the bus alone. -/
theorem Reasoning.process_silent (m : InboundMessage) (me : Nat) :
    Program.Within Silent me true (Reasoning.process m) :=
  Reasoning.process_within (Silent.reasons me) m

/-- **Every poll of the engine's work is silent,** wherever its runs have brought it. -/
theorem Reasoning.poll_silent {m : InboundMessage} {me : Nat} {p : Act (Except String EngineReply)}
    (hp : Runs me (Reasoning.process m) p) (ex : Exec) : Silent ex (poll me ex p).1 :=
  Silent.of_reach (((Reasoning.process_silent m me).runs hp).poll_spec ex).1

namespace Handlers

/-! ## (3) What follows the engine -/

/-- **What the responder does once the engine has ended** with `outcome`: note a panic, publish
the reply, and wait until it has been handled. -/
def afterEngine (m : InboundMessage) (outcome : Except String (Except String EngineReply)) :
    Act Unit := do
  let out ← match outcome with
    | .ok r => Pure.pure (answerOf m r)
    | .error p => do
      Scheduling.Program.modify (·.observe (.handlerPanicked .inbound (Subscriber.responder none).name))
      Pure.pure (errorReply m ("reasoning engine panicked: " ++ p))
  let delivery ← Delivery.publish (.outbound out)
  delivery.settled

/-- The answer is the engine's work inside a panic boundary, then what follows its outcome. -/
theorem respond_eq (m : InboundMessage) :
    respond m = .guard (Reasoning.process m) (afterEngine m) :=
  rfl

/-- **How the engine's work ended** in a run of task `me`: with a value, or with a panic. -/
inductive EngineEnded (me : Nat) (m : InboundMessage) :
    Except String (Except String EngineReply) → Prop
  | value {v : Except String EngineReply} :
      Runs me (Reasoning.process m) (.pure v) → EngineEnded me m (.ok v)
  | panic {p : String} : Runs me (Reasoning.process m) (.panic p) → EngineEnded me m (.error p)

/-- **A run of the answer** is a run of the engine's work, or, once that has ended, a run of what
follows its outcome. -/
theorem runs_respond {me : Nat} {m : InboundMessage} {q : Act Unit} (h : Runs me (respond m) q) :
    (∃ p, Runs me (Reasoning.process m) p ∧ q = .guard p (afterEngine m)) ∨
      ∃ o, EngineEnded me m o ∧ Runs me (afterEngine m o) q := by
  rw [respond_eq] at h
  rcases h.guard_cases with hrun | ⟨v, hv, hk⟩ | ⟨p, hp, hk⟩
  · exact .inl hrun
  · exact .inr ⟨_, .value hv, hk⟩
  · exact .inr ⟨_, .panic hp, hk⟩

/-- **After a reply or an error of the engine**, on an open bus, one poll publishes the reply and
goes on only waiting for it. -/
theorem poll_afterEngine_ok (me : Nat) (ex : Exec) (m : InboundMessage)
    (r : Except String EngineReply) (hopen : ex.shared.bus.closed = false) :
    ∃ rest, poll me ex (afterEngine m (.ok r)) =
        poll me (Delivery.published ex (.outbound (replyFor m (.ok r)))) rest ∧
      Program.Within (· = · : Exec → Exec → Prop) me false rest := by
  have hstart : poll me ex (afterEngine m (.ok r)) =
      poll me ex ((Delivery.publish (.outbound (replyFor m (.ok r)))).bind fun d => d.settled) :=
    rfl
  rw [hstart, poll_bind, Delivery.poll_publish, if_neg (by simp [hopen])]
  exact ⟨_, rfl, Subagents.settled_within_eq me _⟩

/-- **After a panic of the engine**, on an open bus, one poll reports the panic as one
`handlerPanicked` incident of the responder, `bus-adapter`, on the inbound topic, then publishes
the reply and goes on only waiting for it. -/
theorem poll_afterEngine_panic (me : Nat) (ex : Exec) (m : InboundMessage) (p : String)
    (hopen : ex.shared.bus.closed = false) :
    ∃ rest, poll me ex (afterEngine m (.error p)) =
        poll me (Delivery.published
          { ex with shared := ex.shared.observe (.handlerPanicked .inbound "bus-adapter") }
          (.outbound (replyFor m (.error p)))) rest ∧
      Program.Within (· = · : Exec → Exec → Prop) me false rest := by
  have hbus : (ex.shared.observe (.handlerPanicked .inbound "bus-adapter")).bus = ex.shared.bus := by
    unfold Deployment.observe
    split <;> rfl
  have hstart : poll me ex (afterEngine m (.error p)) =
      poll me { ex with shared := ex.shared.observe (.handlerPanicked .inbound "bus-adapter") }
        ((Delivery.publish (.outbound (replyFor m (.error p)))).bind fun d => d.settled) :=
    rfl
  rw [hstart, poll_bind, Delivery.poll_publish, if_neg (by simp [hbus, hopen])]
  exact ⟨_, rfl, Subagents.settled_within_eq me _⟩

/-! ## (4) The responder's handler task -/

/-- The frame that admits every step. -/
theorem locking_any (me : Nat) : Locking (fun _ _ => True : Exec → Exec → Prop) me :=
  ⟨⟨fun _ => trivial, fun _ _ => trivial, fun _ => trivial, fun _ => trivial, fun _ _ _ => trivial,
    fun _ _ _ _ _ => trivial, fun _ _ => trivial⟩, fun _ _ _ => trivial, fun _ _ => trivial,
    fun _ _ => trivial, fun _ _ _ => trivial⟩

/-- The responder's handler is its answer, with chat locks or without, then success. -/
theorem handle_responder_eq (locks : Option Nat) (m : InboundMessage) :
    ∃ p : Act Unit, handle (.responder locks) (.inbound m) = p.bind fun _ => .pure (.ok ()) := by
  cases locks with
  | none => exact ⟨respond m, rfl⟩
  | some set =>
    refine ⟨(update (acquire set m.sessionKey)).bind fun mutex =>
      (Program.lock mutex none .pure).bind fun _ => (respond m).bind fun _ =>
        (Program.unlock mutex .pure).bind fun _ => Scheduling.Program.modify (release set m.sessionKey),
      ?_⟩
    simp only [handle, Program.bind_def, Program.pure_def, Program.bind_assoc]
    rfl

/-- **The responder's handler ends only with success:** it never panics, and a value it ends
with is `ok`. -/
theorem responder_ends_ok {me : Nat} {locks : Option Nat} {m : InboundMessage}
    {q : Act (Except String Unit)} (h : Runs me (handle (.responder locks) (.inbound m)) q) :
    (∀ p, q ≠ .panic p) ∧ ∀ r, q = .pure r → r = .ok () := by
  refine ⟨fun p hq => ?_, fun r hq => ?_⟩
  · -- What is left of a handler that never panics is never a panic.
    have hw : Program.Within (fun _ _ => True : Exec → Exec → Prop) me false q :=
      (handle_responder_within (locking_any me) locks m).runs h
    exact absurd (hw.eq_true_of_panic { launch := fun _ => .pure (), shared := {} } hq)
      Bool.false_ne_true
  · obtain ⟨p, hp⟩ := handle_responder_eq locks m
    rw [hp, hq] at h
    obtain ⟨_, _, hk⟩ := h.bind_pure
    cases Runs.of_pure hk
    rfl

/-- **A poll of a handler task inside its panic boundary** ends it, or leaves it there with what
the poll left of its handler. -/
theorem poll_runFrom_runs {me : Nat} {h : Subscription} {e : BusEvent} {start : Nat}
    {inner : Act (Except String Unit)} (hi : Runs me (handle h.subscriber e) inner) (ex : Exec) :
    (poll me ex (runFrom h e start inner)).2 = .pure () ∨ ∃ inner', Runs me (handle h.subscriber e) inner' ∧
      (poll me ex (runFrom h e start inner)).2 = runFrom h e start inner' := by
  rw [poll_runFrom]
  rcases hpoll : poll me ex inner with ⟨ex', q'⟩
  -- The handler ended, or it goes on from what the poll left of it.
  cases q'
  all_goals first
    | exact .inl rfl
    | exact .inr ⟨_, hi.tail ⟨ex, by rw [hpoll]⟩, rfl⟩

/-- **A handler task is its handler inside the panic boundary** from its first poll until it has
ended. -/
theorem runs_run {me : Nat} {h : Subscription} {e : BusEvent} {q : Act Unit} (hq : Runs me (run h e) q) :
    q = run h e ∨ q = .pure () ∨
      ∃ start inner, Runs me (handle h.subscriber e) inner ∧ q = runFrom h e start inner := by
  induction hq with
  | refl => exact .inl rfl
  | tail _ hstep ih =>
    obtain ⟨ex, rfl⟩ := hstep
    rcases ih with rfl | rfl | ⟨start, inner, hi, rfl⟩
    · -- The first poll reads the clock and runs the handler from the start.
      rw [poll_run]
      rcases poll_runFrom_runs .refl ex with hp | ⟨inner', hi', hp⟩
      · exact .inr (.inl hp)
      · exact .inr (.inr ⟨_, inner', hi', hp⟩)
    · exact .inr (.inl rfl)
    · rcases poll_runFrom_runs hi ex with hp | ⟨inner', hi', hp⟩
      · exact .inr (.inl hp)
      · exact .inr (.inr ⟨start, inner', hi', hp⟩)

/-- **A poll that ends the responder's handler records a success** of its subscription, and
nothing else on top of the handler's own steps. -/
theorem poll_runFrom_responder {me : Nat} {h : Subscription} {locks : Option Nat}
    (hs : h.subscriber = .responder locks) {m : InboundMessage} {start : Nat}
    {inner : Act (Except String Unit)} (hin : Runs me (handle h.subscriber (.inbound m)) inner)
    (ex : Exec) {r : Except String Unit} (hr : (poll me ex inner).2 = .pure r) :
    poll me ex (runFrom h (.inbound m) start inner) =
      ({ (poll me ex inner).1 with shared := { (poll me ex inner).1.shared with
          bus := (poll me ex inner).1.shared.bus.recordCall h.id true
            (Duration.ofMillis ((poll me ex inner).1.now - start)) } }, .pure ()) := by
  rw [hs] at hin
  have hok := (responder_ends_ok (hin.tail ⟨ex, hr⟩)).2 r rfl
  subst hok
  rw [poll_runFrom_pure h _ _ hr]
  rfl

/-! ## (5) The whole -/

/-- **The responder's reply.** For an inbound message `m`, answered by task `me`:
* whatever the engine's outcome, the reply goes to `m`'s channel and chat, refers to `m`'s id and
  has something to deliver;
* an engine reply with text or media is delivered as it is, with its text, its media and exactly
  its metadata; one with neither becomes `Error: the reasoning engine returned an empty reply`;
  an engine error `e` becomes `Error: e`; a panic `p` becomes
  `Error: reasoning engine panicked: p`; and every error reply has no media and the metadata
  `error: true` alone;
* every poll of the engine's work, wherever its runs have brought it, publishes nothing, reports
  no incident and leaves the bus alone;
* every run of the answer is a run of the engine, or, once that has ended with a value or a
  panic, a run of what follows; and what follows, on an open bus, publishes the reply in one poll,
  a panic having been reported first as one `handlerPanicked` incident of `bus-adapter` on the
  inbound topic, and then only waits;
* the handler task, with chat locks or without, is its handler from its first poll until it
  ends, the handler never panics, and the poll that ends it records a success of its
  subscription, with the time since that first poll. -/
theorem responder_reply (m : InboundMessage) (me : Nat) :
    (∀ o, RepliesTo m (replyFor m o)) ∧
    (∀ r : EngineReply, r.text ≠ "" ∨ r.media ≠ [] →
      (replyFor m (.ok (.ok r))).content = r.text ∧ (replyFor m (.ok (.ok r))).media = r.media ∧
      Json.obj (replyFor m (.ok (.ok r))).metadata = Json.object r.metadata ∧
      ∀ k, Json.lookupField k (replyFor m (.ok (.ok r))).metadata =
        (r.metadata.reverse.find? (·.1 == k)).map (·.2)) ∧
    (∀ r : EngineReply, r.text = "" → r.media = [] →
      replyFor m (.ok (.ok r)) = errorReply m "the reasoning engine returned an empty reply") ∧
    (∀ e, replyFor m (.ok (.error e)) = errorReply m e) ∧
    (∀ p, replyFor m (.error p) = errorReply m ("reasoning engine panicked: " ++ p)) ∧
    (∀ e, (errorReply m e).content = "Error: " ++ e ∧ (errorReply m e).media = [] ∧
      (errorReply m e).metadata = [("error", .bool true)]) ∧
    (∀ p, Runs me (Reasoning.process m) p → ∀ ex : Exec, Silent ex (poll me ex p).1) ∧
    (∀ q, Runs me (respond m) q →
      (∃ p, Runs me (Reasoning.process m) p ∧ q = .guard p (afterEngine m)) ∨
        ∃ o, EngineEnded me m o ∧ Runs me (afterEngine m o) q) ∧
    (∀ (r : Except String EngineReply) (ex : Exec), ex.shared.bus.closed = false →
      ∃ rest, poll me ex (afterEngine m (.ok r)) =
          poll me (Delivery.published ex (.outbound (replyFor m (.ok r)))) rest ∧
        Program.Within (· = · : Exec → Exec → Prop) me false rest) ∧
    (∀ (p : String) (ex : Exec), ex.shared.bus.closed = false →
      ∃ rest, poll me ex (afterEngine m (.error p)) =
          poll me (Delivery.published
            { ex with shared := ex.shared.observe (.handlerPanicked .inbound "bus-adapter") }
            (.outbound (replyFor m (.error p)))) rest ∧
        Program.Within (· = · : Exec → Exec → Prop) me false rest) ∧
    (∀ (h : Subscription) (locks : Option Nat) (q : Act Unit), h.subscriber = .responder locks →
      Runs me (run h (.inbound m)) q →
      q = run h (.inbound m) ∨ q = .pure () ∨
        ∃ start inner, Runs me (handle h.subscriber (.inbound m)) inner ∧
        q = runFrom h (.inbound m) start inner ∧
        ∀ ex : Exec, (∀ p, (poll me ex inner).2 ≠ .panic p) ∧
          ∀ r, (poll me ex inner).2 = .pure r →
            poll me ex (runFrom h (.inbound m) start inner) =
              ({ (poll me ex inner).1 with shared := { (poll me ex inner).1.shared with
                  bus := (poll me ex inner).1.shared.bus.recordCall h.id true
                    (Duration.ofMillis ((poll me ex inner).1.now - start)) } }, .pure ())) := by
  refine ⟨replyFor_repliesTo m, fun r hr => ?_, fun r ht hm => answerOf_empty m ht hm,
    fun _ => rfl, fun _ => rfl, fun e => (errorReply_spec m e).2, fun _ => Reasoning.poll_silent,
    fun _ => runs_respond, fun r ex hopen => poll_afterEngine_ok me ex m r hopen,
    fun p ex hopen => poll_afterEngine_panic me ex m p hopen, fun h locks q hs hq => ?_⟩
  · -- The metadata object answers every key with the last value the engine gives it.
    obtain ⟨-, hcontent, hmedia, hobj⟩ := answerOf_of_deliverable m hr
    refine ⟨hcontent, hmedia, hobj, fun k => ?_⟩
    have hget := Json.get?_object r.metadata k
    rw [← hobj] at hget
    exact hget
  · rcases runs_run hq with rfl | rfl | ⟨start, inner, hin, rfl⟩
    · exact .inl rfl
    · exact .inr (.inl rfl)
    refine .inr (.inr ⟨start, inner, hin, rfl, fun ex => ⟨fun p hp => ?_, fun r hr => ?_⟩⟩)
    · rw [hs] at hin
      exact (responder_ends_ok (hin.tail ⟨ex, rfl⟩)).1 p hp
    · exact poll_runFrom_responder hs hin ex hr

end Handlers

end ChatGateway
