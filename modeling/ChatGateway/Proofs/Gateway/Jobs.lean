import ChatGateway.Proofs.Gateway.Routine

/-! # The work of every task

Beyond routine work, three parts of the gateway change the state its guarantees are about: the
dispatcher of a publish starts handler tasks and records them, the responder of chats in order
takes and gives back a chat's lock, and starting or stopping the gateway moves its lifecycle,
subscribes and unsubscribes, starts and stops channels and services. Each has its frame here,
an extension of `Routine`, and its programs are `Within` it. A guarantee about one part treats
that part's programs by hand and every other program through its frame.

* `Delivery.dispatch_within`, `Handlers.run_within`, `Lifecycle.start_within`,
  `Lifecycle.stop_within`, `Job.gatewayStart_within`: none of these programs panics.
-/

namespace ChatGateway

open Scheduling Scheduling.Executor

variable {A : Exec → Exec → Prop} {me : Nat}

/-! ## The dispatcher -/

/-- **A frame that also admits the dispatcher's work:** starting a handler task and recording it
under its dispatch. -/
structure Dispatching (A : Exec → Exec → Prop) (me : Nat) : Prop extends Routine A me where
  spawnHandler : ∀ ex h e, A ex (ex.spawnTask (.handle h e)).1
  record : ∀ ex n t, A ex { ex with shared := Delivery.record n t ex.shared }

/-- **The dispatcher never panics.** -/
theorem Delivery.dispatch_within (hA : Dispatching A me) {panics : Bool} (n : Nat)
    (handlers : List Subscription) (e : BusEvent) :
    Program.Within A me panics (Delivery.dispatch n handlers e) := by
  unfold Delivery.dispatch
  refine Program.Within.forM handlers fun h _ => ?_
  simp only [Program.bind_def]
  refine (Program.Within.fork _ fun ex => hA.spawnHandler ex h e).bind fun task => ?_
  refine (Program.Within.modify fun ex => hA.record ex n task).bind fun _ => ?_
  exact .started _ _ fun u => .pure u

/-! ## The chat locks -/

/-- **A frame that also admits the chat locks:** taking a place on a chat's lock, asking for its
mutex, releasing the mutex and giving up the place. -/
structure Locking (A : Exec → Exec → Prop) (me : Nat) : Prop extends Routine A me where
  acquire : ∀ ex set key, A ex { ex with shared := (Handlers.acquire set key ex.shared).1 }
  lock : ∀ ex m, A ex (ex.lockAttempt me m)
  unlock : ∀ ex m, A ex (ex.release m)
  release : ∀ ex set key, A ex { ex with shared := Handlers.release set key ex.shared }

/-- **The responder's handler never panics,** with chat locks or without: a panic of the engine
is caught inside its answer. -/
theorem Handlers.handle_responder_within (hA : Locking A me) {panics : Bool} (locks : Option Nat)
    (m : InboundMessage) :
    Program.Within A me panics (Handlers.handle (.responder locks) (.inbound m)) := by
  unfold Handlers.handle
  simp only [Program.bind_def, Program.pure_def]
  cases locks with
  | none => exact (Handlers.respond_within hA.toRoutine m).bind fun _ => .pure _
  | some set =>
    refine (Program.Within.update fun ex => hA.acquire ex set m.sessionKey).bind fun mutex => ?_
    refine (Program.Within.lock _ _ _ (fun ex => hA.lock ex mutex) fun u => .pure u).bind
      fun _ => ?_
    refine (Handlers.respond_within hA.toRoutine m).bind fun _ => ?_
    refine (Program.Within.unlock _ _ (fun ex => hA.unlock ex mutex) fun u => .pure u).bind
      fun _ => ?_
    exact (Program.Within.modify fun ex => hA.release ex set m.sessionKey).bind fun _ => .pure _

/-- **Every handler**, the responder of chats in order included, may panic only as a scripted
handler does. -/
theorem Handlers.handle_within_locking (hA : Locking A me) (s : Subscriber) (e : BusEvent) :
    Program.Within A me true (Handlers.handle s e) := by
  cases hs : Handlers.locking s e with
  | false => exact Handlers.handle_within hA.toRoutine s e hs
  | true =>
    -- Only the responder of chats in order on an inbound message takes a lock.
    match s, e, hs with
    | .responder (some set), .inbound m, _ => exact Handlers.handle_responder_within hA (some set) m

/-- **A handler task never panics.** -/
theorem Handlers.run_within (hA : Locking A me) {panics : Bool} (h : Subscription)
    (e : BusEvent) : Program.Within A me panics (Handlers.run h e) :=
  Handlers.run_within_of_handle hA.toRoutine h e (Handlers.handle_within_locking hA _ e)

/-! ## Starting and stopping the gateway -/

namespace Lifecycle

/-- **The first half of a lifecycle call over the channels of a deployment:** the channels not at
`target` moved to `status` and called; the calls. -/
def channelsCalled (target status : ChannelStatus)
    (f : MemoryChannel → MemoryChannel × Except String Unit) (delay : MemoryChannel → Nat)
    (d : Deployment) : Deployment × List (String × Nat × Except String Unit) :=
  let (channels, calls) := d.channels.callAll target status f delay
  ({ d with channels }, calls)

/-- **The answers of the calls,** each once its channel's delay has passed, awaited side by side. -/
def awaitAnswers (calls : List (String × Nat × Except String Unit)) :
    Act (List (String × Except String Unit)) :=
  Scheduling.Program.all (calls.map fun (name, ms, r) =>
    (Scheduling.Program.sleep ms).bind fun _ => .pure (name, r))

/-- **The second half:** the answers recorded, with their incidents; the report. -/
def channelsSettled (ok : Option ChannelStatus) (incident : String → String → Incident)
    (answers : List (String × Except String Unit)) (d : Deployment) : Deployment × LifecycleReport :=
  let (channels, report, incidents) := d.channels.settleAll ok incident answers
  (incidents.foldl Deployment.observe { d with channels }, report)

theorem callChannels_eq (target status : ChannelStatus)
    (f : MemoryChannel → MemoryChannel × Except String Unit) (delay : MemoryChannel → Nat)
    (ok : Option ChannelStatus) (incident : String → String → Incident) :
    callChannels target status f delay ok incident =
      (Scheduling.Program.update (channelsCalled target status f delay)).bind fun calls =>
        (awaitAnswers calls).bind fun answers =>
          Scheduling.Program.update (channelsSettled ok incident answers) := rfl

end Lifecycle

/-- **A frame that also admits the lifecycle's work:** its transitions, subscribing and
unsubscribing the responder and the router, calling the channels and recording their answers,
starting and stopping the services, and keeping the outcome of a background start. -/
structure Operating (A : Exec → Exec → Prop) (me : Nat) : Prop extends Routine A me where
  beginStart : ∀ ex, A ex { ex with shared := (Lifecycle.beginStart ex.shared).1 }
  finishStart : ∀ ex, A ex { ex with shared := (Lifecycle.finishStart ex.shared).1 }
  requestStop : ∀ ex, A ex { ex with shared := (Lifecycle.requestStop ex.shared).1 }
  shutDown : ∀ ex, A ex { ex with shared := Lifecycle.shutDown ex.shared }
  adapterUp : ∀ ex, A ex (poll me ex Lifecycle.startAdapter).1
  adapterDown : ∀ ex, A ex (poll me ex Lifecycle.stopAdapter).1
  routerUp : ∀ ex, A ex (poll me ex Lifecycle.subscribeRouter).1
  routerDown : ∀ ex, A ex (poll me ex Lifecycle.unsubscribeRouter).1
  channelsCalled : ∀ ex target status f delay,
    A ex { ex with shared := (Lifecycle.channelsCalled target status f delay ex.shared).1 }
  channelsSettled : ∀ ex ok incident answers,
    A ex { ex with shared := (Lifecycle.channelsSettled ok incident answers ex.shared).1 }
  cronStart : ∀ ex, A ex { ex with shared := (Lifecycle.countCronStart ex.shared).1 }
  cronStop : ∀ ex, A ex { ex with shared := (Lifecycle.countCronStop ex.shared).1 }
  heartbeatStart : ∀ ex, A ex (poll me ex Heartbeats.start).1
  heartbeatStop : ∀ ex, A ex (poll me ex Heartbeats.stop).1
  keepStart : ∀ ex r, A ex { ex with shared := Deployment.keepStart r ex.shared }

namespace Lifecycle

/-- **A service's start or stop, and its report,** never panic. -/
theorem serviceStep_within (hA : Operating A me) {panics : Bool} (action : String)
    (s : Service) (f : Service → Act (Except String Unit))
    (hf : ∀ {β : Type} (k : Except String Unit → Act β),
      (∀ r, Program.Within A me panics (k r)) → Program.Within A me panics ((f s).bind k)) :
    Program.Within A me panics (serviceStep action s f) := by
  unfold serviceStep
  simp only [Program.bind_def, Program.pure_def]
  refine hf _ fun r => ?_
  cases r with
  | ok u => exact .pure _
  | error e => exact hA.write (.observe fun _ => _)

/-- Starting a service: the heartbeat's start is one step, the cron service sleeps its delay. -/
theorem startService_within (hA : Operating A me) {panics : Bool} {β : Type} (s : Service)
    {k : Except String Unit → Act β} (hk : ∀ r, Program.Within A me panics (k r)) :
    Program.Within A me panics ((startService s).bind k) := by
  cases s with
  | heartbeat =>
    refine .call Heartbeats.start k (fun ex => ?_) hk
    have h := hA.heartbeatStart ex
    rw [Heartbeats.poll_start] at h ⊢
    split
    · exact ⟨_, rfl, by rwa [if_pos ‹_›] at h⟩
    · split
      · exact ⟨_, rfl, by rwa [if_neg ‹_›, if_pos ‹_›] at h⟩
      · exact ⟨_, rfl, by rwa [if_neg ‹_›, if_neg ‹_›] at h⟩
  | cron =>
    unfold startService
    simp only [Program.bind_def, Program.pure_def]
    rw [Program.bind_assoc]
    refine (Program.Within.update fun ex => hA.cronStart ex).bind fun c => ?_
    cases c with
    | none => exact hk _
    | some c =>
      rw [Program.bind_assoc]
      exact (hA.sleep _).bind fun _ => hk _

/-- Stopping a service: the heartbeat's stop is one step, the cron service sleeps its delay. -/
theorem stopService_within (hA : Operating A me) {panics : Bool} {β : Type} (s : Service)
    {k : Except String Unit → Act β} (hk : ∀ r, Program.Within A me panics (k r)) :
    Program.Within A me panics ((stopService s).bind k) := by
  cases s with
  | heartbeat =>
    refine .call Heartbeats.stop k (fun ex => ?_) hk
    rw [Heartbeats.poll_stop]
    have h := hA.heartbeatStop ex
    rw [Heartbeats.poll_stop] at h
    exact ⟨_, rfl, h⟩
  | cron =>
    unfold stopService
    simp only [Program.bind_def, Program.pure_def]
    rw [Program.bind_assoc]
    refine (Program.Within.update fun ex => hA.cronStop ex).bind fun c => ?_
    cases c with
    | none => exact hk _
    | some c =>
      rw [Program.bind_assoc]
      exact (hA.sleep _).bind fun _ => hk _

/-- A single update of the lifecycle, admitted as one step. -/
theorem call_update {β γ : Type} {q : Act β} (hA : ∀ ex, A ex (poll me ex q).1)
    {panics : Bool} (hq : ∃ f : Deployment → Deployment × β, q = Scheduling.Program.update f)
    {k : β → Act γ} (hk : ∀ b, Program.Within A me panics (k b)) :
    Program.Within A me panics (q.bind k) := by
  obtain ⟨f, rfl⟩ := hq
  exact .call _ k (fun ex => ⟨_, rfl, hA ex⟩) hk

/-- **Awaiting the channels' answers** only sleeps. -/
theorem awaitAnswers_within (hA : Routine A me) {panics : Bool}
    (calls : List (String × Nat × Except String Unit)) :
    Program.Within A me panics (awaitAnswers calls) := by
  refine Program.Within.all _ fun p hp => ?_
  obtain ⟨⟨name, ms, r⟩, -, rfl⟩ := List.mem_map.1 hp
  exact (hA.sleep ms).bind fun _ => .pure _

/-- **A lifecycle call over the channels never panics:** it calls them, waits for their answers
and records them. -/
theorem callChannels_within (hA : Operating A me) {panics : Bool} (target status : ChannelStatus)
    (f : MemoryChannel → MemoryChannel × Except String Unit) (delay : MemoryChannel → Nat)
    (ok : Option ChannelStatus) (incident : String → String → Incident) :
    Program.Within A me panics (callChannels target status f delay ok incident) := by
  rw [callChannels_eq]
  refine (Program.Within.update fun ex => hA.channelsCalled ex target status f delay).bind
    fun calls => ?_
  exact (awaitAnswers_within hA.toRoutine calls).bind fun answers =>
    Program.Within.update fun ex => hA.channelsSettled ex ok incident answers

/-- Starting the channels: the router, then the calls. -/
theorem startChannels_within (hA : Operating A me) {panics : Bool} :
    Program.Within A me panics startChannels :=
  call_update hA.routerUp ⟨fun _ => (_, ()), rfl⟩ fun _ => callChannels_within hA _ _ _ _ _ _

/-- Stopping the channels: the router, then the calls. -/
theorem stopChannels_within (hA : Operating A me) {panics : Bool} :
    Program.Within A me panics stopChannels :=
  call_update hA.routerDown ⟨fun _ => (_, ()), rfl⟩ fun _ => callChannels_within hA _ _ _ _ _ _

/-- **Stopping the gateway never panics.** -/
theorem stop_within (hA : Operating A me) {panics : Bool} :
    Program.Within A me panics stop := by
  unfold stop
  simp only [Program.bind_def, Program.pure_def]
  refine (Program.Within.update fun ex => hA.requestStop ex).bind fun go => ?_
  split
  · refine (hA.read _).bind fun ss => ?_
    refine (Program.Within.forM _ fun s _ =>
      serviceStep_within hA _ s _ fun k hk => stopService_within hA s hk).bind fun _ => ?_
    refine (stopChannels_within hA).bind fun _ => ?_
    refine call_update hA.adapterDown ⟨fun d => (_, ()), rfl⟩ fun _ => ?_
    exact Program.Within.modify fun ex => hA.shutDown ex
  · exact .pure _

/-- **Starting the gateway never panics.** -/
theorem start_within (hA : Operating A me) {panics : Bool} :
    Program.Within A me panics start := by
  unfold start
  simp only [Program.bind_def, Program.pure_def]
  refine (Program.Within.update fun ex => hA.beginStart ex).bind fun early => ?_
  cases early with
  | some r => exact .pure _
  | none =>
    refine call_update hA.adapterUp ⟨fun d => (_, ()), rfl⟩ fun _ => ?_
    refine (startChannels_within hA).bind fun _ => ?_
    refine (hA.read _).bind fun ss => ?_
    refine (Program.Within.forM _ fun s _ =>
      serviceStep_within hA _ s _ fun k hk => startService_within hA s hk).bind fun _ => ?_
    refine (Program.Within.update fun ex => hA.finishStart ex).bind fun requested => ?_
    -- A stop requested while starting runs now.
    split
    · exact (stop_within hA).bind fun _ => .pure _
    · exact .pure _

end Lifecycle

/-- **A background start never panics;** its outcome is kept. -/
theorem Job.gatewayStart_within (hA : Operating A me) {panics : Bool} :
    Program.Within A me panics (Job.program .gatewayStart) := by
  simp only [Job.program, Program.bind_def]
  exact (Lifecycle.start_within hA).bind fun r => .modify fun ex => hA.keepStart ex r

end ChatGateway
