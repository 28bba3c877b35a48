import ChatGateway.Proofs.Bus.Registry
import ChatGateway.Proofs.Channel.Registry

/-! # Routing outbound messages to channels

While the channels run, the manager's router is subscribed to outbound events and hands each
outbound message to the channel the message names. This file says what one delivery to the router
does, and that across registrations, starts and stops the bus holds at most one router
subscription, the one the manager keeps, and none once the channels are stopped.

* `Handlers.deliverTo`: a channel entry after a message is sent to the channel it names.
* `Handlers.route_sent`, `Handlers.route_send_failed`, `Handlers.route_unregistered`: a routed
  message reaches the channel of its name by one send, and a failed send or a missing channel is
  one incident.
* `Handlers.poll_run_router`: a router's handler task ends in its first poll, counted a success.
* `Deployment.RoutersHeld`: every router subscription on the bus is the manager's own, which every
  channel call keeps (`Deployment.RoutersHeld.afterChannels`).
* `Handlers.outbound_routing`: after any sequence of channel calls, the delivery of an outbound
  message and the router subscriptions behave so.
-/

namespace ChatGateway

open Scheduling Scheduling.Executor

namespace Handlers

/-! ## (1) One routed message -/

/-- A channel entry after the message `m` is sent to the channel of its name: that channel is sent
`m` once; any other entry stays as it is. -/
def deliverTo (m : OutboundMessage) (e : ChannelEntry) : ChannelEntry :=
  if e.channel.name = m.channel then { e with channel := (e.channel.send m).1 } else e

/-- With distinct names, the channel of a message's name is rewritten by `route` as `deliverTo`
says, the other entries being kept. -/
theorem modifyChannel_send {d : Deployment} (hd : d.channels.Ascending) {m : OutboundMessage}
    {e : ChannelEntry} (he : e ∈ d.channels.entries) (hn : e.channel.name = m.channel) :
    (d.channels.modifyChannel m.channel fun _ => (e.channel.send m).1) =
      { d.channels with entries := d.channels.entries.map (deliverTo m) } := by
  have hnodup : (d.channels.entries.map (·.channel.name)).Nodup := hd.imp ne_of_lt
  unfold ChannelManager.modifyChannel
  congr 1
  refine List.map_congr_left fun e' he' => ?_
  unfold deliverTo
  by_cases hn' : e'.channel.name = m.channel
  · -- With distinct names the entry of the message's channel is `e` itself.
    have hsame : e' = e := List.inj_on_of_nodup_map hnodup he' he (hn'.trans hn.symm)
    subst hsame
    simp [hn']
  · simp [hn']

/-- The entry a message's channel name finds, with that name. -/
theorem entry?_spec {cm : ChannelManager} {n : String} {e : ChannelEntry}
    (h : cm.entry? n = some e) : e ∈ cm.entries ∧ e.channel.name = n := by
  unfold ChannelManager.entry? at h
  exact ⟨List.mem_of_find?_eq_some h, by simpa using List.find?_some h⟩

/-- A registered name finds its entry, the only one of that name. -/
theorem entry?_of_mem {cm : ChannelManager} (hd : cm.Ascending) {e : ChannelEntry}
    (he : e ∈ cm.entries) : cm.entry? e.channel.name = some e := by
  cases hf : cm.entry? e.channel.name with
  | none =>
    unfold ChannelManager.entry? at hf
    exact absurd (List.find?_eq_none.1 hf e he) (by simp)
  | some e' =>
    obtain ⟨he', hn⟩ := entry?_spec hf
    have hnodup : (cm.entries.map (·.channel.name)).Nodup := hd.imp ne_of_lt
    rw [List.inj_on_of_nodup_map hnodup he' he hn]

/-- **A message sent without error** reaches the channel of its name, once, whatever its status,
and changes nothing else. -/
theorem route_sent {d : Deployment} (hd : d.channels.Ascending) {m : OutboundMessage}
    {e : ChannelEntry} (he : e ∈ d.channels.entries) (hn : e.channel.name = m.channel)
    (hok : (e.channel.send m).2 = .ok ()) :
    route m d = { d with channels := { d.channels with entries := d.channels.entries.map (deliverTo m) } } := by
  have hentry := entry?_of_mem hd he
  rw [hn] at hentry
  rw [← modifyChannel_send hd he hn]
  unfold route
  rw [hentry]
  dsimp only
  rcases hs : e.channel.send m with ⟨c, r⟩
  rw [hs] at hok
  cases hok
  rfl

/-- **A failed send** still goes through the channel of the message's name, once, and is one
`sendFailed` incident with the channel, the chat and the error. -/
theorem route_send_failed {d : Deployment} (hd : d.channels.Ascending) {m : OutboundMessage}
    {e : ChannelEntry} (he : e ∈ d.channels.entries) (hn : e.channel.name = m.channel)
    {err : String} (herr : (e.channel.send m).2 = .error err) :
    route m d = { d with channels := { d.channels with entries := d.channels.entries.map (deliverTo m) } }.observe
      (.sendFailed m.channel m.chatId err) := by
  have hentry := entry?_of_mem hd he
  rw [hn] at hentry
  rw [← modifyChannel_send hd he hn]
  unfold route
  rw [hentry]
  dsimp only
  rcases hs : e.channel.send m with ⟨c, r⟩
  rw [hs] at herr
  cases herr
  rfl

/-- **A message naming no registered channel** is one `unroutable` incident, and nothing is sent. -/
theorem route_unregistered {d : Deployment} {m : OutboundMessage} (h : m.channel ∉ d.channels.names) :
    route m d = d.observe (.unroutable m.channel m.chatId) := by
  cases hf : d.channels.entry? m.channel with
  | none =>
    unfold route
    rw [hf]
  | some e =>
    obtain ⟨he, hn⟩ := entry?_spec hf
    exact absurd (hn ▸ List.mem_map_of_mem he) h

/-- Reporting an incident changes only the incidents. -/
theorem observe_eq (d : Deployment) (i : Incident) : ∃ incidents, d.observe i = { d with incidents } := by
  unfold Deployment.observe
  split
  · exact ⟨_, rfl⟩
  · exact ⟨d.incidents, rfl⟩

/-- **Routing changes only the channels and the incidents.** -/
theorem route_eq (m : OutboundMessage) (d : Deployment) :
    ∃ channels incidents, route m d = { d with channels, incidents } := by
  unfold route
  split
  · obtain ⟨incidents, h⟩ := observe_eq d (.unroutable m.channel m.chatId)
    exact ⟨d.channels, incidents, h⟩
  · rename_i e _
    rcases e.channel.send m with ⟨c, r⟩
    dsimp only
    split
    · exact ⟨_, d.incidents, rfl⟩
    · rename_i err
      obtain ⟨incidents, h⟩ := observe_eq { d with channels := d.channels.modifyChannel m.channel fun _ => c }
        (.sendFailed m.channel m.chatId err)
      exact ⟨_, incidents, h⟩

theorem route_bus (m : OutboundMessage) (d : Deployment) : (route m d).bus = d.bus := by
  obtain ⟨channels, incidents, h⟩ := route_eq m d
  rw [h]

/-! ## (2) The router's handler task -/

theorem poll_handle_router_outbound (me : Nat) (ex : Executor Job Deployment) (m : OutboundMessage) :
    poll me ex (handle .router (.outbound m)) = ({ ex with shared := route m ex.shared }, .pure (.ok ())) :=
  rfl

theorem poll_handle_router_inbound (me : Nat) (ex : Executor Job Deployment) (m : InboundMessage) :
    poll me ex (handle .router (.inbound m)) = (ex, .pure (.ok ())) :=
  rfl

/-- **A router's handler task ends in its first poll,** having routed an outbound message (an
inbound one it leaves alone), and is counted a success of its subscription, with no time spent:
the router never fails and never waits. -/
theorem poll_run_router (me : Nat) (ex : Executor Job Deployment) {h : Subscription}
    (hr : h.subscriber = .router) (m : OutboundMessage) :
    poll me ex (run h (.outbound m)) =
      ({ ex with shared := { route m ex.shared with bus := ex.shared.bus.recordCall h.id true ⟨0, 0⟩ } },
        .pure ()) := by
  have hpoll := poll_handle_router_outbound me ex m
  rw [poll_run, hr, poll_runFrom_pure h _ _ (by rw [hpoll]), hpoll]
  dsimp only [report]
  rw [route_bus, Nat.sub_self]
  rfl

theorem poll_run_router_inbound (me : Nat) (ex : Executor Job Deployment) {h : Subscription}
    (hr : h.subscriber = .router) (m : InboundMessage) :
    poll me ex (run h (.inbound m)) =
      ({ ex with shared := { ex.shared with bus := ex.shared.bus.recordCall h.id true ⟨0, 0⟩ } },
        .pure ()) := by
  have hpoll := poll_handle_router_inbound me ex m
  rw [poll_run, hr, poll_runFrom_pure h _ _ (by rw [hpoll]), hpoll, Nat.sub_self]
  rfl

end Handlers

/-! ## (3) The router subscriptions -/

namespace Subscriber

/-- Whether a subscriber is the router. -/
def isRouter : Subscriber → Bool
  | .router => true
  | _ => false

theorem isRouter_iff {s : Subscriber} : s.isRouter = true ↔ s = .router := by
  cases s <;> simp [isRouter]

end Subscriber

/-- The router subscriptions of a bus. -/
def Bus.routers (b : Bus) : List Subscription := b.subscriptions.filter (·.subscriber.isRouter)

theorem Bus.mem_routers {b : Bus} {s : Subscription} :
    s ∈ b.routers ↔ s ∈ b.subscriptions ∧ s.subscriber = .router := by
  simp [Bus.routers, Subscriber.isRouter_iff]

namespace Deployment

/-- **Every router subscription of the bus is the manager's:** the bus keeps its ids in increasing
order, all below its counter, and every subscription of the router is on the outbound topic under
the id the manager keeps. -/
structure RoutersHeld (d : Deployment) : Prop where
  ascending : (d.bus.subscriptions.map (·.id)).Pairwise (· < ·)
  below : ∀ s ∈ d.bus.subscriptions, s.id < d.bus.nextId
  held : ∀ s ∈ d.bus.routers, s.topic = .outbound ∧ d.channels.router = some s.id

namespace RoutersHeld

variable {d : Deployment}

/-- Only the bus and the manager's router id matter. -/
theorem congr (h : d.RoutersHeld) {d' : Deployment} (hb : d'.bus = d.bus)
    (hr : d'.channels.router = d.channels.router) : d'.RoutersHeld where
  ascending := hb ▸ h.ascending
  below := hb ▸ h.below
  held s hs := hr ▸ h.held s (hb ▸ hs)

/-- **At most one router is subscribed:** all have the manager's id, and ids are distinct. -/
theorem routers_length_le_one (h : d.RoutersHeld) : d.bus.routers.length ≤ 1 := by
  have hasc : (d.bus.routers.map (·.id)).Pairwise (· < ·) :=
    h.ascending.sublist (List.filter_sublist.map _)
  match hl : d.bus.routers, hasc with
  | [], _ => exact Nat.zero_le _
  | [_], _ => exact le_refl _
  | s :: s' :: _, hasc =>
    -- Two router subscriptions would both have the manager's id, yet ids increase.
    have hs := (h.held s (by rw [hl]; exact List.mem_cons_self)).2
    have hs' := (h.held s' (by rw [hl]; exact List.mem_cons_of_mem _ List.mem_cons_self)).2
    have hlt : s.id < s'.id := List.rel_of_pairwise_cons hasc (List.mem_cons_self)
    exact absurd (Option.some.inj (hs.symm.trans hs')) (ne_of_lt hlt)

/-- Without a router id, no router is subscribed. -/
theorem routers_eq_nil (h : d.RoutersHeld) (hr : d.channels.router = none) : d.bus.routers = [] :=
  List.eq_nil_iff_forall_not_mem.2 fun s hs => by
    have := (h.held s hs).2
    rw [hr] at this
    simp at this

theorem routerUp_of_none (hr : d.channels.router = none) :
    Lifecycle.routerUp d =
      { d with bus := (d.bus.subscribe .outbound .router).1,
               channels := { d.channels with router := some d.bus.nextId } } := by
  rw [← Bus.subscribe_snd d.bus .outbound .router]
  unfold Lifecycle.routerUp
  rw [hr]

/-- **Subscribing the router** when the manager has none adds the manager's one subscription. -/
theorem routerUp (h : d.RoutersHeld) : (Lifecycle.routerUp d).RoutersHeld := by
  cases hr : d.channels.router with
  | some id =>
    unfold Lifecycle.routerUp
    rw [hr]
    exact h
  | none =>
    have hnone := h.routers_eq_nil hr
    rw [routerUp_of_none hr]
    refine ⟨Bus.ascending_subscribe _ _ h.ascending h.below, Bus.below_subscribe _ _ h.below,
      fun s hs => ?_⟩
    -- The only router subscription is the new one: the manager had none before.
    obtain ⟨hs, hrouter⟩ := Bus.mem_routers.1 hs
    rcases Bus.mem_subscribe d.bus _ _ hs with hold | rfl
    · have := Bus.mem_routers.2 ⟨hold, hrouter⟩
      rw [hnone] at this
      exact absurd this List.not_mem_nil
    · exact ⟨rfl, rfl⟩

/-- **Unsubscribing the router** leaves no router subscribed. -/
theorem routers_routerDown (h : d.RoutersHeld) : (Lifecycle.routerDown d).bus.routers = [] := by
  unfold Lifecycle.routerDown
  split
  · rename_i id hr
    refine List.eq_nil_iff_forall_not_mem.2 fun s hs => ?_
    obtain ⟨hs, hrouter⟩ := Bus.mem_routers.1 hs
    -- A router subscription left would be the manager's, which was just dropped.
    simp only [Bus.unsubscribe, List.mem_filter] at hs
    obtain ⟨hs, hkept⟩ := hs
    obtain ⟨htopic, hid⟩ := h.held s (Bus.mem_routers.2 ⟨hs, hrouter⟩)
    rw [hr] at hid
    simp [htopic, Option.some.inj hid] at hkept
  · rename_i hr
    exact h.routers_eq_nil hr

theorem routerDown (h : d.RoutersHeld) : (Lifecycle.routerDown d).RoutersHeld := by
  have hsub : (Lifecycle.routerDown d).bus.subscriptions.Sublist d.bus.subscriptions := by
    unfold Lifecycle.routerDown
    split
    · exact Bus.unsubscribe_sublist _ _ _
    · exact List.Sublist.refl _
  have hnext : (Lifecycle.routerDown d).bus.nextId = d.bus.nextId := by
    unfold Lifecycle.routerDown
    split <;> rfl
  refine ⟨h.ascending.sublist (hsub.map _), fun s hs => hnext ▸ h.below s (hsub.subset hs),
    fun s hs => ?_⟩
  rw [h.routers_routerDown] at hs
  exact absurd hs List.not_mem_nil

/-- Starting or stopping the channels keeps the bus and the router id. -/
theorem channelsStarted (h : d.RoutersHeld) : (Lifecycle.channelsStarted d).RoutersHeld := by
  obtain ⟨entries, incidents, heq⟩ := Lifecycle.channelsStarted_eq d
  exact h.congr (by rw [heq]) (by rw [heq])

theorem channelsStopped (h : d.RoutersHeld) : (Lifecycle.channelsStopped d).RoutersHeld := by
  obtain ⟨entries, incidents, heq⟩ := Lifecycle.channelsStopped_eq d
  exact h.congr (by rw [heq]) (by rw [heq])

end RoutersHeld

/-- **A deployment after a channel call,** as a scenario makes it: a registration changes the
manager only, and a start or a stop of all channels subscribes or unsubscribes the router too. -/
def afterChannels (d : Deployment) : ChannelCall → Deployment
  | .register c => { d with channels := d.channels.after (.register c) }
  | .startAll => (Lifecycle.channelsUp d).1
  | .stopAll => (Lifecycle.channelsDown d).1

/-- **Every channel call keeps the router subscriptions the manager's.** -/
theorem RoutersHeld.afterChannels {d : Deployment} (h : d.RoutersHeld) (call : ChannelCall) :
    (d.afterChannels call).RoutersHeld := by
  cases call with
  | register c =>
    refine h.congr rfl ?_
    simp only [Deployment.afterChannels, ChannelManager.after]
    split <;> rename_i heq
    · -- A registration keeps the router id.
      by_cases hc : c.name ∈ d.channels.names
      · rw [ChannelManager.register_taken hc] at heq
        exact absurd heq (by simp)
      · rw [ChannelManager.register_fresh hc] at heq
        cases heq
        rfl
    · rfl
  | startAll =>
    simp only [Deployment.afterChannels, Lifecycle.channelsUp_fst]
    exact h.routerUp.channelsStarted
  | stopAll =>
    simp only [Deployment.afterChannels, Lifecycle.channelsDown_fst]
    exact h.routerDown.channelsStopped

/-- **Every channel call keeps the names ascending.** -/
theorem ascending_afterChannels {d : Deployment} (h : d.channels.Ascending) (call : ChannelCall) :
    (d.afterChannels call).channels.Ascending := by
  cases call with
  | register c => exact ChannelManager.ascending_after h (.register c)
  | startAll =>
    have hs := ChannelManager.ascending_after h .startAll
    unfold ChannelManager.Ascending ChannelManager.names at hs ⊢
    rw [afterChannels, (Lifecycle.channelsUp_channels d h.nodup).1]
    exact hs
  | stopAll =>
    have hs := ChannelManager.ascending_after h .stopAll
    unfold ChannelManager.Ascending ChannelManager.names at hs ⊢
    rw [afterChannels, (Lifecycle.channelsDown_channels d h.nodup).1]
    exact hs

theorem afterChannels_foldl {d : Deployment} (h : d.RoutersHeld) (hd : d.channels.Ascending)
    (calls : List ChannelCall) :
    (calls.foldl afterChannels d).RoutersHeld ∧ (calls.foldl afterChannels d).channels.Ascending := by
  induction calls generalizing d with
  | nil => exact ⟨h, hd⟩
  | cons call calls ih => exact ih (h.afterChannels call) (ascending_afterChannels hd call)

end Deployment

namespace Handlers

/-- **Outbound routing, across channel calls.** Start from a deployment `d₀` whose router
subscriptions are its manager's and whose channel names are ascending, such as a fresh one, and
make any sequence of registrations, starts and stops of all channels. Then, for any outbound
message `m`:
* routing `m` sends it, once, to the registered channel of its name, whatever that channel's
  status, and leaves every other channel alone; a failed send is one `sendFailed` incident with the
  channel, the chat and the error; a message naming no registered channel is one `unroutable`
  incident with the channel and the chat, and sends nothing;
* the router's handler task ends in its first poll and is counted a success of its subscription,
  with no incident of its own;
* at most one router is subscribed on the bus, on the outbound topic under the id the manager
  keeps, and none once the channels are stopped. -/
theorem outbound_routing (d₀ : Deployment) (h₀ : d₀.RoutersHeld) (hd₀ : d₀.channels.Ascending)
    (calls : List ChannelCall) (m : OutboundMessage) :
    let d := calls.foldl Deployment.afterChannels d₀
    (∀ e ∈ d.channels.entries, e.channel.name = m.channel →
      ((e.channel.send m).2 = .ok () →
        route m d = { d with channels := { d.channels with entries := d.channels.entries.map (deliverTo m) } }) ∧
      (∀ err, (e.channel.send m).2 = .error err →
        route m d = { d with channels := { d.channels with entries := d.channels.entries.map (deliverTo m) } }.observe
          (.sendFailed m.channel m.chatId err))) ∧
    (m.channel ∉ d.channels.names → route m d = d.observe (.unroutable m.channel m.chatId)) ∧
    (∀ (me : Nat) (ex : Executor Job Deployment) (h : Subscription), h.subscriber = .router →
      poll me ex (run h (.outbound m)) =
        ({ ex with shared := { route m ex.shared with bus := ex.shared.bus.recordCall h.id true ⟨0, 0⟩ } },
          .pure ())) ∧
    d.bus.routers.length ≤ 1 ∧
    (∀ s ∈ d.bus.routers, s.topic = .outbound ∧ d.channels.router = some s.id) ∧
    (Lifecycle.channelsDown d).1.bus.routers = [] := by
  intro d
  obtain ⟨h, hd⟩ := Deployment.afterChannels_foldl h₀ hd₀ calls
  refine ⟨fun e he hn => ⟨route_sent hd he hn, fun _ herr => route_send_failed hd he hn herr⟩,
    route_unregistered, fun me ex _ hr => poll_run_router me ex hr m, h.routers_length_le_one,
    h.held, ?_⟩
  -- Stopping the channels unsubscribes the router first; stopping them keeps the bus.
  obtain ⟨entries, incidents, heq⟩ := Lifecycle.channelsStopped_eq (Lifecycle.routerDown d)
  rw [Lifecycle.channelsDown_fst, heq]
  exact h.routers_routerDown

/-- A fresh deployment holds no router subscription and no channel. -/
theorem routersHeld_default : ({} : Deployment).RoutersHeld where
  ascending := List.Pairwise.nil
  below _ hs := absurd hs List.not_mem_nil
  held _ hs := absurd hs List.not_mem_nil

/-- A fresh deployment, one channel registered and started: a message to it is delivered to that
channel's send, and nothing else changes. -/
theorem outbound_routing_fresh :
    let d := [ChannelCall.register { name := "slack" }, .startAll].foldl Deployment.afterChannels {}
    let m : OutboundMessage := { channel := "slack", chatId := "C1", content := "hi" }
    ({} : Deployment).RoutersHeld ∧ ({} : Deployment).channels.Ascending ∧
      ∃ e ∈ d.channels.entries, e.channel.name = m.channel ∧ (e.channel.send m).2 = .ok () ∧
        route m d = { d with channels := { d.channels with entries := d.channels.entries.map (deliverTo m) } } := by
  intro d m
  have h := outbound_routing {} routersHeld_default List.Pairwise.nil
    [ChannelCall.register { name := "slack" }, .startAll] m
  -- The one entry is the started `slack` channel.
  have hentries : d.channels.entries =
      [{ channel := { name := "slack", starts := 1, running := true }, status := .running }] := rfl
  have he : ({ channel := { name := "slack", starts := 1, running := true }, status := .running } :
      ChannelEntry) ∈ d.channels.entries := by
    rw [hentries]
    exact List.mem_singleton_self _
  exact ⟨routersHeld_default, List.Pairwise.nil, _, he, rfl, rfl, (h.1 _ he rfl).1 rfl⟩

end Handlers

end ChatGateway
