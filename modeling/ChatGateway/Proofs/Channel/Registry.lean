import Mathlib.Data.List.Forall2
import Mathlib.Data.String.Basic
import ChatGateway.Proofs.Lifecycle.Stages

/-! # The channel registry, call after call

The channel manager keeps its channels in ascending order of names, one channel a name: a
registration refuses a name that is taken and inserts the new channel in its place otherwise, and a
start or a stop of all channels calls each channel that is not already at the call's target, once.
This file follows the manager through any sequence of registrations, starts and stops, each done
before the next.

* `ChannelManager.Ascending`: the names strictly ascending, which every call keeps
  (`ChannelManager.ascending_after`).
* `ChannelManager.register_taken`, `ChannelManager.register_fresh`: a registration.
* `ChannelManager.callUnless`: a call over every channel not at a target; on distinct names a
  start and a stop of all channels, every answer in, are its two instances
  (`ChannelManager.startAll_fold`, `ChannelManager.stopAll_fold`).
* `ChannelManager.Called`, `ChannelManager.transitionAll_called`: what such a call does to each
  channel, the report it gives and the incidents it raises.
* `ChannelCall`, `ChannelManager.after`: the calls and the manager each leaves behind.
* `Lifecycle.channelsUp`, `Lifecycle.channelsDown`: the channels' half of a start or a stop of a
  deployment, every answer in, which the program leaves once its channels have all answered
  (`Lifecycle.channelsUp_of_runs`).
* `ChannelManager.lifecycle_calls_in_sequence`: after any sequence of calls, the next one behaves so.
-/

namespace ChatGateway

namespace ChannelManager

/-- **The registered names are strictly ascending,** so no name is registered twice. -/
def Ascending (m : ChannelManager) : Prop := m.names.Pairwise (· < ·)

theorem Ascending.nodup {m : ChannelManager} (hm : m.Ascending) : m.names.Nodup :=
  hm.imp ne_of_lt

/-! ## (1) Registering a channel -/

theorem mem_insertEntry {x e : ChannelEntry} {l : List ChannelEntry} :
    e ∈ insertEntry x l ↔ e = x ∨ e ∈ l := by
  induction l with
  | nil => simp [insertEntry]
  | cons f rest ih =>
    unfold insertEntry
    split
    · exact List.mem_cons
    · simp only [List.mem_cons, ih]
      exact or_left_comm

/-- An entry inserted under a fresh name keeps the names strictly ascending. -/
theorem ascending_insertEntry {x : ChannelEntry} {l : List ChannelEntry}
    (h : (l.map (·.channel.name)).Pairwise (· < ·)) (hx : x.channel.name ∉ l.map (·.channel.name)) :
    ((insertEntry x l).map (·.channel.name)).Pairwise (· < ·) := by
  induction l with
  | nil => simp [insertEntry]
  | cons f rest ih =>
    rw [List.map_cons, List.pairwise_cons] at h
    obtain ⟨hf, hrest⟩ := h
    have hf' : ∀ e ∈ rest, f.channel.name < e.channel.name := fun e he => hf _ (List.mem_map_of_mem he)
    have hxf : x.channel.name ≠ f.channel.name := fun heq => hx (heq ▸ List.mem_cons_self)
    have hxrest : x.channel.name ∉ rest.map (·.channel.name) := fun h => hx (List.mem_cons_of_mem _ h)
    unfold insertEntry
    split
    · -- The new name is the least.
      rename_i hlt
      simp only [List.map_cons, List.pairwise_cons, List.mem_cons, List.mem_map]
      refine ⟨?_, ⟨?_, hrest⟩⟩
      · rintro _ (rfl | ⟨e, he, rfl⟩)
        · exact hlt
        · exact lt_trans hlt (hf' e he)
      · rintro _ ⟨e, he, rfl⟩
        exact hf' e he
    · -- The new name goes after the head, being neither below it nor equal to it.
      rename_i hnlt
      have hfx : f.channel.name < x.channel.name := lt_of_le_of_ne (not_lt.1 hnlt) (Ne.symm hxf)
      simp only [List.map_cons, List.pairwise_cons, List.mem_map]
      refine ⟨?_, ih hrest hxrest⟩
      rintro _ ⟨e, he, rfl⟩
      rcases mem_insertEntry.1 he with rfl | he
      · exact hfx
      · exact hf' e he

theorem any_name_iff (m : ChannelManager) (n : String) :
    m.entries.any (·.channel.name == n) = true ↔ n ∈ m.names := by
  simp only [names, List.any_eq_true, beq_iff_eq, List.mem_map]

/-- **A taken name is refused,** naming the channel. -/
theorem register_taken {m : ChannelManager} {c : MemoryChannel} (h : c.name ∈ m.names) :
    m.register c = .error (.duplicateChannel c.name) := by
  unfold register
  rw [if_pos ((any_name_iff m c.name).2 h)]

/-- **A fresh name is registered,** the new channel not started and put in its place by name. -/
theorem register_fresh {m : ChannelManager} {c : MemoryChannel} (h : c.name ∉ m.names) :
    m.register c = .ok { m with entries := insertEntry { channel := c } m.entries } := by
  unfold register
  rw [if_neg fun h' => h ((any_name_iff m c.name).1 h')]

/-! ## (2) The report of a call over every channel -/

/-- The name of an entry whose call succeeded. -/
def succeededName (t : Transition) (e : ChannelEntry) : Option String :=
  match (t e).2 with
  | some (.ok ()) => some e.channel.name
  | _ => none

/-- The name of an entry whose call failed, with the error. -/
def failedWith (t : Transition) (e : ChannelEntry) : Option (String × String) :=
  match (t e).2 with
  | some (.error err) => some (e.channel.name, err)
  | _ => none

/-- **The report of a call over every channel** lists the succeeded names and the failed names
with their errors, each in the order of the entries, and then sorts both. -/
theorem transitionAll_report (m : ChannelManager) (t : Transition)
    (incident : String → String → Incident) :
    (m.transitionAll t incident).2.1 =
      LifecycleReport.sorted { succeeded := m.entries.filterMap (succeededName t),
                               failed := m.entries.filterMap (failedWith t) } := by
  unfold transitionAll
  extract_lets step
  -- The fold appends each entry's outcome to the report it carries.
  have hfold : ∀ (l : List ChannelEntry) (acc : List ChannelEntry × LifecycleReport × List Incident),
      (l.foldl step acc).2.1 = { succeeded := acc.2.1.succeeded ++ l.filterMap (succeededName t),
                                 failed := acc.2.1.failed ++ l.filterMap (failedWith t) } := by
    intro l
    induction l with
    | nil => intro acc; simp
    | cons e rest ih =>
      intro acc
      rw [List.foldl_cons, ih]
      obtain ⟨es, r, is⟩ := acc
      rcases h : t e with ⟨e', outcome⟩
      simp only [step, h]
      rcases outcome with _ | _ | _ <;> simp [succeededName, failedWith, h]
  have hr := hfold m.entries ([], {}, [])
  generalize List.foldl step ([], {}, []) m.entries = acc at hr ⊢
  obtain ⟨es, r, is⟩ := acc
  simp only [List.nil_append] at hr
  rw [← hr]

/-- Names picked out of the entries, one an entry at most, come in the entries' order. -/
theorem filterMap_sublist_names {f : ChannelEntry → Option String}
    (hf : ∀ e n, f e = some n → n = e.channel.name) (l : List ChannelEntry) :
    (l.filterMap f).Sublist (l.map (·.channel.name)) := by
  induction l with
  | nil => exact .slnil
  | cons e rest ih =>
    rw [List.filterMap_cons, List.map_cons]
    cases hfe : f e with
    | none => exact ih.cons _
    | some n => exact hf e n hfe ▸ ih.cons_cons _

/-- A list of names strictly ascending is left as it is by the report's sort. -/
theorem mergeSort_names {ns : List String} (h : ns.Pairwise (· < ·)) :
    ns.mergeSort (fun a b => decide (a ≤ b)) = ns :=
  List.mergeSort_of_pairwise (h.imp fun hab => decide_eq_true (le_of_lt hab))

/-- Failures with names strictly ascending are left as they are by the report's sort. -/
theorem mergeSort_failures {fs : List (String × String)} (h : (fs.map (·.1)).Pairwise (· < ·)) :
    fs.mergeSort LifecycleReport.pairLe = fs := by
  refine List.mergeSort_of_pairwise ((List.pairwise_map.1 h).imp fun hab => ?_)
  simp [LifecycleReport.pairLe, hab]

/-! ## (3) What a call over every channel does -/

/-- **What a call over every channel not at `target` did,** taking the manager `m` to `m'` with
`report` and `incidents`:
* each entry in turn is left alone when it is at the target, and otherwise holds the channel
  after one call, at the target when the call succeeded and `failed` when it failed;
* the allowlists and the router subscription are kept;
* the report's succeeded names are those of the channels called whose call succeeded, and its
  failures those of the channels called whose call failed, with the call's error;
* both lists are in strictly ascending order of names;
* the incidents are one a failure, in the same order. -/
structure Called (target : ChannelStatus) (call : MemoryChannel → MemoryChannel × Except String Unit)
    (incident : String → String → Incident) (m m' : ChannelManager) (report : LifecycleReport)
    (incidents : List Incident) : Prop where
  entries : List.Forall₂ (fun e e' =>
    (e.status = target ∧ e' = e) ∨
    (e.status ≠ target ∧ e'.channel = (call e.channel).1 ∧
      ((call e.channel).2 = .ok () → e'.status = target) ∧
      (∀ err, (call e.channel).2 = .error err → e'.status = .failed))) m.entries m'.entries
  allowFrom : m'.allowFrom = m.allowFrom
  router : m'.router = m.router
  succeeded : ∀ n, n ∈ report.succeeded ↔
    ∃ e ∈ m.entries, e.channel.name = n ∧ e.status ≠ target ∧ (call e.channel).2 = .ok ()
  failed : ∀ n err, (n, err) ∈ report.failed ↔
    ∃ e ∈ m.entries, e.channel.name = n ∧ e.status ≠ target ∧ (call e.channel).2 = .error err
  succeeded_sorted : report.succeeded.Pairwise (· < ·)
  failed_sorted : (report.failed.map (·.1)).Pairwise (· < ·)
  incidents_eq : incidents = report.failed.map fun f => incident f.1 f.2

section Call

variable {target : ChannelStatus} {call : MemoryChannel → MemoryChannel × Except String Unit}

theorem succeededName_callUnless {e : ChannelEntry} {n : String} :
    succeededName (callUnless target call) e = some n ↔
      e.channel.name = n ∧ e.status ≠ target ∧ (call e.channel).2 = .ok () := by
  unfold succeededName
  by_cases hs : e.status = target
  · simp [callUnless_at hs, hs]
  · rcases hc : call e.channel with ⟨c, _ | _⟩
    · simp [callUnless_error hs hc]
    · simp [callUnless_ok hs hc, hs]

theorem failedWith_callUnless {e : ChannelEntry} {n err : String} :
    failedWith (callUnless target call) e = some (n, err) ↔
      e.channel.name = n ∧ e.status ≠ target ∧ (call e.channel).2 = .error err := by
  unfold failedWith
  by_cases hs : e.status = target
  · simp [callUnless_at hs, hs]
  · rcases hc : call e.channel with ⟨c, _ | _⟩
    · simp [callUnless_error hs hc, hs]
    · simp [callUnless_ok hs hc]

/-- One entry through the call, as `Called.entries` has it. -/
theorem callUnless_entry (e : ChannelEntry) :
    (e.status = target ∧ (callUnless target call e).1 = e) ∨
    (e.status ≠ target ∧ (callUnless target call e).1.channel = (call e.channel).1 ∧
      ((call e.channel).2 = .ok () → (callUnless target call e).1.status = target) ∧
      (∀ err, (call e.channel).2 = .error err → (callUnless target call e).1.status = .failed)) := by
  by_cases hs : e.status = target
  · exact .inl ⟨hs, by rw [callUnless_at hs]⟩
  · right
    rcases hc : call e.channel with ⟨c, _ | _⟩
    · simp [callUnless_error hs hc, hs]
    · simp [callUnless_ok hs hc, hs]

/-- **A call over every channel not at `target` does what `Called` says,** when the names are
ascending. -/
theorem transitionAll_called (m : ChannelManager) (hm : m.Ascending)
    (incident : String → String → Incident) :
    let r := m.transitionAll (callUnless target call) incident
    Called target call incident m r.1 r.2.1 r.2.2 := by
  intro r
  obtain ⟨hm', his⟩ := transitionAll_spec m (callUnless target call) incident
  have hreport := transitionAll_report m (callUnless target call) incident
  -- Both lists pick names out of the ascending entries, so the sort leaves them as they are.
  have hsucc : (m.entries.filterMap (succeededName (callUnless target call))).Pairwise (· < ·) :=
    hm.sublist (filterMap_sublist_names (fun _ _ h => (succeededName_callUnless.1 h).1.symm) _)
  have hfail : ((m.entries.filterMap (failedWith (callUnless target call))).map (·.1)).Pairwise
      (· < ·) := by
    rw [List.map_filterMap]
    refine hm.sublist (filterMap_sublist_names (fun e n h => ?_) _)
    obtain ⟨⟨n', err⟩, hf, rfl⟩ := Option.map_eq_some_iff.1 h
    exact (failedWith_callUnless.1 hf).1.symm
  have hsorted : r.2.1 =
      { succeeded := m.entries.filterMap (succeededName (callUnless target call)),
        failed := m.entries.filterMap (failedWith (callUnless target call)) } := by
    rw [hreport, LifecycleReport.sorted, mergeSort_names hsucc, mergeSort_failures hfail]
  refine ⟨?_, by rw [hm'], by rw [hm'], fun n => ?_, fun n err => ?_, ?_, ?_, ?_⟩
  · rw [hm']
    exact List.forall₂_map_right_iff.2 (List.forall₂_same.2 fun e _ => callUnless_entry e)
  · simp only [hsorted, List.mem_filterMap, succeededName_callUnless]
  · simp only [hsorted, List.mem_filterMap, failedWith_callUnless]
  · rw [hsorted]
    exact hsucc
  · rw [hsorted]
    exact hfail
  · -- The incidents are the failures, entry by entry.
    rw [his, hsorted, List.map_filterMap]
    refine List.filterMap_congr fun e _ => ?_
    unfold failure failedWith
    rcases (callUnless target call e).2 with _ | _ | _ <;> rfl

/-- A call that keeps the channel's name keeps the names. -/
theorem names_transitionAll (m : ChannelManager) (incident : String → String → Incident)
    (hcall : ∀ c, (call c).1.name = c.name) :
    (m.transitionAll (callUnless target call) incident).1.names = m.names := by
  rw [(transitionAll_spec m _ incident).1, names, names, List.map_map]
  refine List.map_congr_left fun e _ => ?_
  rcases @callUnless_entry target call e with ⟨_, he⟩ | ⟨_, hc, _⟩
  · simp [he]
  · simp [hc, hcall]

end Call

/-! ## (4) Calls one after another -/

end ChannelManager

/-- **A call of the channel lifecycle.** -/
inductive ChannelCall where
  | register (c : MemoryChannel)
  | startAll
  | stopAll

namespace ChannelManager

/-- The manager after a call, the one before the next call sees; a refused registration leaves it
as it was. -/
def after (m : ChannelManager) : ChannelCall → ChannelManager
  | .register c =>
    match m.register c with
    | .ok m' => m'
    | .error _ => m
  | .startAll => m.startAll.1
  | .stopAll => m.stopAll.1

/-- **Every call keeps the names ascending.** -/
theorem ascending_after {m : ChannelManager} (hm : m.Ascending) (call : ChannelCall) :
    (m.after call).Ascending := by
  cases call with
  | register c =>
    by_cases hc : c.name ∈ m.names
    · simp only [after, register_taken hc]
      exact hm
    · simp only [after, register_fresh hc]
      exact ascending_insertEntry hm hc
  | startAll =>
    simp only [after, Ascending]
    rw [startAll_fold m hm.nodup, names_transitionAll m _ MemoryChannel.start_name]
    exact hm
  | stopAll =>
    simp only [after, Ascending]
    rw [stopAll_fold m hm.nodup, names_transitionAll m _ MemoryChannel.stop_name]
    exact hm

/-- Calls one after another keep the names ascending. -/
theorem ascending_foldl_after {m : ChannelManager} (hm : m.Ascending) (calls : List ChannelCall) :
    (calls.foldl after m).Ascending := by
  induction calls generalizing m with
  | nil => exact hm
  | cons call calls ih => exact ih (ascending_after hm call)

/-- A call's entries, report and incidents depend on the manager's entries only. -/
theorem transitionAll_of_entries {m m' : ChannelManager} (h : m'.entries = m.entries) (t : Transition)
    (incident : String → String → Incident) :
    (m'.transitionAll t incident).1.entries = (m.transitionAll t incident).1.entries ∧
      (m'.transitionAll t incident).2 = (m.transitionAll t incident).2 := by
  refine ⟨?_, Prod.ext ?_ ?_⟩
  · rw [(transitionAll_spec m' t incident).1, (transitionAll_spec m t incident).1, h]
  · rw [transitionAll_report, transitionAll_report, h]
  · rw [(transitionAll_spec m' t incident).2, (transitionAll_spec m t incident).2, h]

end ChannelManager

/-! ## (5) Starting and stopping the channels of a deployment -/

/-- Observing incidents one after another records them all, in order, while incidents are
recorded. -/
theorem Deployment.foldl_observe_incidents (d : Deployment) (is : List Incident) :
    (is.foldl Deployment.observe d).incidents = d.incidents ++ if d.recording then is else [] := by
  induction is generalizing d with
  | nil => simp
  | cons i is ih =>
    rw [List.foldl_cons, ih]
    unfold Deployment.observe
    by_cases hr : d.recording <;> simp [hr]

/-- **Starting every channel keeps the allowlists and the router.** -/
theorem ChannelManager.startAll_fst (m : ChannelManager) :
    m.startAll.1 = { m with entries := m.startAll.1.entries } := by
  have h : m.startAll.1 = _ := settleAll_fst (m.callAll .running .starting MemoryChannel.start (·.startDelayMs)).1 _ _ _
  rw [h]
  rfl

/-- **Stopping every channel keeps the allowlists and the router.** -/
theorem ChannelManager.stopAll_fst (m : ChannelManager) :
    m.stopAll.1 = { m with entries := m.stopAll.1.entries } := by
  have h : m.stopAll.1 = _ := settleAll_fst (m.callAll .stopped .stopped MemoryChannel.stop (·.stopDelayMs)).1 _ _ _
  rw [h]
  rfl

namespace Lifecycle

/-- **The channels of a deployment started, every answer in,** each failed start reported. -/
def channelsStarted (d : Deployment) : Deployment :=
  d.channels.startAll.2.2.foldl Deployment.observe { d with channels := d.channels.startAll.1 }

/-- **The channels of a deployment stopped, every answer in,** each failed stop reported. -/
def channelsStopped (d : Deployment) : Deployment :=
  d.channels.stopAll.2.2.foldl Deployment.observe { d with channels := d.channels.stopAll.1 }

/-- **The channels' half of a start, every answer in:** the router subscribed, the channels that
are not running called, and their answers, as the calls gave them, recorded; with the report. -/
def channelsUp (d : Deployment) : Deployment × LifecycleReport :=
  let (d', calls) := startCall (routerUp d)
  startSettle (answersOf calls) d'

/-- **The channels' half of a stop, every answer in:** the router unsubscribed, the channels that
are not stopped called, and their answers recorded; with the report. -/
def channelsDown (d : Deployment) : Deployment × LifecycleReport :=
  let (d', calls) := stopCall (routerDown d)
  stopSettle (answersOf calls) d'

theorem channelsUp_fst (d : Deployment) : (channelsUp d).1 = channelsStarted (routerUp d) := rfl

theorem channelsDown_fst (d : Deployment) : (channelsDown d).1 = channelsStopped (routerDown d) :=
  rfl

theorem channelsUp_snd (d : Deployment) : (channelsUp d).2 = (routerUp d).channels.startAll.2.1 :=
  rfl

theorem channelsDown_snd (d : Deployment) :
    (channelsDown d).2 = (routerDown d).channels.stopAll.2.1 :=
  rfl

/-- **A start's channels, once all have answered, leave `channelsUp`:** the answers the join
returns are the calls' own, so recording them is the start's half over the channels. -/
theorem channelsUp_of_runs {me : Nat} {d : Deployment} {answers : List (String × Except String Unit)}
    (h : Scheduling.Program.Runs me (awaitAnswers (startCall (routerUp d)).2) (.pure answers)) :
    startSettle answers (startCall (routerUp d)).1 = channelsUp d := by
  rw [awaitAnswers_ends h]
  rfl

/-- **A stop's channels, once all have answered, leave `channelsDown`.** -/
theorem channelsDown_of_runs {me : Nat} {d : Deployment} {answers : List (String × Except String Unit)}
    (h : Scheduling.Program.Runs me (awaitAnswers (stopCall (routerDown d)).2) (.pure answers)) :
    stopSettle answers (stopCall (routerDown d)).1 = channelsDown d := by
  rw [awaitAnswers_ends h]
  rfl

/-- **Starting the channels** changes only their entries and the incidents. -/
theorem channelsStarted_eq (d : Deployment) :
    ∃ entries incidents, channelsStarted d =
      { d with channels := { d.channels with entries }, incidents } := by
  obtain ⟨incidents, h⟩ := Deployment.foldl_observe_eq
    { d with channels := d.channels.startAll.1 } d.channels.startAll.2.2
  refine ⟨d.channels.startAll.1.entries, incidents, ?_⟩
  unfold channelsStarted
  rw [h, ChannelManager.startAll_fst]

/-- **Stopping the channels** changes only their entries and the incidents. -/
theorem channelsStopped_eq (d : Deployment) :
    ∃ entries incidents, channelsStopped d =
      { d with channels := { d.channels with entries }, incidents } := by
  obtain ⟨incidents, h⟩ := Deployment.foldl_observe_eq
    { d with channels := d.channels.stopAll.1 } d.channels.stopAll.2.2
  refine ⟨d.channels.stopAll.1.entries, incidents, ?_⟩
  unfold channelsStopped
  rw [h, ChannelManager.stopAll_fst]

/-- Subscribing the router keeps the channels and the incidents. -/
theorem routerUp_keeps (d : Deployment) :
    (routerUp d).channels.entries = d.channels.entries ∧ (routerUp d).incidents = d.incidents ∧
      (routerUp d).recording = d.recording := by
  unfold routerUp
  split <;> exact ⟨rfl, rfl, rfl⟩

/-- Unsubscribing the router keeps the channels and the incidents. -/
theorem routerDown_keeps (d : Deployment) :
    (routerDown d).channels.entries = d.channels.entries ∧ (routerDown d).incidents = d.incidents ∧
      (routerDown d).recording = d.recording := by
  unfold routerDown
  split <;> exact ⟨rfl, rfl, rfl⟩

/-- **A call over every channel of a deployment, its incidents observed,** when the deployment
`d'` holds the channels and the incidents of `d`: the entries and the report are those the call
gives `d`'s manager, and each incident is recorded once, in order, while incidents are recorded. -/
theorem observed_transitionAll {d d' : Deployment} (he : d'.channels.entries = d.channels.entries)
    (hi : d'.incidents = d.incidents) (hrec : d'.recording = d.recording)
    (t : ChannelManager.Transition) (incident : String → String → Incident) :
    let r := d'.channels.transitionAll t incident
    (r.2.2.foldl Deployment.observe { d' with channels := r.1 }).channels.entries =
        (d.channels.transitionAll t incident).1.entries ∧
      r.2.1 = (d.channels.transitionAll t incident).2.1 ∧
      (r.2.2.foldl Deployment.observe { d' with channels := r.1 }).incidents =
        d.incidents ++ if d.recording then (d.channels.transitionAll t incident).2.2 else [] := by
  intro r
  obtain ⟨hent, hcall⟩ := ChannelManager.transitionAll_of_entries he t incident
  obtain ⟨incidents, h⟩ := Deployment.foldl_observe_eq { d' with channels := r.1 } r.2.2
  refine ⟨by rw [h]; exact hent, congrArg Prod.fst hcall, ?_⟩
  rw [Deployment.foldl_observe_incidents]
  exact congrArg₂ _ hi (by rw [hrec, congrArg Prod.snd hcall])

/-- **Starting the channels of a deployment** starts its manager's channels, whether or not the
router had to be subscribed first: the entries and the report are the manager's, and each failed
start is recorded as one incident, in order, while incidents are recorded. -/
theorem channelsUp_channels (d : Deployment) (hnd : d.channels.names.Nodup) :
    (channelsUp d).1.channels.entries = d.channels.startAll.1.entries ∧
      (channelsUp d).2 = d.channels.startAll.2.1 ∧
      (channelsUp d).1.incidents = d.incidents ++ if d.recording then d.channels.startAll.2.2 else [] := by
  obtain ⟨he, hi, hrec⟩ := routerUp_keeps d
  have hnd' : (routerUp d).channels.names.Nodup := by
    rw [ChannelManager.names, he]
    exact hnd
  have h := observed_transitionAll he hi hrec
    (ChannelManager.callUnless .running MemoryChannel.start) Incident.channelStartFailed
  simp only [← ChannelManager.startAll_fold _ hnd', ← ChannelManager.startAll_fold _ hnd] at h
  rw [channelsUp_fst, channelsUp_snd, channelsStarted]
  exact h

/-- **Stopping the channels of a deployment** stops its manager's channels, whether or not the
router was subscribed: the entries and the report are the manager's, and each failed stop is
recorded as one incident, in order, while incidents are recorded. -/
theorem channelsDown_channels (d : Deployment) (hnd : d.channels.names.Nodup) :
    (channelsDown d).1.channels.entries = d.channels.stopAll.1.entries ∧
      (channelsDown d).2 = d.channels.stopAll.2.1 ∧
      (channelsDown d).1.incidents = d.incidents ++ if d.recording then d.channels.stopAll.2.2 else [] := by
  obtain ⟨he, hi, hrec⟩ := routerDown_keeps d
  have hnd' : (routerDown d).channels.names.Nodup := by
    rw [ChannelManager.names, he]
    exact hnd
  have h := observed_transitionAll he hi hrec
    (ChannelManager.callUnless .stopped MemoryChannel.stop) Incident.channelStopFailed
  simp only [← ChannelManager.stopAll_fold _ hnd', ← ChannelManager.stopAll_fold _ hnd] at h
  rw [channelsDown_fst, channelsDown_snd, channelsStopped]
  exact h

end Lifecycle

namespace ChannelManager

/-- **Channel lifecycle calls, one after another.** Start from a manager with no channel and the
allowlists `allowFrom`, and make any sequence of registrations, starts and stops of all channels,
each done before the next. Then the names stay strictly ascending, one channel a name, and the next
call behaves so:
* a registration under a taken name is refused with the name and changes nothing; one under a fresh
  name is taken, adding the new channel, not started, to the channels there were and keeping the
  names ascending, the allowlists and the router subscription;
* a start of all channels calls each channel that is not running, once, and no other (its start
  count goes up by one), and does what `Called` says with target `running` and the
  `channelStartFailed` incidents;
* a stop of all channels likewise calls each channel that is not stopped, once, with target
  `stopped` and the `channelStopFailed` incidents;
* a deployment holding the manager starts and stops its channels so, and records each failure's
  incident once, in order, while it records incidents. -/
theorem lifecycle_calls_in_sequence (allowFrom : List (String × List String))
    (calls : List ChannelCall) :
    let m := calls.foldl after { allowFrom }
    m.Ascending ∧
    (∀ c : MemoryChannel, c.name ∈ m.names →
      m.register c = .error (.duplicateChannel c.name) ∧ m.after (.register c) = m) ∧
    (∀ c : MemoryChannel, c.name ∉ m.names → ∃ m', m.register c = .ok m' ∧
      (∀ e, e ∈ m'.entries ↔ e = { channel := c, status := .notStarted } ∨ e ∈ m.entries) ∧
      m'.Ascending ∧ m'.allowFrom = m.allowFrom ∧ m'.router = m.router) ∧
    (∀ c : MemoryChannel, c.start.1.starts = c.starts + 1 ∧ c.start.1.stops = c.stops) ∧
    Called .running MemoryChannel.start Incident.channelStartFailed m
      m.startAll.1 m.startAll.2.1 m.startAll.2.2 ∧
    (∀ c : MemoryChannel, c.stop.1.stops = c.stops + 1 ∧ c.stop.1.starts = c.starts) ∧
    Called .stopped MemoryChannel.stop Incident.channelStopFailed m
      m.stopAll.1 m.stopAll.2.1 m.stopAll.2.2 ∧
    (∀ d : Deployment, d.channels = m →
      (Lifecycle.channelsUp d).1.channels.entries = m.startAll.1.entries ∧
      (Lifecycle.channelsUp d).2 = m.startAll.2.1 ∧
      (Lifecycle.channelsUp d).1.incidents = d.incidents ++ if d.recording then m.startAll.2.2 else []) ∧
    (∀ d : Deployment, d.channels = m →
      (Lifecycle.channelsDown d).1.channels.entries = m.stopAll.1.entries ∧
      (Lifecycle.channelsDown d).2 = m.stopAll.2.1 ∧
      (Lifecycle.channelsDown d).1.incidents = d.incidents ++ if d.recording then m.stopAll.2.2 else []) := by
  intro m
  have hm : m.Ascending := ascending_foldl_after (m := { allowFrom }) List.Pairwise.nil calls
  refine ⟨hm, fun c hc => ⟨register_taken hc, ?_⟩, fun c hc => ⟨_, register_fresh hc,
    fun e => mem_insertEntry, ascending_insertEntry hm hc, rfl, rfl⟩, MemoryChannel.start_counts,
    ?_, MemoryChannel.stop_counts, ?_, fun d hd => ?_, fun d hd => ?_⟩
  · simp only [after, register_taken hc]
  · rw [startAll_fold m hm.nodup]
    exact transitionAll_called m hm Incident.channelStartFailed
  · rw [stopAll_fold m hm.nodup]
    exact transitionAll_called m hm Incident.channelStopFailed
  · rw [← hd]
    exact Lifecycle.channelsUp_channels d (hd ▸ hm.nodup)
  · rw [← hd]
    exact Lifecycle.channelsDown_channels d (hd ▸ hm.nodup)

end ChannelManager

end ChatGateway
