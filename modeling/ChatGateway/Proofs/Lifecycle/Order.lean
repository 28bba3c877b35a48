import ChatGateway.Proofs.Lifecycle.Calls

/-! # The order of a start and of a stop of the gateway

A start that leaves `stopped` runs its steps in one order: `starting`, the responder subscribed,
the router subscribed, every channel that is not running called, side by side; once all of them
have answered, their answers recorded, then the cron service's start, the heartbeat's start, and
`running`. A stop that leaves `running` runs them backwards: `stopping`, the heartbeat's stop, the
cron service's stop; once it has returned, the router unsubscribed, every channel that is not
stopped called, side by side; once all of them have answered, their answers recorded, the
responder unsubscribed, the bus closed, then `stopped`.

Each step here is a function of the deployment (the heartbeat's, of the executor), and the poll
equations of the stages compose into equations from one wait of a start or a stop to the next,
whatever the executor has become meanwhile. The channels' answers come back in the order of the
calls (`Lifecycle.awaitAnswers_ends`), and recording them does to each channel what one call on it
alone would (`ChannelManager.settleAll_callAll`). A failed step is one incident, and the steps
after it run all the same: a channel's failure is one `channelStartFailed` or `channelStopFailed`
incident, in the order of the entries, and a service's failure is one `serviceFailed` incident
with the service's name and the action.

* `ChannelManager.startAll`, `ChannelManager.stopAll`: a start or a stop of every channel, both
  halves, with every answer in; `ChannelManager.startAll_spec`, `ChannelManager.stopAll_spec`:
  each channel is called once, and each failed call is one incident.
* `poll_start_order`, `poll_startAnswered_order`, `poll_startRest`: a start, up to the channels'
  answers, from them to the cron service's delay, and from its end.
* `poll_stop_order`, `poll_stopRest`, `poll_stopAnswered_order`: a stop, likewise.
-/

namespace ChatGateway

open Scheduling Scheduling.Executor

namespace MemoryChannel

@[simp]
theorem start_name (c : MemoryChannel) : c.start.1.name = c.name := by
  cases hf : c.failStart <;> simp [start, hf]

@[simp]
theorem stop_name (c : MemoryChannel) : c.stop.1.name = c.name := by
  cases hf : c.failStop <;> simp [stop, hf]

/-- A start counts one start and no stop. -/
theorem start_counts (c : MemoryChannel) :
    c.start.1.starts = c.starts + 1 ∧ c.start.1.stops = c.stops := by
  cases hf : c.failStart <;> simp [start, hf]

/-- A stop counts one stop and no start. -/
theorem stop_counts (c : MemoryChannel) :
    c.stop.1.stops = c.stops + 1 ∧ c.stop.1.starts = c.starts := by
  cases hf : c.failStop <;> simp [stop, hf]

end MemoryChannel

/-- **Reporting incidents changes only the incidents.** -/
theorem Deployment.foldl_observe_eq (d : Deployment) (is : List Incident) :
    ∃ incidents, is.foldl Deployment.observe d = { d with incidents } := by
  induction is generalizing d with
  | nil => exact ⟨_, rfl⟩
  | cons i is ih =>
    obtain ⟨incidents, h⟩ := ih (d.observe i)
    rw [List.foldl_cons, h]
    unfold Deployment.observe
    split
    · exact ⟨incidents, rfl⟩
    · exact ⟨incidents, rfl⟩

namespace ChannelEntry

/-- An entry after a start of the channels: a running channel is left alone, any other started. -/
def afterStart (e : ChannelEntry) : ChannelEntry :=
  if e.status = .running then e
  else { channel := e.channel.start.1,
         status := if e.channel.start.2 matches .ok _ then .running else .failed }

/-- The incident of an entry's start, when it is started and the start fails. -/
def startFailure (e : ChannelEntry) : Option Incident :=
  if e.status = .running then none
  else match e.channel.start.2 with
    | .ok () => none
    | .error err => some (.channelStartFailed e.channel.name err)

/-- An entry after a stop of the channels: a stopped channel is left alone, any other stopped. -/
def afterStop (e : ChannelEntry) : ChannelEntry :=
  if e.status = .stopped then e
  else { channel := e.channel.stop.1,
         status := if e.channel.stop.2 matches .ok _ then .stopped else .failed }

/-- The incident of an entry's stop, when it is stopped and the stop fails. -/
def stopFailure (e : ChannelEntry) : Option Incident :=
  if e.status = .stopped then none
  else match e.channel.stop.2 with
    | .ok () => none
    | .error err => some (.channelStopFailed e.channel.name err)

end ChannelEntry

namespace ChannelManager

/-! ## A lifecycle call over every channel, entry by entry -/

/-- **A lifecycle call on one entry:** the entry after the call, and the call's outcome when the
entry was called. -/
abbrev Transition := ChannelEntry → ChannelEntry × Option (Except String Unit)

/-- **A lifecycle call over every channel, made entry by entry:** each entry's call is made and
its outcome recorded in turn; the report lists the channels that succeeded and the ones that
failed, with their errors, both sorted, and each failure is one incident. -/
def transitionAll (m : ChannelManager) (t : Transition) (incident : String → String → Incident) :
    ChannelManager × LifecycleReport × List Incident :=
  let step := fun (acc : List ChannelEntry × LifecycleReport × List Incident) (e : ChannelEntry) =>
    let (es, r, is) := acc
    let (e', outcome) := t e
    let name := e.channel.name
    match outcome with
    | none => (es ++ [e'], r, is)
    | some (.ok ()) => (es ++ [e'], { r with succeeded := r.succeeded ++ [name] }, is)
    | some (.error err) =>
      (es ++ [e'], { r with failed := r.failed ++ [(name, err)] }, is ++ [incident name err])
  let (es, r, is) := m.entries.foldl step ([], {}, [])
  ({ m with entries := es }, r.sorted, is)

/-- **A call over every channel that is not at `target`:** a channel at the target is left alone;
any other is called, and moves to the target when the call succeeds and to `failed` when it
fails. -/
def callUnless (target : ChannelStatus) (call : MemoryChannel → MemoryChannel × Except String Unit) :
    Transition := fun e =>
  if e.status = target then (e, none)
  else
    let (c, r) := call e.channel
    ({ channel := c, status := if r matches .ok _ then target else .failed }, some r)

/-- **Starting every channel, every answer in:** the channels not running called, then their
answers recorded. -/
def startAll (m : ChannelManager) : ChannelManager × LifecycleReport × List Incident :=
  let (m', calls) := m.callAll .running .starting MemoryChannel.start (·.startDelayMs)
  m'.settleAll (some .running) Incident.channelStartFailed (Lifecycle.answersOf calls)

/-- **Stopping every channel, every answer in:** the channels not stopped called, then their
answers recorded. -/
def stopAll (m : ChannelManager) : ChannelManager × LifecycleReport × List Incident :=
  let (m', calls) := m.callAll .stopped .stopped MemoryChannel.stop (·.stopDelayMs)
  m'.settleAll none Incident.channelStopFailed (Lifecycle.answersOf calls)

section Call

variable {target : ChannelStatus} {call : MemoryChannel → MemoryChannel × Except String Unit}

theorem callUnless_at {e : ChannelEntry} (hs : e.status = target) :
    callUnless target call e = (e, none) := by
  unfold callUnless
  rw [if_pos hs]

theorem callUnless_ok {e : ChannelEntry} {c : MemoryChannel} (hs : e.status ≠ target)
    (hc : call e.channel = (c, .ok ())) :
    callUnless target call e = ({ channel := c, status := target }, some (.ok ())) := by
  unfold callUnless
  rw [if_neg hs, hc]
  rfl

theorem callUnless_error {e : ChannelEntry} {c : MemoryChannel} {err : String}
    (hs : e.status ≠ target) (hc : call e.channel = (c, .error err)) :
    callUnless target call e = ({ channel := c, status := .failed }, some (.error err)) := by
  unfold callUnless
  rw [if_neg hs, hc]
  rfl

end Call

/-! ## Both halves of a call, with every answer in -/

/-- **An entry as the first half of a call leaves it:** at the target, as it was; otherwise with
its channel called and at the status of the call under way. -/
def markCalled (target status : ChannelStatus) (f : MemoryChannel → MemoryChannel × Except String Unit)
    (e : ChannelEntry) : ChannelEntry :=
  if e.status = target then e else { channel := (f e.channel).1, status }

theorem callAll_fst (m : ChannelManager) (target status : ChannelStatus)
    (f : MemoryChannel → MemoryChannel × Except String Unit) (delay : MemoryChannel → Nat) :
    (m.callAll target status f delay).1 = { m with entries := m.entries.map (markCalled target status f) } :=
  rfl

/-- The first half of a call keeps every entry's name, when the call keeps the channel's. -/
theorem names_map_markCalled {target status : ChannelStatus}
    {f : MemoryChannel → MemoryChannel × Except String Unit} (hf : ∀ c, (f c).1.name = c.name)
    (l : List ChannelEntry) :
    (l.map (markCalled target status f)).map (·.channel.name) = l.map (·.channel.name) := by
  rw [List.map_map]
  refine List.map_congr_left fun e _ => ?_
  simp only [Function.comp_apply, markCalled]
  split
  · rfl
  · exact hf e.channel

/-- One entry's call recorded, as `transitionAll` records it. -/
def transitionStep (t : Transition) (incident : String → String → Incident)
    (acc : List ChannelEntry × LifecycleReport × List Incident) (e : ChannelEntry) :
    List ChannelEntry × LifecycleReport × List Incident :=
  match (t e).2 with
  | none => (acc.1 ++ [(t e).1], acc.2.1, acc.2.2)
  | some (.ok ()) =>
    (acc.1 ++ [(t e).1], { acc.2.1 with succeeded := acc.2.1.succeeded ++ [e.channel.name] }, acc.2.2)
  | some (.error err) =>
    (acc.1 ++ [(t e).1], { acc.2.1 with failed := acc.2.1.failed ++ [(e.channel.name, err)] },
      acc.2.2 ++ [incident e.channel.name err])

/-- One answer recorded, as `settleAll` records it. -/
def settleStep (ok : Option ChannelStatus) (incident : String → String → Incident)
    (acc : ChannelManager × LifecycleReport × List Incident) (a : String × Except String Unit) :
    ChannelManager × LifecycleReport × List Incident :=
  match a.2 with
  | .ok () => ((ok.map (acc.1.setStatus a.1)).getD acc.1,
      { acc.2.1 with succeeded := acc.2.1.succeeded ++ [a.1] }, acc.2.2)
  | .error err => (acc.1.setStatus a.1 .failed,
      { acc.2.1 with failed := acc.2.1.failed ++ [(a.1, err)] }, acc.2.2 ++ [incident a.1 err])

theorem transitionAll_eq (m : ChannelManager) (t : Transition) (incident : String → String → Incident) :
    m.transitionAll t incident =
      let x := m.entries.foldl (transitionStep t incident) ([], {}, [])
      ({ m with entries := x.1 }, x.2.1.sorted, x.2.2) := by
  unfold transitionAll
  extract_lets step
  have hstep : step = transitionStep t incident := by
    funext acc e
    obtain ⟨es, r, is⟩ := acc
    rcases h : t e with ⟨e', _ | _ | _⟩ <;> simp [step, transitionStep, h]
  rw [hstep]

theorem settleAll_eq (m : ChannelManager) (ok : Option ChannelStatus)
    (incident : String → String → Incident) (answers : List (String × Except String Unit)) :
    m.settleAll ok incident answers =
      let x := answers.foldl (settleStep ok incident) (m, {}, [])
      (x.1, x.2.1.sorted, x.2.2) := by
  unfold settleAll
  extract_lets step
  have hstep : step = settleStep ok incident := by
    funext acc a
    obtain ⟨m', r, is⟩ := acc
    obtain ⟨n, _ | ⟨⟩⟩ := a <;> rfl
  rw [hstep]

/-- Setting the status of a name no entry of the list has leaves the list as it is. -/
theorem map_setStatus_of_not_mem {l : List ChannelEntry} {n : String} (st : ChannelStatus)
    (h : n ∉ l.map (·.channel.name)) :
    l.map (fun e => if e.channel.name = n then { e with status := st } else e) = l := by
  refine (List.map_congr_left fun e he => ?_).trans (List.map_id l)
  rw [if_neg fun hn => h (by rw [← hn]; exact List.mem_map_of_mem he)]
  rfl

/-- **Setting the status of a name held by one entry** changes that entry alone. -/
theorem setStatus_split {m : ChannelManager} {F L : List ChannelEntry} {x : ChannelEntry}
    (hm : m.entries = F ++ x :: L) (hF : x.channel.name ∉ F.map (·.channel.name))
    (hL : x.channel.name ∉ L.map (·.channel.name)) (st : ChannelStatus) :
    m.setStatus x.channel.name st = { m with entries := F ++ { x with status := st } :: L } := by
  unfold setStatus
  rw [hm, List.map_append, List.map_cons, map_setStatus_of_not_mem st hF,
    map_setStatus_of_not_mem st hL, if_pos rfl]

section Halves

variable {target status : ChannelStatus} {ok : Option ChannelStatus}
  {f : MemoryChannel → MemoryChannel × Except String Unit} (incident : String → String → Incident)

/-- **The answer of one call, recorded, is that entry's call:** when the entry `e` is not at the
target and no other entry has its name, recording its answer leaves the entries, the report and
the incidents that making its call in turn leaves. -/
theorem settleStep_called (hok : ok.getD status = target) {e : ChannelEntry} (he : e.status ≠ target)
    (hf : ∀ c, (f c).1.name = c.name) {m : ChannelManager} {F L : List ChannelEntry}
    (hF : e.channel.name ∉ F.map (·.channel.name)) (hL : e.channel.name ∉ L.map (·.channel.name))
    (r : LifecycleReport) (is : List Incident) :
    settleStep ok incident ({ m with entries := F ++ { channel := (f e.channel).1, status } :: L }, r, is)
        (e.channel.name, (f e.channel).2) =
      let y := transitionStep (callUnless target f) incident (F, r, is) e
      ({ m with entries := y.1 ++ L }, y.2.1, y.2.2) := by
  rcases hc : f e.channel with ⟨c, res⟩
  have hname : c.name = e.channel.name := by rw [← hf e.channel, hc]
  -- Recording a status changes the entry of the call's channel alone.
  have hsplit : ∀ st, ({ m with entries := F ++ { channel := c, status } :: L } : ChannelManager).setStatus
      e.channel.name st = { m with entries := F ++ { channel := c, status := st } :: L } := by
    intro st
    rw [← hname]
    exact setStatus_split (m := { m with entries := F ++ { channel := c, status } :: L })
      (x := { channel := c, status }) rfl (by rwa [hname]) (by rwa [hname]) st
  rcases res with err | ⟨⟩
  · simp only [settleStep, transitionStep, callUnless_error he hc, hsplit, List.append_assoc,
      List.singleton_append]
  · simp only [settleStep, transitionStep, callUnless_ok he hc, List.append_assoc,
      List.singleton_append]
    cases ok with
    | none =>
      simp only [Option.getD_none] at hok
      simp only [Option.map_none, Option.getD_none, hok]
    | some st =>
      simp only [Option.getD_some] at hok
      simp only [Option.map_some, Option.getD_some, hsplit, hok]

/-- **Recording the answers of the calls follows the entry-by-entry call:** with the entries `F`
already through the call before the entries `l`, and every name held once, recording the answers
of `l`'s calls leaves the entries, the report and the incidents that calling `l`'s entries one
after another leaves. -/
theorem foldl_settleStep (hok : ok.getD status = target) (hf : ∀ c, (f c).1.name = c.name)
    (m : ChannelManager) (l F : List ChannelEntry) (r : LifecycleReport) (is : List Incident)
    (hnd : ((F ++ l).map (·.channel.name)).Nodup) :
    ((l.filter (·.status != target)).map fun e => (e.channel.name, (f e.channel).2)).foldl
        (settleStep ok incident)
        ({ m with entries := F ++ l.map (markCalled target status f) }, r, is) =
      let x := l.foldl (transitionStep (callUnless target f) incident) (F, r, is)
      ({ m with entries := x.1 }, x.2.1, x.2.2) := by
  induction l generalizing F r is with
  | nil => simp
  | cons e l ih =>
    -- The entry's call keeps its name, so the names stay distinct with it moved to `F`.
    have hname : (callUnless target f e).1.channel.name = e.channel.name := by
      unfold callUnless
      split
      · rfl
      · exact hf e.channel
    have hnd' : (((F ++ [(callUnless target f e).1]) ++ l).map (·.channel.name)).Nodup := by
      simpa [hname] using hnd
    rw [List.foldl_cons, List.map_cons]
    by_cases he : e.status = target
    · -- A channel at the target is not called, and its entry stays.
      have hskip : (e :: l).filter (·.status != target) = l.filter (·.status != target) :=
        List.filter_cons_of_neg (by simp [he])
      have hkeep : transitionStep (callUnless target f) incident (F, r, is) e = (F ++ [e], r, is) := by
        simp [transitionStep, callUnless_at he]
      rw [callUnless_at he] at hnd'
      rw [hskip, markCalled, if_pos he, List.append_cons, hkeep]
      exact ih (F ++ [e]) r is hnd'
    · -- A called channel's answer is recorded first, on its entry alone.
      rw [List.map_append, List.map_cons, List.nodup_append, List.nodup_cons] at hnd
      obtain ⟨-, ⟨hl, -⟩, hdisj⟩ := hnd
      have hF : e.channel.name ∉ F.map (·.channel.name) :=
        fun h => hdisj _ h _ List.mem_cons_self rfl
      have hL : e.channel.name ∉ (l.map (markCalled target status f)).map (·.channel.name) := by
        rwa [names_map_markCalled hf]
      have hcall : (e :: l).filter (·.status != target) = e :: l.filter (·.status != target) :=
        List.filter_cons_of_pos (by simp [he])
      rw [hcall, markCalled, if_neg he, List.map_cons, List.foldl_cons,
        settleStep_called incident hok he hf hF hL]
      have hy : (transitionStep (callUnless target f) incident (F, r, is) e).1 =
          F ++ [(callUnless target f e).1] := by
        unfold transitionStep
        split <;> rfl
      generalize transitionStep (callUnless target f) incident (F, r, is) e = y at hy ⊢
      obtain ⟨F', r', is'⟩ := y
      dsimp only at hy ⊢
      subst hy
      exact ih _ r' is' hnd'

/-- **Both halves of a call over every channel, with the calls' own answers, are the call made
entry by entry,** while the channels' names are distinct: the same entries, report and
incidents. -/
theorem settleAll_callAll (hok : ok.getD status = target) (hf : ∀ c, (f c).1.name = c.name)
    (m : ChannelManager) (hnd : m.names.Nodup) (delay : MemoryChannel → Nat) :
    (m.callAll target status f delay).1.settleAll ok incident
        (Lifecycle.answersOf (m.callAll target status f delay).2) =
      m.transitionAll (callUnless target f) incident := by
  have hans : Lifecycle.answersOf (m.callAll target status f delay).2 =
      (m.entries.filter (·.status != target)).map fun e => (e.channel.name, (f e.channel).2) := by
    simp only [Lifecycle.answersOf, callAll, List.map_map]
    rfl
  have hfold := foldl_settleStep incident hok hf m m.entries [] {} [] (by rw [List.nil_append]; exact hnd)
  simp only [List.nil_append] at hfold
  rw [settleAll_eq, transitionAll_eq, hans, callAll_fst, hfold]

end Halves

/-- **Starting every channel is the start made entry by entry,** while names are distinct. -/
theorem startAll_fold (m : ChannelManager) (hnd : m.names.Nodup) :
    m.startAll = m.transitionAll (callUnless .running MemoryChannel.start) Incident.channelStartFailed :=
  settleAll_callAll Incident.channelStartFailed rfl MemoryChannel.start_name m hnd _

/-- **Stopping every channel is the stop made entry by entry,** while names are distinct. -/
theorem stopAll_fold (m : ChannelManager) (hnd : m.names.Nodup) :
    m.stopAll = m.transitionAll (callUnless .stopped MemoryChannel.stop) Incident.channelStopFailed :=
  settleAll_callAll Incident.channelStopFailed rfl MemoryChannel.stop_name m hnd _

/-! ## What a call over every channel does to each -/

/-- The incident of one entry's lifecycle call, when the call failed. -/
def failure (t : Transition) (incident : String → String → Incident) (e : ChannelEntry) :
    Option Incident :=
  match (t e).2 with
  | some (.error err) => some (incident e.channel.name err)
  | _ => none

/-- A fold that keeps each entry's new state and each failed call's incident keeps them all, in
order. -/
theorem foldl_transition {t : Transition} {incident : String → String → Incident}
    (step : List ChannelEntry × LifecycleReport × List Incident → ChannelEntry →
      List ChannelEntry × LifecycleReport × List Incident)
    (hstep : ∀ acc e, (step acc e).1 = acc.1 ++ [(t e).1] ∧
      (step acc e).2.2 = acc.2.2 ++ (failure t incident e).toList)
    (l : List ChannelEntry) (acc : List ChannelEntry × LifecycleReport × List Incident) :
    (l.foldl step acc).1 = acc.1 ++ l.map (fun e => (t e).1) ∧
      (l.foldl step acc).2.2 = acc.2.2 ++ l.filterMap (failure t incident) := by
  induction l generalizing acc with
  | nil => simp
  | cons e rest ih =>
    obtain ⟨hes, his⟩ := ih (step acc e)
    rw [List.foldl_cons, hes, his, (hstep acc e).1, (hstep acc e).2]
    constructor
    · simp
    · cases hf : failure t incident e <;> simp [hf]

/-- **A lifecycle call over every channel** calls each entry once, in order, and yields one
incident per failed call. -/
theorem transitionAll_spec (m : ChannelManager) (t : Transition)
    (incident : String → String → Incident) :
    (m.transitionAll t incident).1 = { m with entries := m.entries.map fun e => (t e).1 } ∧
      (m.transitionAll t incident).2.2 = m.entries.filterMap (failure t incident) := by
  unfold transitionAll
  extract_lets step
  have hstep : ∀ acc e, (step acc e).1 = acc.1 ++ [(t e).1] ∧
      (step acc e).2.2 = acc.2.2 ++ (failure t incident e).toList := by
    intro acc e
    obtain ⟨es, r, is⟩ := acc
    rcases h : t e with ⟨e', outcome⟩
    unfold failure
    simp only [step, h]
    rcases outcome with _ | _ | _ <;> simp
  obtain ⟨hes, his⟩ := foldl_transition step hstep m.entries ([], {}, [])
  generalize List.foldl step ([], {}, []) m.entries = acc at hes his ⊢
  obtain ⟨es, r, is⟩ := acc
  simp only [List.nil_append] at hes his
  exact ⟨by rw [hes], his⟩

/-- **Starting every channel** starts each channel that is not running, once and in the order of
the entries, and reports each failed start as one incident. -/
theorem startAll_spec (m : ChannelManager) (hnd : m.names.Nodup) :
    m.startAll.1 = { m with entries := m.entries.map ChannelEntry.afterStart } ∧
      m.startAll.2.2 = m.entries.filterMap ChannelEntry.startFailure := by
  rw [startAll_fold m hnd]
  obtain ⟨hm, his⟩ := transitionAll_spec m (callUnless .running MemoryChannel.start)
    Incident.channelStartFailed
  refine ⟨hm.trans ?_, his.trans ?_⟩
  · congr 2
    funext e
    unfold ChannelEntry.afterStart callUnless
    split <;> rfl
  · congr 1
    funext e
    unfold failure ChannelEntry.startFailure
    by_cases hs : e.status = .running
    · simp only [callUnless_at hs, hs, if_true]
    · simp only [hs, if_false]
      rcases hc : e.channel.start with ⟨c, _ | _⟩
      · simp only [callUnless_error hs hc]
      · simp only [callUnless_ok hs hc]

/-- **Stopping every channel** stops each channel that is not stopped, once and in the order of
the entries, and reports each failed stop as one incident. -/
theorem stopAll_spec (m : ChannelManager) (hnd : m.names.Nodup) :
    m.stopAll.1 = { m with entries := m.entries.map ChannelEntry.afterStop } ∧
      m.stopAll.2.2 = m.entries.filterMap ChannelEntry.stopFailure := by
  rw [stopAll_fold m hnd]
  obtain ⟨hm, his⟩ := transitionAll_spec m (callUnless .stopped MemoryChannel.stop)
    Incident.channelStopFailed
  refine ⟨hm.trans ?_, his.trans ?_⟩
  · congr 2
    funext e
    unfold ChannelEntry.afterStop callUnless
    split <;> rfl
  · congr 1
    funext e
    unfold failure ChannelEntry.stopFailure
    by_cases hs : e.status = .stopped
    · simp only [callUnless_at hs, hs, if_true]
    · simp only [hs, if_false]
      rcases hc : e.channel.stop with ⟨c, _ | _⟩
      · simp only [callUnless_error hs hc]
      · simp only [callUnless_ok hs hc]

end ChannelManager

namespace Lifecycle

/-! ## The steps -/

/-- **Closing the bus.** -/
def busClosed (d : Deployment) : Deployment := { d with bus := d.bus.close }

/-- **A service's answer, reported:** a failure is one incident that names the service and the
action. -/
def reported (action : String) (s : Service) : Except String Unit → Deployment → Deployment
  | .ok (), d => d
  | .error e, d => d.observe (.serviceFailed (serviceName d s) action e)

/-- **The heartbeat's start:** a running loop is left alone, a closed bus is a reported failure,
and otherwise the loop is started. -/
def heartbeatUp (ex : Exec) : Exec :=
  if Heartbeats.runningIn ex then ex
  else if ex.shared.bus.closed then
    { ex with shared := reported "start" .heartbeat (.error "event bus is closed") ex.shared }
  else Heartbeats.started ex

/-- Recording the channels' answers changes only the channels and the incidents. -/
theorem channelsSettled_eq (ok : Option ChannelStatus) (incident : String → String → Incident)
    (answers : List (String × Except String Unit)) (d : Deployment) :
    ∃ incidents, (channelsSettled ok incident answers d).1 =
      { d with channels := (d.channels.settleAll ok incident answers).1, incidents } := by
  unfold channelsSettled
  rcases d.channels.settleAll ok incident answers with ⟨channels, report, is⟩
  exact Deployment.foldl_observe_eq { d with channels } is

/-- The deployment once the channels' starts have answered has the services it had. -/
theorem services_startSettle (answers : List (String × Except String Unit)) (d : Deployment) :
    (startSettle answers d).1.cron = d.cron ∧ services (startSettle answers d).1 = services d := by
  obtain ⟨incidents, h⟩ := channelsSettled_eq (some .running) Incident.channelStartFailed answers d
  have hs : (startSettle answers d).1 = { d with channels := _, incidents } := h
  rw [hs]
  exact ⟨rfl, rfl⟩

/-! ## The poll equations of the steps -/

theorem poll_serviceDone {α : Type} (me : Nat) (ex : Exec) (action : String) (s : Service)
    (r : Except String Unit) (k : Unit → Act α) :
    poll me ex ((serviceDone action s r).bind k) =
      poll me { ex with shared := reported action s r ex.shared } (k ()) := by
  rcases r with _ | ⟨⟩ <;> rfl

/-- **The heartbeat's start,** in whatever state the executor is. -/
theorem poll_heartbeatStart {α : Type} (me : Nat) (ex : Exec) (k : Unit → Act α) :
    poll me ex ((startStep .heartbeat).bind k) = poll me (heartbeatUp ex) (k ()) := by
  unfold startStep
  rw [serviceStep_eq, Program.bind_assoc]
  change poll me ex ((Heartbeats.start).bind _) = _
  rw [poll_bind, Heartbeats.poll_start]
  unfold heartbeatUp
  by_cases hrun : Heartbeats.runningIn ex = true
  · simp only [hrun, if_true]
    rfl
  · by_cases hclosed : ex.shared.bus.closed = true
    · simp only [hrun, hclosed, if_true, Bool.false_eq_true, if_false]
      rfl
    · simp only [hrun, hclosed, Bool.false_eq_true, if_false]
      rfl

/-! ## The services of a start and of a stop -/

/-- The cron service's step, when the deployment has one. -/
def cronSteps (d : Deployment) : List Service := if d.cron.isSome then [.cron] else []

/-- The heartbeat's step, when the deployment has one. -/
def heartbeatSteps (d : Deployment) : List Service := if d.heartbeat.isSome then [.heartbeat] else []

/-- The cron service's start delay; no time without the service. -/
def cronStartDelay (d : Deployment) : Nat := (d.cron.map (·.startDelayMs)).getD 0

/-- The cron service's stop delay; no time without the service. -/
def cronStopDelay (d : Deployment) : Nat := (d.cron.map (·.stopDelayMs)).getD 0

theorem services_eq (d : Deployment) : services d = cronSteps d ++ heartbeatSteps d := rfl

/-- A stop takes the heartbeat before the cron service. -/
theorem services_reverse (d : Deployment) :
    (services d).reverse = heartbeatSteps d ++ cronSteps d := by
  unfold services cronSteps heartbeatSteps
  split <;> split <;> rfl

/-- The heartbeat's start, when there is a heartbeat, and then `k`. -/
theorem poll_heartbeatSteps_start {α : Type} (me : Nat) (ex : Exec) (d : Deployment)
    (k : Unit → Act α) :
    poll me ex (((heartbeatSteps d).forM startStep).bind k) =
      poll me (if d.heartbeat.isSome then heartbeatUp ex else ex) (k ()) := by
  unfold heartbeatSteps
  cases d.heartbeat.isSome with
  | true =>
    rw [if_pos rfl, if_pos rfl, Program.forM_cons_bind, poll_heartbeatStart]
    rfl
  | false => rfl

/-- The heartbeat's stop, when there is a heartbeat, and then the steps after it. -/
theorem poll_heartbeatSteps_stop {α : Type} (me : Nat) (ex : Exec) (d : Deployment)
    (rest : List Service) (k : Unit → Act α) :
    poll me ex (((heartbeatSteps d ++ rest).forM stopStep).bind k) =
      poll me (if d.heartbeat.isSome then Heartbeats.stopped ex else ex) ((rest.forM stopStep).bind k) := by
  unfold heartbeatSteps
  cases d.heartbeat.isSome with
  | true =>
    rw [if_pos rfl, if_pos rfl, List.singleton_append, Program.forM_cons_bind,
      poll_stopStep_heartbeat]
  | false => rfl

/-- Stopping the heartbeat keeps the cron service. -/
theorem stopped_cron (ex : Exec) : (Heartbeats.stopped ex).shared.cron = ex.shared.cron := by
  unfold Heartbeats.stopped
  split
  · rename_i t _
    have hshared : ((Heartbeats.forgotten ex).abortTask t).shared = (Heartbeats.forgotten ex).shared :=
      congrArg Scheduling.Seen.shared (abortTask_seen_eq _ t)
    rw [hshared]
    rfl
  · rfl

/-- **The rest of a start from the cron service's start call:** its outcome reported, the
heartbeat started, the gateway running, and the outcome kept. -/
def startRest (d : Deployment) : Act Unit :=
  match d.cron with
  | some c => startResume c (heartbeatSteps d)
  | none => ((heartbeatSteps d).forM startStep).bind fun _ => finishing.bind kept

/-- **The executor once a start's services have answered:** the cron service's outcome reported,
then the heartbeat started, for the services of the deployment `d` that the start read. -/
def servicesStarted (d : Deployment) (ex : Exec) : Exec :=
  let ex₁ : Exec := match d.cron with
    | some c => { ex with shared := reported "start" .cron (startOutcome c) ex.shared }
    | none => ex
  if d.heartbeat.isSome then heartbeatUp ex₁ else ex₁

/-- **A start's first poll,** from `stopped` with the bus open: `starting`, the responder
subscribed, the router subscribed and every channel that is not running called; then the
channels' answers, awaited side by side. -/
theorem poll_start_order (me : Nat) (ex : Exec) (hstopped : ex.shared.lifecycle.state = .stopped)
    (hopen : ex.shared.bus.closed = false) :
    poll me ex (Job.program .gatewayStart) =
      let called := startCall (routerUp (adapterUp (setState .starting ex.shared)))
      poll me { ex with shared := called.1 } ((awaitAnswers called.2).bind startAnswered) := by
  rw [poll_startJob, if_neg (by simp [hstopped]), if_neg (by simp [hopen])]
  rfl

/-- **A start once its channels have answered,** whenever that is: the answers recorded and the
cron service's start counted; then the cron service's delay, after which the rest of the start
runs. -/
theorem poll_startAnswered_order (me : Nat) (ex : Exec) (answers : List (String × Except String Unit)) :
    poll me ex (startAnswered answers) =
      poll me { ex with shared := (countCronStart (startSettle answers ex.shared).1).1 }
        ((Scheduling.Program.sleep (cronStartDelay ex.shared)).bind fun _ => startRest ex.shared) := by
  obtain ⟨hcron, hservices⟩ := services_startSettle answers ex.shared
  rw [poll_startAnswered, hservices, services_eq]
  unfold cronSteps startRest cronStartDelay
  cases hc : ex.shared.cron with
  | none =>
    rw [countCronStart_none (by rw [hcron, hc]), poll_sleep_bind]
    rfl
  | some c =>
    simp only [Option.isSome_some, if_true, List.singleton_append, Option.map_some,
      Option.getD_some]
    rw [Program.forM_cons_bind, poll_startStep_cron]
    simp only [hcron, hc]
    rw [poll_sleep_bind]
    rfl

/-- **The rest of a start,** whenever it runs: the services answer, the gateway runs, and a stop
requested meanwhile runs before the outcome is kept. -/
theorem poll_startRest (me : Nat) (d : Deployment) (ex : Exec) :
    poll me ex (startRest d) =
      let ex₁ := servicesStarted d ex
      poll me { ex₁ with shared := (finishStart ex₁.shared).1 }
        (if ex₁.shared.lifecycle.stopRequested then stop.bind fun _ => kept (.ok ())
         else kept (.ok ())) := by
  have hrest : ∀ ex₁ : Exec,
      poll me ex₁ (((heartbeatSteps d).forM startStep).bind fun _ => finishing.bind kept) =
        let ex₂ := if d.heartbeat.isSome then heartbeatUp ex₁ else ex₁
        poll me { ex₂ with shared := (finishStart ex₂.shared).1 }
          (if ex₂.shared.lifecycle.stopRequested then stop.bind fun _ => kept (.ok ())
           else kept (.ok ())) := by
    intro ex₁
    rw [poll_heartbeatSteps_start, poll_finishing]
    exact (apply_ite (poll me _) _ _ _).symm
  unfold startRest servicesStarted
  cases d.cron with
  | none => exact hrest ex
  | some c =>
    unfold startResume
    rw [poll_serviceDone]
    exact hrest _

/-! ## A stop -/

/-- **The executor at the cron service's stop call:** `stopping`, then the heartbeat stopped, then
the cron service's stop counted. -/
def stopCalled (ex : Exec) : Exec :=
  let ex₁ : Exec := { ex with shared := setState .stopping ex.shared }
  let ex₂ := if ex.shared.heartbeat.isSome then Heartbeats.stopped ex₁ else ex₁
  { ex₂ with shared := (countCronStop ex₂.shared).1 }

/-- **The rest of a stop from the cron service's stop call,** then `k`. -/
def stopRest (d : Deployment) (k : Unit → Act Unit) : Act Unit :=
  match d.cron with
  | some c => stopResume c (k ())
  | none => tearDown.bind k

/-- **The executor once the cron service's stop has returned,** its outcome reported. -/
def stopReported (d : Deployment) (ex : Exec) : Exec :=
  match d.cron with
  | some c => { ex with shared := reported "stop" .cron (stopOutcome c) ex.shared }
  | none => ex

/-- **A stop's first poll,** from `running`: `stopping`, the heartbeat stopped and the cron
service's stop counted; then the cron service's delay, after which the rest of the stop runs. -/
theorem poll_stop_order (me : Nat) (ex : Exec) (k : Unit → Act Unit)
    (hrunning : ex.shared.lifecycle.state = .running) :
    poll me ex (stop.bind k) =
      poll me (stopCalled ex)
        ((Scheduling.Program.sleep (cronStopDelay ex.shared)).bind fun _ => stopRest ex.shared k) := by
  rw [poll_stop_bind, hrunning]
  dsimp only
  rw [services_reverse, poll_heartbeatSteps_stop]
  unfold stopCalled
  dsimp only
  -- The heartbeat's stop keeps the cron service the stop goes on to.
  have hcron : (if ex.shared.heartbeat.isSome then
      Heartbeats.stopped { ex with shared := setState .stopping ex.shared }
      else { ex with shared := setState .stopping ex.shared }).shared.cron = ex.shared.cron := by
    split
    · exact stopped_cron _
    · rfl
  generalize (if ex.shared.heartbeat.isSome then
      Heartbeats.stopped { ex with shared := setState .stopping ex.shared }
      else { ex with shared := setState .stopping ex.shared }) = ex₂ at hcron ⊢
  unfold cronSteps stopRest cronStopDelay
  cases hc : ex.shared.cron with
  | none =>
    rw [countCronStop_none (hcron.trans hc), poll_sleep_bind]
    rfl
  | some c =>
    simp only [Option.isSome_some, if_true, Option.map_some, Option.getD_some]
    rw [Program.forM_cons_bind, poll_stopStep_cron]
    simp only [hcron, hc]
    rw [poll_sleep_bind]
    rfl

/-- **The rest of a stop,** whenever it runs: the cron service's outcome reported, the router
unsubscribed and every channel that is not stopped called; then the channels' answers, awaited
side by side. -/
theorem poll_stopRest (me : Nat) (d : Deployment) (ex : Exec) (k : Unit → Act Unit) :
    poll me ex (stopRest d k) =
      let ex₁ := stopReported d ex
      let called := stopCall (routerDown ex₁.shared)
      poll me { ex₁ with shared := called.1 }
        ((awaitAnswers called.2).bind fun answers => stopAnswered answers k) := by
  unfold stopRest stopReported
  cases d.cron with
  | none =>
    rw [poll_tearDown]
    rfl
  | some c =>
    unfold stopResume
    rw [poll_serviceDone, poll_tearDown]
    rfl

/-- **A stop once its channels have answered,** whenever that is: the answers recorded, the
responder unsubscribed, the bus closed and `stopped`, in one poll. -/
theorem poll_stopAnswered_order (me : Nat) (ex : Exec) (answers : List (String × Except String Unit))
    (k : Unit → Act Unit) :
    poll me ex (stopAnswered answers k) =
      let D := setState .stopped (busClosed (adapterDown (stopSettle answers ex.shared).1))
      poll me { ex with shared := D } (k ()) :=
  poll_stopAnswered me ex answers k

end Lifecycle

/-- **The order of a start and of a stop of the gateway.** A start from `stopped` with the bus
open goes to `starting`, subscribes the responder, subscribes the router and calls every channel
that is not running, all side by side, and waits for their answers. The answers come back as the
calls gave them, in the order of the calls, and once all are in it records them, each channel as
one start of it alone would leave it, and calls the cron service's start; once the service's
delay has passed, whatever the executor has become, it reports the service's outcome, starts the
heartbeat and sets `running`. A stop from `running` goes to `stopping`, stops the heartbeat and
calls the cron service's stop; once its delay has passed, it reports the service's outcome,
unsubscribes the router and calls every channel that is not stopped, side by side; once they
have all answered it records them, unsubscribes the responder, closes the bus and sets
`stopped`. Each failed step is one incident, and the steps after it run all the same. -/
theorem start_stop_order (me : Nat) :
    (∀ ex : Exec, ex.shared.lifecycle.state = .stopped → ex.shared.bus.closed = false →
      poll me ex (Job.program .gatewayStart) =
        let called := Lifecycle.startCall (Lifecycle.routerUp (Lifecycle.adapterUp
          (Lifecycle.setState .starting ex.shared)))
        poll me { ex with shared := called.1 }
          ((Lifecycle.awaitAnswers called.2).bind Lifecycle.startAnswered)) ∧
    (∀ (answers : List (String × Except String Unit)) (ex : Exec),
      poll me ex (Lifecycle.startAnswered answers) =
        let D := (Lifecycle.countCronStart (Lifecycle.startSettle answers ex.shared).1).1
        poll me { ex with shared := D }
          ((Scheduling.Program.sleep (Lifecycle.cronStartDelay ex.shared)).bind fun _ =>
            Lifecycle.startRest ex.shared)) ∧
    (∀ (d : Deployment) (ex : Exec), poll me ex (Lifecycle.startRest d) =
      let ex₁ := Lifecycle.servicesStarted d ex
      poll me { ex₁ with shared := (Lifecycle.finishStart ex₁.shared).1 }
        (if ex₁.shared.lifecycle.stopRequested then
          Lifecycle.stop.bind fun _ => Lifecycle.kept (.ok ())
        else Lifecycle.kept (.ok ()))) ∧
    (∀ (ex : Exec) (k : Unit → Act Unit), ex.shared.lifecycle.state = .running →
      poll me ex (Lifecycle.stop.bind k) =
        poll me (Lifecycle.stopCalled ex)
          ((Scheduling.Program.sleep (Lifecycle.cronStopDelay ex.shared)).bind fun _ =>
            Lifecycle.stopRest ex.shared k)) ∧
    (∀ (d : Deployment) (ex : Exec) (k : Unit → Act Unit),
      poll me ex (Lifecycle.stopRest d k) =
        let ex₁ := Lifecycle.stopReported d ex
        let called := Lifecycle.stopCall (Lifecycle.routerDown ex₁.shared)
        poll me { ex₁ with shared := called.1 }
          ((Lifecycle.awaitAnswers called.2).bind fun answers => Lifecycle.stopAnswered answers k)) ∧
    (∀ (answers : List (String × Except String Unit)) (ex : Exec) (k : Unit → Act Unit),
      poll me ex (Lifecycle.stopAnswered answers k) =
        let D := Lifecycle.setState .stopped (Lifecycle.busClosed
          (Lifecycle.adapterDown (Lifecycle.stopSettle answers ex.shared).1))
        poll me { ex with shared := D } (k ())) ∧
    (∀ (calls : List (String × Nat × Except String Unit)) (answers : List (String × Except String Unit)),
      Program.Runs me (Lifecycle.awaitAnswers calls) (.pure answers) →
        answers = Lifecycle.answersOf calls) ∧
    (∀ m : ChannelManager, m.names.Nodup →
      m.startAll.1.entries = m.entries.map ChannelEntry.afterStart ∧
        m.startAll.2.2 = m.entries.filterMap ChannelEntry.startFailure ∧
        m.stopAll.1.entries = m.entries.map ChannelEntry.afterStop ∧
        m.stopAll.2.2 = m.entries.filterMap ChannelEntry.stopFailure) := by
  refine ⟨fun ex hstopped hopen => Lifecycle.poll_start_order me ex hstopped hopen,
    fun answers ex => Lifecycle.poll_startAnswered_order me ex answers, Lifecycle.poll_startRest me,
    fun ex k hrunning => Lifecycle.poll_stop_order me ex k hrunning, Lifecycle.poll_stopRest me,
    fun answers ex k => Lifecycle.poll_stopAnswered_order me ex answers k,
    fun _ _ h => Lifecycle.awaitAnswers_ends h, fun m hnd => ?_⟩
  obtain ⟨hstart, hstartIs⟩ := m.startAll_spec hnd
  obtain ⟨hstop, hstopIs⟩ := m.stopAll_spec hnd
  exact ⟨by rw [hstart], hstartIs, by rw [hstop], hstopIs⟩

end ChatGateway
