import ChatGateway.Channel.Memory

/-! # The channel manager

The `ChannelManager` owns the registered channels, each with its lifecycle status, the sender
allowlists by channel name, and the id of its outbound router subscription while it routes.

* `register` refuses a name that is taken and keeps the first channel.
* A start or a stop of every channel comes in two halves, with the channels' answers awaited side
  by side in between. `callAll` moves every channel not at the call's target to the status of
  the call under way (`starting`, or `stopped` for a stop) and calls it; `settleAll` takes the
  answers in order, moves each channel's status (`running` or `failed` after a start, `failed`
  after a failed stop) and yields a `LifecycleReport` with the channels that succeeded and the
  ones that failed with their errors, both sorted, and one incident per failure.
* `publisher` gives the publisher of a channel name, with that name's allowlist, whether or not
  such a channel is registered.
-/

namespace ChatGateway

/-- **A registered channel and its status.** -/
structure ChannelEntry where
  channel : MemoryChannel
  status : ChannelStatus := .notStarted
  deriving Repr

/-- **What a lifecycle call did to each channel.** -/
structure LifecycleReport where
  succeeded : List String := []
  failed : List (String × String) := []
  deriving Repr

namespace LifecycleReport

/-- Whether no channel failed. -/
def isClean (r : LifecycleReport) : Bool := r.failed.isEmpty

/-- The JSON object of a report. -/
def toJson (r : LifecycleReport) : Json :=
  Json.object [("succeeded", .arr (r.succeeded.map Json.str)),
    ("failed", .arr (r.failed.map fun (n, e) => .arr [.str n, .str e])),
    ("is_clean", .bool r.isClean)]

/-- Orders pairs by name, then by error. -/
def pairLe (a b : String × String) : Bool := a.1 < b.1 || (a.1 == b.1 && decide (a.2 ≤ b.2))

/-- The report with both lists sorted. -/
def sorted (r : LifecycleReport) : LifecycleReport :=
  { succeeded := r.succeeded.mergeSort (fun a b => decide (a ≤ b)),
    failed := r.failed.mergeSort pairLe }

end LifecycleReport

/-- **The registered channels, their allowlists and the router subscription.** -/
structure ChannelManager where
  entries : List ChannelEntry := []
  allowFrom : List (String × List String) := []
  router : Option Nat := none
  deriving Repr

namespace ChannelManager

/-- Inserts an entry in name order. -/
def insertEntry (e : ChannelEntry) : List ChannelEntry → List ChannelEntry
  | [] => [e]
  | f :: rest => if e.channel.name < f.channel.name then e :: f :: rest else f :: insertEntry e rest

/-- **Registers a channel;** a taken name is refused. -/
def register (m : ChannelManager) (c : MemoryChannel) : Except ChannelError ChannelManager :=
  if m.entries.any (·.channel.name == c.name) then .error (.duplicateChannel c.name)
  else .ok { m with entries := insertEntry { channel := c } m.entries }

/-- The entry of a channel name. -/
def entry? (m : ChannelManager) (name : String) : Option ChannelEntry :=
  m.entries.find? (·.channel.name == name)

/-- The registered names, sorted. -/
def names (m : ChannelManager) : List String := m.entries.map (·.channel.name)

/-- Changes the channel of a name. -/
def modifyChannel (m : ChannelManager) (name : String) (f : MemoryChannel → MemoryChannel) :
    ChannelManager :=
  { m with entries := m.entries.map fun e =>
      if e.channel.name == name then { e with channel := f e.channel } else e }

/-- **The publisher of a channel name,** with its allowlist. -/
def publisher (m : ChannelManager) (name : String) : Publisher :=
  ⟨name, ((m.allowFrom.find? (·.1 == name)).map (·.2)).getD []⟩

/-- **The first half of a lifecycle call over every channel:** every entry whose status is not
`target` is moved to `status` and its channel called with `f`, the calls going out side by side;
the calls, in the order of the entries, with the channel's name, the time its answer takes and
its answer. -/
def callAll (m : ChannelManager) (target status : ChannelStatus)
    (f : MemoryChannel → MemoryChannel × Except String Unit) (delay : MemoryChannel → Nat) :
    ChannelManager × List (String × Nat × Except String Unit) :=
  ({ m with entries := m.entries.map fun e =>
      if e.status = target then e else { channel := (f e.channel).1, status } },
   (m.entries.filter (·.status != target)).map fun e =>
      (e.channel.name, delay e.channel, (f e.channel).2))

/-- Sets the status of the channel of a name. -/
def setStatus (m : ChannelManager) (name : String) (status : ChannelStatus) : ChannelManager :=
  { m with entries := m.entries.map fun e => if e.channel.name = name then { e with status } else e }

/-- **The second half of a lifecycle call over every channel:** the answers, in the order of the
calls. A channel that answered takes the status `ok` when there is one; one that failed is
`failed` and is reported as one incident; the report lists both, sorted. -/
def settleAll (m : ChannelManager) (ok : Option ChannelStatus)
    (incident : String → String → Incident) (answers : List (String × Except String Unit)) :
    ChannelManager × LifecycleReport × List Incident :=
  let step := fun (acc : ChannelManager × LifecycleReport × List Incident)
      (a : String × Except String Unit) =>
    let (m, r, is) := acc
    match a.2 with
    | .ok () => ((ok.map (m.setStatus a.1)).getD m, { r with succeeded := r.succeeded ++ [a.1] }, is)
    | .error err =>
      (m.setStatus a.1 .failed, { r with failed := r.failed ++ [(a.1, err)] }, is ++ [incident a.1 err])
  let (m, r, is) := answers.foldl step (m, {}, [])
  (m, r.sorted, is)

end ChannelManager

end ChatGateway
