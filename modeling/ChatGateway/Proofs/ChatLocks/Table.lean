import ChatGateway.Proofs.ChatLocks.Frame

/-! # The table of chat locks and its invariant

The responder of chats in order keeps, in the deployment, a list of chat locks: for each chat of a
lock set, its mutex and how many responders use it. Read by the responder's own lookup, the list
is a map from a chat to its lock (`Deployment.chatLock`), and taking or giving up a place changes
one chat's lock only (`Handlers.chatLock_acquire`, `Handlers.chatLock_release`).

`ChatLocks.Table` is what holds of that map, the executor's mutexes and the tasks between any two
moves of the executor, given each task's phase (`ChatPhase`): outside every chat's lock, waiting
on it, or holding it. A task that waits or holds has a place (`Place`): its chat, the chat's mutex
and a ticket. The invariant says

* the chats with a lock are exactly those with a waiting or holding task, each lock has its own
  mutex, and its number of users is the number of tasks that hold or wait on that mutex;
* the waiters of a mutex are the waiting tasks, with tickets that grow along the queue and
  above the holder's; a holder's ticket belongs to one waiting or holding task; tickets are
  given once each, so they order the tasks by when they first ran.

The four ways the invariant moves are lemmas here: a step of other work (`Table.keeps`), a task
taking its place (`Table.enter`), a queued task going on once its ticket holds the mutex
(`Table.grant`), and a holder giving the mutex and its place up (`Table.leave`).
-/

namespace ChatGateway

open Scheduling Scheduling.Executor

/-! ## The lock table as a map -/

/-- **The lock of a chat in a lock set,** as the responder looks it up. -/
def Deployment.chatLock (d : Deployment) (set : Nat) (key : String) : Option ChatLock :=
  d.chatLocks.find? fun l => l.locks == set && l.key == key

namespace Handlers

/-- **The lock of a chat once a responder takes a place on it:** one more user on the chat's
lock, or a new lock with a fresh mutex. -/
def joined (set : Nat) (key : String) (d : Deployment) : ChatLock :=
  match d.chatLock set key with
  | some l => { l with users := l.users + 1 }
  | none => ⟨set, key, d.nextMutex, 1⟩

/-- The lock of a chat once a responder gives up its place: the last user takes it away. -/
def left (l : ChatLock) : Option ChatLock :=
  if l.users ≤ 1 then none else some { l with users := l.users - 1 }

/-- The lock a lookup finds is the chat's. -/
theorem chat_of_chatLock {d : Deployment} {set : Nat} {key : String} {l : ChatLock}
    (h : d.chatLock set key = some l) : l.locks = set ∧ l.key = key := by
  have hp := List.find?_some h
  simpa using hp

/-- Two chats that differ are told apart by the lookup. -/
theorem chat_beq_eq_false {set set' : Nat} {key key' : String}
    (h : ¬(set = set' ∧ key = key')) : (set == set' && key == key') = false := by
  by_cases hs : set = set'
  · have hk : key ≠ key' := fun hk => h ⟨hs, hk⟩
    simp [hs, hk]
  · simp [hs]

/-- **A change of one chat's lock in place,** which keeps every lock's chat and leaves the
other chats' locks as they are. -/
theorem chatLock_map (d : Deployment) (set : Nat) (key : String) (g : ChatLock → ChatLock)
    (hchat : ∀ l, (g l).locks = l.locks ∧ (g l).key = l.key)
    (hother : ∀ l, ¬(l.locks = set ∧ l.key = key) → g l = l) (set' : Nat) (key' : String) :
    { d with chatLocks := d.chatLocks.map g }.chatLock set' key' =
      if set' = set ∧ key' = key then (d.chatLock set key).map g else d.chatLock set' key' := by
  have hlook : { d with chatLocks := d.chatLocks.map g }.chatLock set' key' =
      (d.chatLock set' key').map g := by
    unfold Deployment.chatLock
    rw [List.find?_map]
    have hp : ((fun l : ChatLock => l.locks == set' && l.key == key') ∘ g) =
        fun l => l.locks == set' && l.key == key' := by
      funext l
      simp only [Function.comp_apply, (hchat l).1, (hchat l).2]
    rw [hp]
  rw [hlook]
  split
  · rename_i hsame
    rw [hsame.1, hsame.2]
  · rename_i hdiff
    cases hfound : d.chatLock set' key' with
    | none => rfl
    | some l =>
      -- The lock found is another chat's, which the change leaves alone.
      have hl := chat_of_chatLock hfound
      rw [Option.map_some, hother l (by rw [hl.1, hl.2]; exact hdiff)]

/-- **Taking a chat's lock away** leaves the other chats' locks. -/
theorem chatLock_filter (d : Deployment) (set : Nat) (key : String) (set' : Nat)
    (key' : String) :
    { d with chatLocks := d.chatLocks.filter fun l => !(l.locks == set && l.key == key) }.chatLock
        set' key' =
      if set' = set ∧ key' = key then none else d.chatLock set' key' := by
  have hlook : Deployment.chatLock
      { d with chatLocks := d.chatLocks.filter fun l => !(l.locks == set && l.key == key) }
      set' key' =
      d.chatLocks.find? fun l =>
        decide ((!(l.locks == set && l.key == key)) = true ∧ (l.locks == set' && l.key == key') = true) := by
    unfold Deployment.chatLock
    rw [List.find?_filter]
  rw [hlook]
  split
  · rename_i hsame
    rw [List.find?_eq_none]
    intro l _ hl
    rw [hsame.1, hsame.2, decide_eq_true_eq] at hl
    have hgone := hl.1
    rw [hl.2] at hgone
    exact absurd hgone (by decide)
  · rename_i hdiff
    unfold Deployment.chatLock
    congr 1
    funext l
    -- A lock of the chat looked up is never the one taken away.
    by_cases hl : (l.locks == set' && l.key == key') = true
    · have hl' : l.locks = set' ∧ l.key = key' := by simpa using hl
      rw [hl, hl'.1, hl'.2, chat_beq_eq_false hdiff]
      rfl
    · simp only [Bool.not_eq_true] at hl
      simp [hl]

/-- **Taking a place on a chat's lock** changes that chat's lock only. -/
theorem chatLock_acquire (set : Nat) (key : String) (d : Deployment) (set' : Nat)
    (key' : String) :
    (acquire set key d).1.chatLock set' key' =
      if set' = set ∧ key' = key then some (joined set key d) else d.chatLock set' key' := by
  unfold acquire
  split
  · rename_i l hfound
    change d.chatLock set key = some l at hfound
    have hl := chat_of_chatLock hfound
    have hjoined : joined set key d = { l with users := l.users + 1 } := by
      unfold joined
      rw [hfound]
    rw [hjoined]
    dsimp only
    rw [chatLock_map d set key _ (fun u => by split <;> exact ⟨rfl, rfl⟩)
      (fun u hu => by rw [if_neg (by simpa using hu)])]
    split
    · rw [hfound, Option.map_some, if_pos (by simp [hl.1, hl.2])]
    · rfl
  · rename_i hfound
    change d.chatLock set key = none at hfound
    have hjoined : joined set key d = ⟨set, key, d.nextMutex, 1⟩ := by
      unfold joined
      rw [hfound]
    rw [hjoined]
    dsimp only [Deployment.chatLock]
    rw [List.find?_append]
    by_cases hchat : set' = set ∧ key' = key
    · obtain ⟨rfl, rfl⟩ := hchat
      change (d.chatLock set' key').or _ = _
      rw [hfound, if_pos ⟨rfl, rfl⟩]
      simp
    · rw [if_neg hchat]
      change (d.chatLock set' key').or _ = d.chatLock set' key'
      -- The new lock is another chat's.
      have hnew : [(⟨set, key, d.nextMutex, 1⟩ : ChatLock)].find?
          (fun l => l.locks == set' && l.key == key') = none := by
        have hne : ¬(set = set' ∧ key = key') := fun h => hchat ⟨h.1.symm, h.2.symm⟩
        simp only [List.find?_cons, chat_beq_eq_false hne, List.find?_nil]
      rw [hnew, Option.or_none]

/-- **Giving up a place on a chat's lock** changes that chat's lock only. -/
theorem chatLock_release (set : Nat) (key : String) (d : Deployment) (set' : Nat)
    (key' : String) :
    (release set key d).chatLock set' key' =
      if set' = set ∧ key' = key then (d.chatLock set key).bind left
      else d.chatLock set' key' := by
  simp only [release]
  split
  · rename_i l hfound
    change d.chatLock set key = some l at hfound
    have hl := chat_of_chatLock hfound
    rw [hfound, Option.bind_some]
    split
    · rename_i hlast
      rw [chatLock_filter, left, if_pos hlast]
    · rename_i hmore
      rw [chatLock_map d set key _ (fun u => by split <;> exact ⟨rfl, rfl⟩)
        (fun u hu => by rw [if_neg (by simpa using hu)])]
      split
      · rw [hfound, Option.map_some, if_pos (by simp [hl.1, hl.2]), left, if_neg hmore]
      · rfl
  · rename_i hfound
    change d.chatLock set key = none at hfound
    split
    · rename_i hsame
      rw [hsame.1, hsame.2, hfound]
      rfl
    · rfl

/-- Giving up a place changes only the chat locks. -/
theorem release_shared (set : Nat) (key : String) (d : Deployment) :
    (release set key d).nextMutex = d.nextMutex ∧
      (release set key d).heartbeatTask = d.heartbeatTask := by
  simp only [release]
  split
  · split <;> exact ⟨rfl, rfl⟩
  · exact ⟨rfl, rfl⟩

/-- **A lock its user leaves** keeps its mutex and has one user less; the last user takes it
away. -/
theorem left_eq_some {l l' : ChatLock} (h : left l = some l') :
    l'.mutex = l.mutex ∧ l'.users + 1 = l.users ∧ 1 < l.users := by
  unfold left at h
  split at h
  · cases h
  · rename_i hmore
    cases h
    exact ⟨rfl, by simp only; omega, by omega⟩

/-- The mutex a responder asks for is its chat's. -/
theorem acquire_mutex (set : Nat) (key : String) (d : Deployment) :
    (acquire set key d).2 = (joined set key d).mutex := by
  unfold acquire joined
  split
  · rename_i l hfound
    change d.chatLock set key = some l at hfound
    rw [hfound]
  · rename_i hfound
    change d.chatLock set key = none at hfound
    rw [hfound]

/-- Taking a place changes only the chat locks and the next mutex number. -/
theorem acquire_heartbeatTask (set : Nat) (key : String) (d : Deployment) :
    (acquire set key d).1.heartbeatTask = d.heartbeatTask := by
  unfold acquire
  split <;> rfl

/-- A new lock takes the next mutex number. -/
theorem nextMutex_acquire (set : Nat) (key : String) (d : Deployment) :
    (acquire set key d).1.nextMutex =
      if (d.chatLock set key).isSome then d.nextMutex else d.nextMutex + 1 := by
  unfold acquire
  split
  · rename_i l hfound
    change d.chatLock set key = some l at hfound
    rw [hfound]
    rfl
  · rename_i hfound
    change d.chatLock set key = none at hfound
    rw [hfound]
    rfl

end Handlers

/-! ## The mutexes -/

namespace Scheduling

/-- How many tasks use a mutex: its holder and its waiters. -/
def MutexState.load (s : MutexState) : Nat :=
  (if s.holder.isSome then 1 else 0) + s.waiters.length

/-- **A mutex after task `me` asks for it with ticket `tk`:** a free mutex is held at once,
otherwise the task queues behind the waiters. -/
def MutexState.attempt (s : MutexState) (me tk : Nat) : MutexState :=
  if s.isFree then { s with holder := some tk } else { s with waiters := s.waiters ++ [(me, tk)] }

/-- **A mutex after its holder releases it:** the first waiter holds it next. -/
def MutexState.handOver (s : MutexState) : MutexState :=
  match s.waiters with
  | [] => {}
  | (_, tk) :: rest => { holder := some tk, waiters := rest }

namespace MutexState

theorem load_attempt (s : MutexState) (me tk : Nat) : (s.attempt me tk).load = s.load + 1 := by
  unfold attempt load isFree
  cases hh : s.holder <;> cases hw : s.waiters <;> simp <;> omega

theorem holder_attempt (s : MutexState) (me tk : Nat) :
    (s.attempt me tk).holder = if s.isFree then some tk else s.holder := by
  unfold attempt
  split <;> rfl

theorem waiters_attempt (s : MutexState) (me tk : Nat) :
    (s.attempt me tk).waiters = if s.isFree then s.waiters else s.waiters ++ [(me, tk)] := by
  unfold attempt
  split <;> rfl

/-- A free mutex has neither holder nor waiters. -/
theorem isFree_iff (s : MutexState) : s.isFree = true ↔ s.holder = none ∧ s.waiters = [] := by
  unfold isFree
  simp

/-- **Asking for a mutex loses no one:** the holder stays, and so do the waiters. -/
theorem attempt_mono {s : MutexState} (me tk : Nat) :
    (∀ x, s.holder = some x → (s.attempt me tk).holder = some x) ∧
      ∀ w ∈ s.waiters, w ∈ (s.attempt me tk).waiters := by
  rw [holder_attempt, waiters_attempt]
  split
  · rename_i hfree
    obtain ⟨hh, hw⟩ := (isFree_iff s).mp hfree
    refine ⟨fun x hx => ?_, fun w hw' => hw'⟩
    rw [hh] at hx
    cases hx
  · exact ⟨fun x hx => hx, fun w hw => List.mem_append_left _ hw⟩

/-- Releasing a held mutex lowers its load by one. -/
theorem load_handOver {s : MutexState} (h : s.holder.isSome = true) :
    s.handOver.load + 1 = s.load := by
  unfold handOver load
  rw [h]
  split
  · rename_i hw
    simp [hw]
  · rename_i w rest hw
    simp [hw]
    omega

/-- The waiters after a release are the old ones but the first. -/
theorem waiters_handOver (s : MutexState) : s.handOver.waiters = s.waiters.tail := by
  unfold handOver
  split <;> rename_i hw <;> simp [hw]

/-- **Whom a release leaves waiting:** every waiter still waits, but the first, which holds the
mutex now. -/
theorem mem_handOver {s : MutexState} {w : Nat × Nat} (hw : w ∈ s.waiters) :
    w ∈ s.handOver.waiters ∨ s.handOver.holder = some w.2 := by
  unfold handOver
  split
  · rename_i hnil
    rw [hnil] at hw
    cases hw
  · rename_i u tk rest hcons
    rw [hcons] at hw
    rcases List.mem_cons.mp hw with rfl | hrest
    · exact .inr rfl
    · exact .inl hrest

/-- After a release, the mutex is held by the first waiter's ticket, if anyone waited. -/
theorem holder_handOver (s : MutexState) :
    s.handOver.holder = (s.waiters.head?).map Prod.snd := by
  unfold handOver
  split <;> rename_i hw <;> simp [hw]

end MutexState

/-- The state of a mutex, as the invariants see it. -/
def Seen.mutex {ι σ : Type} (s : Seen ι σ) (m : Nat) : MutexState :=
  ((s.mutexes.find? (·.1 == m)).map (·.2)).getD {}

namespace Executor

variable {ι σ : Type}

@[simp] theorem seen_mutex (ex : Executor ι σ) (m : Nat) : ex.seen.mutex m = ex.mutex m := rfl

@[simp] theorem Seen.mutex_setLook (s : Seen ι σ) (t : Nat) (v : Option (TaskView ι σ))
    (m : Nat) : (s.setLook t v).mutex m = s.mutex m := rfl

/-- **Setting a mutex** changes that mutex only. -/
theorem mutex_setMutex (ex : Executor ι σ) (m : Nat) (s : MutexState) (m' : Nat) :
    (ex.setMutex m s).mutex m' = if m' = m then s else ex.mutex m' := by
  unfold mutex setMutex
  by_cases hm : m' = m
  · subst hm
    simp
  · rw [if_neg hm, List.find?_cons, List.find?_filter]
    have hne : (m == m') = false := beq_false_of_ne (Ne.symm hm)
    simp only [hne]
    congr 3
    funext x
    by_cases hx : x.1 = m'
    · simp [hx, hm]
    · simp [hx]

/-- **Asking for a mutex** takes a fresh ticket and sets that mutex. -/
theorem lockAttempt_eq (ex : Executor ι σ) (me m : Nat) :
    ex.lockAttempt me m = ex.fresh.1.setMutex m ((ex.mutex m).attempt me ex.nextId) := by
  unfold lockAttempt MutexState.attempt MutexState.isFree
  dsimp only
  by_cases hfree : ((ex.mutex m).holder.isNone && (ex.mutex m).waiters.isEmpty) = true
  · simp only [hfree, if_true]
  · simp only [hfree, Bool.false_eq_true, if_false]

/-- Asking for a mutex changes that mutex only. -/
theorem mutex_lockAttempt (ex : Executor ι σ) (me m m' : Nat) :
    (ex.lockAttempt me m).mutex m' =
      if m' = m then (ex.mutex m).attempt me ex.nextId else ex.mutex m' := by
  rw [lockAttempt_eq, mutex_setMutex]
  rfl

/-- Asking for a mutex changes nothing else the invariants see. -/
theorem lockAttempt_seen (ex : Executor ι σ) (me m : Nat) :
    (ex.lockAttempt me m).seen =
      { ex.seen with mutexes := (ex.lockAttempt me m).mutexes, nextId := ex.nextId + 1 } := by
  rw [lockAttempt_eq]
  rfl

/-- Asking for a mutex leaves the tasks, the launcher and the shared state. -/
theorem lockAttempt_keeps (ex : Executor ι σ) (me m : Nat) :
    (ex.lockAttempt me m).look = ex.look ∧ (ex.lockAttempt me m).launch = ex.launch ∧
      (ex.lockAttempt me m).shared = ex.shared := by
  rw [lockAttempt_eq]
  exact ⟨rfl, rfl, rfl⟩

/-- **Releasing a mutex** hands it over; the invariants see nothing else. -/
theorem release_seen (ex : Executor ι σ) (m : Nat) :
    (ex.release m).seen = (ex.setMutex m (ex.mutex m).handOver).seen := by
  unfold release
  rcases hw : (ex.mutex m).waiters with _ | ⟨⟨u, tk⟩, rest⟩
  · simp only [MutexState.handOver, hw]
  · -- Waking the next holder is not seen.
    simp only [MutexState.handOver, hw]
    exact wake_quiet _ u

/-- Releasing a mutex leaves the tasks, the launcher and the shared state. -/
theorem release_keeps (ex : Executor ι σ) (m : Nat) :
    (ex.release m).look = ex.look ∧ (ex.release m).launch = ex.launch ∧
      (ex.release m).shared = ex.shared ∧ (ex.release m).nextId = ex.nextId := by
  have h := release_seen ex m
  refine ⟨?_, ?_, ?_, ?_⟩
  · change (ex.release m).seen.look = _
    rw [h]
    rfl
  · change (ex.release m).seen.launch = _
    rw [h]
    rfl
  · change (ex.release m).seen.shared = _
    rw [h]
    rfl
  · change (ex.release m).seen.nextId = _
    rw [h]
    rfl

/-- Releasing a mutex changes that mutex only. -/
theorem mutex_release (ex : Executor ι σ) (m m' : Nat) :
    (ex.release m).mutex m' = if m' = m then (ex.mutex m).handOver else ex.mutex m' := by
  change (ex.release m).seen.mutex m' = _
  rw [release_seen, seen_mutex, mutex_setMutex]

end Executor

end Scheduling

/-! ## Places on the locks -/

/-- **A responder's place on a chat's lock:** the subscription it runs for, its lock set and the
message it answers, the chat's mutex and its ticket in the mutex's queue. -/
structure Place where
  sub : Subscription
  set : Nat
  msg : InboundMessage
  mutex : Nat
  ticket : Nat

/-- The chat of a place. -/
def Place.key (pl : Place) : String := pl.msg.sessionKey

/-- **Where a task stands on the chat locks.** -/
inductive ChatPhase where
  /-- It uses no chat's lock: it has not taken a place yet, or never takes one. -/
  | outside
  /-- It is queued on its chat's mutex, or its ticket holds the mutex and it has not run since. -/
  | waiting (pl : Place)
  /-- It holds its chat's mutex and answers. -/
  | holding (pl : Place)

/-- The place of a task that waits or holds. -/
def ChatPhase.place? : ChatPhase → Option Place
  | .outside => none
  | .waiting pl => some pl
  | .holding pl => some pl

@[simp] theorem ChatPhase.place?_outside : ChatPhase.outside.place? = none := rfl

@[simp] theorem ChatPhase.place?_waiting (pl : Place) : (ChatPhase.waiting pl).place? = some pl :=
  rfl

@[simp] theorem ChatPhase.place?_holding (pl : Place) : (ChatPhase.holding pl).place? = some pl :=
  rfl

/-- A task without a place is outside. -/
theorem ChatPhase.eq_outside {ψ : ChatPhase} (h : ψ.place? = none) : ψ = .outside := by
  cases ψ with
  | outside => rfl
  | waiting pl => cases h
  | holding pl => cases h

/-! ## The invariant -/

namespace ChatLocks

/-- **The invariant of the chat locks,** over what the executor shows and each task's phase. -/
structure Table (s : Seen Job Deployment) (φ : Nat → ChatPhase) : Prop where
  /-- A task with a place is live, and nothing has cancelled it. -/
  live : ∀ t pl, (φ t).place? = some pl →
    ∃ v, s.look t = some v ∧ v.done = false ∧ v.cancelled = false
  /-- The heartbeat's remembered task has no place, and is a task unless it is the main slot. -/
  heartbeat : ∀ t, s.shared.heartbeatTask = some t → (φ t).place? = none ∧ (t = 0 ∨ s.look t ≠ none)
  /-- Each lock has a mutex of its own. -/
  distinct : ∀ set key set' key' l l', s.shared.chatLock set key = some l →
    s.shared.chatLock set' key' = some l' → l.mutex = l'.mutex → set = set' ∧ key = key'
  /-- Mutex numbers are given out once. -/
  below : ∀ set key l, s.shared.chatLock set key = some l → l.mutex < s.shared.nextMutex
  /-- A lock's users are those that hold or wait on its mutex, and there is one at least. -/
  users : ∀ set key l, s.shared.chatLock set key = some l →
    0 < l.users ∧ l.users = (s.mutex l.mutex).load
  /-- A task with a place finds its chat's lock, with the place's mutex. -/
  entry : ∀ t pl, (φ t).place? = some pl →
    ∃ l, s.shared.chatLock pl.set pl.key = some l ∧ l.mutex = pl.mutex
  /-- A waiting task is queued on its mutex, or its ticket holds it. -/
  waiting : ∀ t pl, φ t = .waiting pl →
    (t, pl.ticket) ∈ (s.mutex pl.mutex).waiters ∨ (s.mutex pl.mutex).holder = some pl.ticket
  /-- A holding task's ticket holds its mutex. -/
  holding : ∀ t pl, φ t = .holding pl → (s.mutex pl.mutex).holder = some pl.ticket
  /-- Every waiter of a mutex is a waiting task, with its ticket. -/
  queued : ∀ m t tk, (t, tk) ∈ (s.mutex m).waiters →
    ∃ pl, φ t = .waiting pl ∧ pl.mutex = m ∧ pl.ticket = tk
  /-- Every holder of a mutex is the ticket of a task with a place on it. -/
  owned : ∀ m tk, (s.mutex m).holder = some tk →
    ∃ t pl, (φ t).place? = some pl ∧ pl.mutex = m ∧ pl.ticket = tk
  /-- A ticket is one task's. -/
  tickets : ∀ t u pl pl', (φ t).place? = some pl → (φ u).place? = some pl' →
    pl.ticket = pl'.ticket → t = u
  /-- Tickets grow along a mutex's queue, -/
  ordered : ∀ m, ((s.mutex m).waiters.map Prod.snd).Pairwise (· < ·)
  /-- and the holder's ticket is below them. -/
  after : ∀ m tk, (s.mutex m).holder = some tk → ∀ w ∈ (s.mutex m).waiters, tk < w.2
  /-- Every ticket was given out. -/
  issued : ∀ t pl, (φ t).place? = some pl → pl.ticket < s.nextId

variable {s s' : Seen Job Deployment} {φ : Nat → ChatPhase}

namespace Table

/-- A slot without a task has no place. -/
theorem place_of_look_none (h : Table s φ) {t : Nat} (ht : s.look t = none) :
    (φ t).place? = none := by
  cases hpl : (φ t).place? with
  | none => rfl
  | some pl =>
    obtain ⟨v, hv, -⟩ := h.live t pl hpl
    rw [ht] at hv
    cases hv

/-- **A mutex no lock has** is neither held nor waited on. -/
theorem idle (h : Table s φ) {m : Nat}
    (hm : ∀ set key l, s.shared.chatLock set key = some l → l.mutex ≠ m) :
    (s.mutex m).holder = none ∧ (s.mutex m).waiters = [] := by
  constructor
  · cases hh : (s.mutex m).holder with
    | none => rfl
    | some tk =>
      obtain ⟨t, pl, hpl, hmu, -⟩ := h.owned m tk hh
      obtain ⟨l, hl, hlm⟩ := h.entry t pl hpl
      exact absurd (hlm.trans hmu) (hm _ _ l hl)
  · cases hw : (s.mutex m).waiters with
    | nil => rfl
    | cons w rest =>
      have hmem : (w.1, w.2) ∈ (s.mutex m).waiters := by rw [hw]; exact List.mem_cons_self
      obtain ⟨pl, hpl, hmu, -⟩ := h.queued m w.1 w.2 hmem
      obtain ⟨l, hl, hlm⟩ := h.entry w.1 pl (by rw [hpl]; rfl)
      exact absurd (hlm.trans hmu) (hm _ _ l hl)

/-- **The invariant moves with what it reads:** it holds after any change that keeps the locks,
the mutexes and the remembered heartbeat task's standing, gives out no ticket twice, and keeps
every task with a place live. -/
theorem transfer (h : Table s φ)
    (hlocks : s'.shared.chatLock = s.shared.chatLock)
    (hnext : s'.shared.nextMutex = s.shared.nextMutex) (hmutex : s'.mutex = s.mutex)
    (hid : s.nextId ≤ s'.nextId)
    (hlive : ∀ t pl, (φ t).place? = some pl →
      ∃ v, s'.look t = some v ∧ v.done = false ∧ v.cancelled = false)
    (hhb : ∀ t, s'.shared.heartbeatTask = some t → (φ t).place? = none ∧ (t = 0 ∨ s'.look t ≠ none)) :
    Table s' φ where
  live := hlive
  heartbeat := hhb
  distinct := by rw [hlocks]; exact h.distinct
  below := by rw [hlocks, hnext]; exact h.below
  users := by rw [hlocks, hmutex]; exact h.users
  entry := by rw [hlocks]; exact h.entry
  waiting := by rw [hmutex]; exact h.waiting
  holding := by rw [hmutex]; exact h.holding
  queued := by rw [hmutex]; exact h.queued
  owned := by rw [hmutex]; exact h.owned
  tickets := h.tickets
  ordered := by rw [hmutex]; exact h.ordered
  after := by rw [hmutex]; exact h.after
  issued t pl hpl := Nat.lt_of_lt_of_le (h.issued t pl hpl) hid

/-- **Work that leaves the chat locks alone keeps the invariant.** -/
theorem keeps {ex ex' : Exec} (h : Table ex.seen φ) (hk : KeepsLocks ex ex') :
    Table ex'.seen φ := by
  have hmutexes : ex'.mutexes = ex.mutexes := hk.mutexes
  refine h.transfer (congrArg (fun cl => fun set key => Deployment.chatLock
      { ex.shared with chatLocks := cl } set key) hk.chatLocks) hk.nextMutex
    (by funext m; simp only [seen_mutex]; unfold mutex; rw [hmutexes]) hk.nextId ?_ ?_
  · -- A task with a place is not the heartbeat's, so nothing cancels it.
    intro t pl hpl
    obtain ⟨v, hv, hdone, hc⟩ := h.live t pl hpl
    obtain ⟨c, hv', hc'⟩ := hk.tasks t v hv
    refine ⟨{ v with cancelled := c }, hv', hdone, ?_⟩
    cases c with
    | false => rfl
    | true =>
      rcases hc' rfl with hcancel | hhb
      · rw [hc] at hcancel
        cases hcancel
      · rw [(h.heartbeat t hhb).1] at hpl
        cases hpl
  · intro t hhb
    change ex'.shared.heartbeatTask = some t at hhb
    change (φ t).place? = none ∧ (t = 0 ∨ ex'.look t ≠ none)
    rcases hk.heartbeat with hsame | hnone | ⟨u, c, hnew, hfresh, hlook⟩
    · obtain ⟨hpl, hslot⟩ := h.heartbeat t (hsame ▸ hhb)
      refine ⟨hpl, hslot.imp_right fun hv => ?_⟩
      obtain ⟨v, hv'⟩ := Option.ne_none_iff_exists'.mp hv
      obtain ⟨c, hv'', -⟩ := hk.tasks t v hv'
      rw [hv'']
      exact Option.some_ne_none _
    · rw [hnone] at hhb
      cases hhb
    · rw [hnew] at hhb
      cases hhb
      refine ⟨h.place_of_look_none hfresh, ?_⟩
      rcases hlook with hzero | hlook
      · exact .inl hzero
      · rw [hlook]
        exact .inr (Option.some_ne_none _)

/-- The place of a task after one task's phase changes. -/
theorem place_update (φ : Nat → ChatPhase) (t : Nat) (ψ : ChatPhase) (u : Nat) :
    (Function.update φ t ψ u).place? = if u = t then ψ.place? else (φ u).place? := by
  rw [Function.update_apply]
  split <;> rfl

/-- **A new view of one task** keeps the invariant, as long as a task with a place stays live
and not cancelled. -/
theorem setLook (h : Table s φ) {t : Nat} {v : TaskView Job Deployment}
    (hv : ∀ pl, (φ t).place? = some pl → v.done = false ∧ v.cancelled = false) :
    Table (s.setLook t (some v)) φ := by
  have hlook (u : Nat) : (s.setLook t (some v)).look u = if u = t then some v else s.look u := by
    simp only [Seen.setLook, Function.update_apply]
  refine h.transfer rfl rfl rfl (Nat.le_refl _) (fun u pl hpl => ?_) (fun u hhb => ?_)
  · rw [hlook]
    split
    · rename_i hu
      subst hu
      exact ⟨v, rfl, hv pl hpl⟩
    · exact h.live u pl hpl
  · obtain ⟨hpl, hslot⟩ := h.heartbeat u hhb
    refine ⟨hpl, ?_⟩
    rw [hlook]
    split
    · exact .inr (Option.some_ne_none _)
    · exact hslot

/-- **A queued task whose ticket holds the mutex** goes on holding it. -/
theorem grant (h : Table s φ) {t : Nat} {pl : Place} (ht : φ t = .waiting pl)
    (hheld : (s.mutex pl.mutex).holder = some pl.ticket) :
    Table s (Function.update φ t (.holding pl)) := by
  -- The places stay as they were; only the phase of the task changes.
  have hplace (u : Nat) : (Function.update φ t (.holding pl) u).place? = (φ u).place? := by
    rw [place_update]
    split
    · rename_i hu
      rw [hu, ht]
      rfl
    · rfl
  have hphase (u : Nat) (hu : u ≠ t) : Function.update φ t (.holding pl) u = φ u :=
    Function.update_of_ne hu _ _
  exact {
    live := fun u pl' hpl => h.live u pl' (by rwa [hplace] at hpl)
    heartbeat := fun u hhb => by rw [hplace]; exact h.heartbeat u hhb
    distinct := h.distinct
    below := h.below
    users := h.users
    entry := fun u pl' hpl => h.entry u pl' (by rwa [hplace] at hpl)
    waiting := fun u pl' hu => by
      by_cases hut : u = t
      · subst hut
        rw [Function.update_self] at hu
        cases hu
      · rw [hphase u hut] at hu
        exact h.waiting u pl' hu
    holding := fun u pl' hu => by
      by_cases hut : u = t
      · subst hut
        rw [Function.update_self] at hu
        cases hu
        exact hheld
      · rw [hphase u hut] at hu
        exact h.holding u pl' hu
    queued := fun m u tk hmem => by
      obtain ⟨pl', hu, hm, htk⟩ := h.queued m u tk hmem
      by_cases hut : u = t
      · -- The task's own ticket holds the mutex, so it is queued no more.
        subst hut
        rw [ht] at hu
        cases hu
        subst hm htk
        exact absurd (h.after _ _ hheld _ hmem) (Nat.lt_irrefl _)
      · exact ⟨pl', by rw [hphase u hut]; exact hu, hm, htk⟩
    owned := fun m tk hh => by
      obtain ⟨u, pl', hpl, hm, htk⟩ := h.owned m tk hh
      exact ⟨u, pl', by rw [hplace]; exact hpl, hm, htk⟩
    tickets := fun u w pl₁ pl₂ h₁ h₂ =>
      h.tickets u w pl₁ pl₂ (by rwa [hplace] at h₁) (by rwa [hplace] at h₂)
    ordered := h.ordered
    after := h.after
    issued := fun u pl' hpl => h.issued u pl' (by rwa [hplace] at hpl) }

/-- **A holder that releases the mutex and gives its place up** keeps the invariant; it is
outside after. The mutex goes to the first waiter, and the lock goes with its last user. -/
theorem leave_of (h : Table s φ) {t : Nat} {pl : Place} (ht : φ t = .holding pl)
    (hlook : s'.look = s.look) (hid : s'.nextId = s.nextId)
    (hshared : s'.shared = Handlers.release pl.set pl.key s.shared)
    (hmutex : ∀ m, s'.mutex m =
      if m = pl.mutex then (s.mutex pl.mutex).handOver else s.mutex m) :
    Table s' (Function.update φ t .outside) := by
  have hheld := h.holding t pl ht
  obtain ⟨l, hl, hlm⟩ := h.entry t pl (by rw [ht]; rfl)
  have hload : l.users = (s.mutex pl.mutex).load := by rw [← hlm]; exact (h.users _ _ l hl).2
  obtain ⟨hnext, hhb⟩ := Handlers.release_shared pl.set pl.key s.shared
  have hlocks (set' : Nat) (key' : String) : s'.shared.chatLock set' key' =
      if set' = pl.set ∧ key' = pl.key then Handlers.left l else s.shared.chatLock set' key' := by
    rw [hshared, Handlers.chatLock_release, hl]
    rfl
  -- A lock after the release is a lock before it, with the same mutex.
  have hsub : ∀ set' key' l', s'.shared.chatLock set' key' = some l' →
      ∃ l₀, s.shared.chatLock set' key' = some l₀ ∧ l'.mutex = l₀.mutex := by
    intro set' key' l' h'
    rw [hlocks] at h'
    split at h'
    · rename_i hsame
      rw [hsame.1, hsame.2]
      exact ⟨l, hl, (Handlers.left_eq_some h').1⟩
    · exact ⟨l', h', rfl⟩
  -- The holder's ticket is its own: no other task holds it.
  have hmine : ∀ u pl', (φ u).place? = some pl' → pl'.ticket = pl.ticket → u = t :=
    fun u pl' hpl htk => h.tickets u t pl' pl hpl (by rw [ht]; rfl) htk
  -- Every other task on the mutex waits in its queue.
  have hqueue : ∀ u pl', u ≠ t → (φ u).place? = some pl' → pl'.mutex = pl.mutex →
      φ u = .waiting pl' ∧ (u, pl'.ticket) ∈ (s.mutex pl.mutex).waiters := by
    intro u pl' hut hpl hm
    have hnot : (s.mutex pl.mutex).holder ≠ some pl'.ticket := by
      intro hh
      rw [hheld] at hh
      exact hut (hmine u pl' hpl (Option.some.inj hh).symm)
    cases hφ : φ u with
    | outside =>
      rw [hφ] at hpl
      cases hpl
    | waiting pl'' =>
      rw [hφ] at hpl
      cases hpl
      have hw := h.waiting u pl' hφ
      rw [hm] at hw
      exact ⟨rfl, hw.resolve_right hnot⟩
    | holding pl'' =>
      rw [hφ] at hpl
      cases hpl
      have hh := h.holding u pl' hφ
      rw [hm] at hh
      exact absurd hh hnot
  have hother (u : Nat) (hut : u ≠ t) : Function.update φ t .outside u = φ u :=
    Function.update_of_ne hut _ _
  have hplace (u : Nat) {pl' : Place} (hpl : (Function.update φ t .outside u).place? = some pl') :
      u ≠ t ∧ (φ u).place? = some pl' := by
    rw [place_update] at hpl
    split at hpl
    · cases hpl
    · rename_i hut
      exact ⟨hut, hpl⟩
  exact {
    live := fun u pl' hpl => by
      rw [hlook]
      exact h.live u pl' (hplace u hpl).2
    heartbeat := fun u hb => by
      rw [hshared, hhb] at hb
      obtain ⟨hpl, hslot⟩ := h.heartbeat u hb
      refine ⟨?_, by rw [hlook]; exact hslot⟩
      rw [place_update]
      split
      · rfl
      · exact hpl
    distinct := fun set₁ key₁ set₂ key₂ l₁ l₂ h₁ h₂ hm => by
      obtain ⟨l₁', h₁', hm₁⟩ := hsub _ _ _ h₁
      obtain ⟨l₂', h₂', hm₂⟩ := hsub _ _ _ h₂
      exact h.distinct _ _ _ _ l₁' l₂' h₁' h₂' (by rw [← hm₁, ← hm₂]; exact hm)
    below := fun set' key' l' h' => by
      obtain ⟨l₀, h₀, hm₀⟩ := hsub _ _ _ h'
      rw [hm₀, hshared, hnext]
      exact h.below _ _ l₀ h₀
    users := fun set' key' l' h' => by
      rw [hlocks] at h'
      split at h'
      · -- The lock stays with one user less, as its mutex has.
        obtain ⟨hm, husers, hmore⟩ := Handlers.left_eq_some h'
        have hover := MutexState.load_handOver (s := s.mutex pl.mutex) (by rw [hheld]; rfl)
        rw [hm, hmutex, hlm, if_pos rfl]
        omega
      · rename_i hdiff
        have hne : l'.mutex ≠ pl.mutex := by
          intro hm
          exact hdiff (h.distinct _ _ _ _ l' l h' hl (by rw [hm, hlm]))
        rw [hmutex, if_neg hne]
        exact h.users _ _ l' h'
    entry := fun u pl' hpl => by
      obtain ⟨hut, hpl⟩ := hplace u hpl
      obtain ⟨l₀, hl₀, hm₀⟩ := h.entry u pl' hpl
      rw [hlocks]
      split
      · -- Another task of the chat waits, so the lock keeps a user.
        rename_i hsame
        rw [hsame.1, hsame.2, hl] at hl₀
        cases hl₀
        obtain ⟨-, hmem⟩ := hqueue u pl' hut hpl (hm₀.symm.trans hlm)
        have hmore : 1 < l.users := by
          rw [hload]
          unfold MutexState.load
          rw [hheld]
          have := List.length_pos_of_mem hmem
          simp only [Option.isSome_some, if_true]
          omega
        unfold Handlers.left
        rw [if_neg (by omega)]
        exact ⟨_, rfl, hm₀⟩
      · exact ⟨l₀, hl₀, hm₀⟩
    waiting := fun u pl' hu => by
      have hut : u ≠ t := by
        rintro rfl
        rw [Function.update_self] at hu
        cases hu
      rw [hother u hut] at hu
      rw [hmutex]
      split
      · rename_i hm
        have hw := h.waiting u pl' hu
        rw [hm] at hw
        rcases hw with hmem | hh
        · exact MutexState.mem_handOver hmem
        · rw [hheld] at hh
          exact absurd (hmine u pl' (by rw [hu]; rfl) (Option.some.inj hh).symm) hut
      · exact h.waiting u pl' hu
    holding := fun u pl' hu => by
      have hut : u ≠ t := by
        rintro rfl
        rw [Function.update_self] at hu
        cases hu
      rw [hother u hut] at hu
      rw [hmutex]
      split
      · rename_i hm
        have hh := h.holding u pl' hu
        rw [hm, hheld] at hh
        exact absurd (hmine u pl' (by rw [hu]; rfl) (Option.some.inj hh).symm) hut
      · exact h.holding u pl' hu
    queued := fun m u tk hmem => by
      rw [hmutex] at hmem
      have hmem' : (u, tk) ∈ (s.mutex m).waiters := by
        split at hmem
        · rename_i hm
          rw [MutexState.waiters_handOver] at hmem
          rw [hm]
          exact List.mem_of_mem_tail hmem
        · exact hmem
      obtain ⟨pl', hu, hm, htk⟩ := h.queued m u tk hmem'
      have hut : u ≠ t := by
        rintro rfl
        rw [ht] at hu
        cases hu
      exact ⟨pl', by rw [hother u hut]; exact hu, hm, htk⟩
    owned := fun m tk hh => by
      rw [hmutex] at hh
      split at hh
      · -- The first waiter holds the mutex now.
        rename_i hm
        rw [MutexState.holder_handOver] at hh
        cases hw : (s.mutex pl.mutex).waiters with
        | nil =>
          rw [hw] at hh
          cases hh
        | cons w rest =>
          rw [hw] at hh
          cases hh
          have hmem : (w.1, w.2) ∈ (s.mutex pl.mutex).waiters := by
            rw [hw]
            exact List.mem_cons_self
          obtain ⟨pl', hu, hm', htk⟩ := h.queued _ _ _ hmem
          have hut : w.1 ≠ t := by
            intro hwt
            rw [hwt, ht] at hu
            cases hu
          refine ⟨w.1, pl', ?_, hm'.trans hm.symm, htk⟩
          rw [hother _ hut, hu]
          rfl
      · rename_i hm
        obtain ⟨u, pl', hpl, hm', htk⟩ := h.owned m tk hh
        have hut : u ≠ t := by
          rintro rfl
          rw [ht] at hpl
          cases hpl
          exact hm hm'.symm
        exact ⟨u, pl', by rw [hother u hut]; exact hpl, hm', htk⟩
    tickets := fun u w pl₁ pl₂ h₁ h₂ htk =>
      h.tickets u w pl₁ pl₂ (hplace u h₁).2 (hplace w h₂).2 htk
    ordered := fun m => by
      rw [hmutex]
      split
      · rw [MutexState.waiters_handOver, List.map_tail]
        exact (h.ordered pl.mutex).sublist (List.tail_sublist _)
      · exact h.ordered m
    after := fun m tk hh w hw => by
      rw [hmutex] at hh hw
      split at hh
      · rename_i hm
        rw [if_pos hm, MutexState.waiters_handOver] at hw
        rw [MutexState.holder_handOver] at hh
        have hord := h.ordered pl.mutex
        cases hws : (s.mutex pl.mutex).waiters with
        | nil =>
          rw [hws] at hh
          cases hh
        | cons w₀ rest =>
          rw [hws] at hh hw hord
          cases hh
          exact List.rel_of_pairwise_cons hord (List.mem_map_of_mem hw)
      · rename_i hm
        rw [if_neg hm] at hw
        exact h.after m tk hh w hw
    issued := fun u pl' hpl => by
      rw [hid]
      exact h.issued u pl' (hplace u hpl).2 }

/-- **The lock a responder joins,** under the invariant: it has the users of its mutex and one
more, it keeps the chat's mutex if the chat had a lock, its mutex is no other lock's, and it is
below the next mutex number. -/
theorem joined_spec (h : Table s φ) (set : Nat) (key : String) :
    let e := Handlers.joined set key s.shared
    (s.mutex e.mutex).load + 1 = e.users ∧
      (∀ l, s.shared.chatLock set key = some l → l.mutex = e.mutex) ∧
      (∀ set' key' l', s.shared.chatLock set' key' = some l' → ¬(set' = set ∧ key' = key) →
        l'.mutex ≠ e.mutex) ∧
      e.mutex < (Handlers.acquire set key s.shared).1.nextMutex ∧
      s.shared.nextMutex ≤ (Handlers.acquire set key s.shared).1.nextMutex := by
  intro e
  have hnext := Handlers.nextMutex_acquire set key s.shared
  cases hc : s.shared.chatLock set key with
  | some l =>
    have he : e = { l with users := l.users + 1 } := by
      change Handlers.joined set key s.shared = _
      unfold Handlers.joined
      rw [hc]
    simp only [hc, Option.isSome_some, if_true] at hnext
    rw [he, hnext]
    refine ⟨by rw [(h.users _ _ l hc).2], fun l' hl' => by cases hl'; rfl,
      fun set' key' l' hl' hdiff hm => ?_, h.below _ _ l hc, Nat.le_refl _⟩
    exact hdiff (h.distinct _ _ _ _ l' l hl' hc hm)
  | none =>
    have he : e = ⟨set, key, s.shared.nextMutex, 1⟩ := by
      change Handlers.joined set key s.shared = _
      unfold Handlers.joined
      rw [hc]
    simp only [hc, Option.isSome_none, Bool.false_eq_true, if_false] at hnext
    rw [he, hnext]
    -- A new lock takes a mutex nobody uses.
    have hidle := h.idle (m := s.shared.nextMutex)
      fun set' key' l' hl' => Nat.ne_of_lt (h.below _ _ l' hl')
    refine ⟨?_, fun l' hl' => (by cases hl'), fun set' key' l' hl' _ =>
      Nat.ne_of_lt (h.below _ _ l' hl'), Nat.lt_succ_self _, Nat.le_succ _⟩
    simp [MutexState.load, hidle.1, hidle.2]

/-- **A task that takes its place on a chat's lock** keeps the invariant: it joins the chat's
lock, takes a fresh ticket, and holds the mutex if it was free, or queues behind the waiters. -/
theorem enter_of (h : Table s φ) {t : Nat} (ht : (φ t).place? = none)
    (hlive : ∃ v, s.look t = some v ∧ v.done = false ∧ v.cancelled = false)
    (hhbt : s.shared.heartbeatTask ≠ some t) (sub : Subscription) (set : Nat)
    (msg : InboundMessage) (hlook : s'.look = s.look) (hid : s'.nextId = s.nextId + 1)
    (hshared : s'.shared = (Handlers.acquire set msg.sessionKey s.shared).1)
    (hmutex : ∀ m, s'.mutex m =
      if m = (Handlers.joined set msg.sessionKey s.shared).mutex then
        (s.mutex (Handlers.joined set msg.sessionKey s.shared).mutex).attempt t s.nextId
      else s.mutex m) :
    let mu := (Handlers.joined set msg.sessionKey s.shared).mutex
    let pl : Place := ⟨sub, set, msg, mu, s.nextId⟩
    Table s' (Function.update φ t (if (s.mutex mu).isFree then .holding pl else .waiting pl)) := by
  intro mu pl
  obtain ⟨hload, hold, hothers, hbelow, hle⟩ := h.joined_spec set msg.sessionKey
  obtain ⟨ψ, hψ⟩ : ∃ ψ, ψ = if (s.mutex mu).isFree then ChatPhase.holding pl else .waiting pl :=
    ⟨_, rfl⟩
  rw [← hψ]
  have hψpl : ψ.place? = some pl := by
    rw [hψ]
    split <;> rfl
  have hplace (u : Nat) : (Function.update φ t ψ u).place? =
      if u = t then some pl else (φ u).place? := by
    rw [place_update, hψpl]
  have hother (u : Nat) (hut : u ≠ t) : Function.update φ t ψ u = φ u :=
    Function.update_of_ne hut _ _
  have hnot (u : Nat) {pl' : Place} (hpl : (φ u).place? = some pl') : u ≠ t := by
    rintro rfl
    rw [ht] at hpl
    cases hpl
  have hlocks (set' : Nat) (key' : String) : s'.shared.chatLock set' key' =
      if set' = set ∧ key' = msg.sessionKey then some (Handlers.joined set msg.sessionKey s.shared)
      else s.shared.chatLock set' key' := by
    rw [hshared, Handlers.chatLock_acquire]
  -- Asking for the mutex loses no holder and no waiter.
  have hmono (m : Nat) : (∀ x, (s.mutex m).holder = some x → (s'.mutex m).holder = some x) ∧
      ∀ w ∈ (s.mutex m).waiters, w ∈ (s'.mutex m).waiters := by
    rw [hmutex]
    split
    · rename_i hm
      rw [hm]
      exact MutexState.attempt_mono _ _
    · exact ⟨fun x hx => hx, fun w hw => hw⟩
  -- The old waiters and holders are other tasks, whose phases stay.
  have hqueued (m : Nat) (u tk : Nat) (hmem : (u, tk) ∈ (s.mutex m).waiters) :
      ∃ pl', Function.update φ t ψ u = .waiting pl' ∧ pl'.mutex = m ∧ pl'.ticket = tk := by
    obtain ⟨pl', hu, hm, htk⟩ := h.queued m u tk hmem
    exact ⟨pl', by rw [hother u (hnot u (by rw [hu]; rfl))]; exact hu, hm, htk⟩
  have howned (m tk : Nat) (hh : (s.mutex m).holder = some tk) :
      ∃ u pl', (Function.update φ t ψ u).place? = some pl' ∧ pl'.mutex = m ∧ pl'.ticket = tk := by
    obtain ⟨u, pl', hpl, hm, htk⟩ := h.owned m tk hh
    exact ⟨u, pl', by rw [hplace, if_neg (hnot u hpl)]; exact hpl, hm, htk⟩
  exact {
    live := fun u pl' hpl => by
      rw [hplace] at hpl
      rw [hlook]
      split at hpl
      · rename_i hut
        rw [hut]
        exact hlive
      · exact h.live u pl' hpl
    heartbeat := fun u hb => by
      rw [hshared, Handlers.acquire_heartbeatTask] at hb
      have hut : u ≠ t := fun hut => hhbt (hut ▸ hb)
      rw [hplace, if_neg hut, hlook]
      exact h.heartbeat u hb
    distinct := fun set₁ key₁ set₂ key₂ l₁ l₂ h₁ h₂ hm => by
      rw [hlocks] at h₁ h₂
      split at h₁ <;> split at h₂
      · rename_i hs₁ hs₂
        exact ⟨hs₁.1.trans hs₂.1.symm, hs₁.2.trans hs₂.2.symm⟩
      · rename_i hs₂
        cases h₁
        exact absurd hm.symm (hothers _ _ l₂ h₂ hs₂)
      · rename_i hs₁ _
        cases h₂
        exact absurd hm (hothers _ _ l₁ h₁ hs₁)
      · exact h.distinct _ _ _ _ l₁ l₂ h₁ h₂ hm
    below := fun set' key' l' h' => by
      rw [hlocks] at h'
      rw [hshared]
      split at h'
      · cases h'
        exact hbelow
      · exact Nat.lt_of_lt_of_le (h.below _ _ l' h') hle
    users := fun set' key' l' h' => by
      rw [hlocks] at h'
      split at h'
      · cases h'
        rw [hmutex, if_pos rfl, MutexState.load_attempt]
        omega
      · rename_i hdiff
        rw [hmutex, if_neg (hothers _ _ l' h' hdiff)]
        exact h.users _ _ l' h'
    entry := fun u pl' hpl => by
      rw [hplace] at hpl
      split at hpl
      · cases hpl
        rw [hlocks, if_pos ⟨rfl, rfl⟩]
        exact ⟨_, rfl, rfl⟩
      · obtain ⟨l₀, hl₀, hm₀⟩ := h.entry u pl' hpl
        rw [hlocks]
        split
        · rename_i hsame
          rw [hsame.1, hsame.2] at hl₀
          exact ⟨_, rfl, (hold l₀ hl₀).symm.trans hm₀⟩
        · exact ⟨l₀, hl₀, hm₀⟩
    waiting := fun u pl' hu => by
      by_cases hut : u = t
      · -- The task queues when the mutex was taken.
        subst hut
        rw [Function.update_self, hψ] at hu
        split at hu
        · cases hu
        · rename_i hbusy
          cases hu
          rw [hmutex, if_pos rfl, MutexState.waiters_attempt, if_neg hbusy]
          exact .inl (List.mem_append_right _ (List.mem_singleton_self _))
      · rw [hother u hut] at hu
        rcases h.waiting u pl' hu with hmem | hh
        · exact .inl ((hmono _).2 _ hmem)
        · exact .inr ((hmono _).1 _ hh)
    holding := fun u pl' hu => by
      by_cases hut : u = t
      · -- The task holds the mutex when it was free.
        subst hut
        rw [Function.update_self, hψ] at hu
        split at hu
        · rename_i hfree
          cases hu
          rw [hmutex, if_pos rfl, MutexState.holder_attempt, if_pos hfree]
        · cases hu
      · rw [hother u hut] at hu
        exact (hmono _).1 _ (h.holding u pl' hu)
    queued := fun m u tk hmem => by
      rw [hmutex] at hmem
      split at hmem
      · rename_i hm
        rw [MutexState.waiters_attempt] at hmem
        split at hmem
        · rw [hm]
          exact hqueued _ u tk hmem
        · rename_i hbusy
          rcases List.mem_append.mp hmem with hmem | hmem
          · rw [hm]
            exact hqueued _ u tk hmem
          · -- The new waiter is the task itself.
            obtain ⟨rfl, rfl⟩ := Prod.mk.inj (List.mem_singleton.mp hmem)
            refine ⟨pl, ?_, hm.symm, rfl⟩
            rw [Function.update_self, hψ, if_neg hbusy]
      · exact hqueued m u tk hmem
    owned := fun m tk hh => by
      rw [hmutex] at hh
      split at hh
      · rename_i hm
        rw [MutexState.holder_attempt] at hh
        split at hh
        · cases hh
          exact ⟨t, pl, by rw [hplace, if_pos rfl], hm.symm, rfl⟩
        · rw [hm]
          exact howned _ tk hh
      · exact howned m tk hh
    tickets := fun u w pl₁ pl₂ h₁ h₂ htk => by
      rw [hplace] at h₁ h₂
      split at h₁ <;> split at h₂
      · rename_i hu hw
        exact hu.trans hw.symm
      · -- A fresh ticket is no older task's.
        cases h₁
        exact absurd htk (Nat.ne_of_gt (h.issued w pl₂ h₂))
      · cases h₂
        exact absurd htk (Nat.ne_of_lt (h.issued u pl₁ h₁))
      · exact h.tickets u w pl₁ pl₂ h₁ h₂ htk
    ordered := fun m => by
      rw [hmutex]
      split
      · rw [MutexState.waiters_attempt]
        split
        · exact h.ordered mu
        · -- The fresh ticket comes after every ticket in the queue.
          rw [List.map_append, List.pairwise_append]
          refine ⟨h.ordered mu, List.pairwise_singleton _ _, fun a ha b hb => ?_⟩
          rw [List.map_singleton, List.mem_singleton] at hb
          subst hb
          obtain ⟨w, hw, rfl⟩ := List.mem_map.mp ha
          obtain ⟨pl', hu, -, htk⟩ := h.queued mu w.1 w.2 hw
          rw [← htk]
          exact h.issued w.1 pl' (by rw [hu]; rfl)
      · exact h.ordered m
    after := fun m tk hh w hw => by
      rw [hmutex] at hh hw
      split at hh
      · rename_i hm
        rw [if_pos hm, MutexState.waiters_attempt] at hw
        rw [MutexState.holder_attempt] at hh
        split at hh
        · rename_i hfree
          rw [if_pos hfree, ((MutexState.isFree_iff _).mp hfree).2] at hw
          cases hw
        · rename_i hbusy
          rw [if_neg hbusy] at hw
          rcases List.mem_append.mp hw with hw | hw
          · exact h.after mu tk hh w hw
          · -- The holder's ticket was given out before the new one.
            rw [List.mem_singleton] at hw
            subst hw
            obtain ⟨u, pl', hpl, -, htk⟩ := h.owned mu tk hh
            rw [← htk]
            exact h.issued u pl' hpl
      · rename_i hm
        rw [if_neg hm] at hw
        exact h.after m tk hh w hw
    issued := fun u pl' hpl => by
      rw [hplace] at hpl
      rw [hid]
      split at hpl
      · cases hpl
        exact Nat.lt_succ_self _
      · exact Nat.lt_succ_of_lt (h.issued u pl' hpl) }

/-- **Taking a place on the chat's lock and asking for its mutex,** as the responder does in
its first poll. -/
theorem enter {ex : Exec} (h : Table ex.seen φ) {t : Nat} (ht : (φ t).place? = none)
    (hlive : ∃ v, ex.look t = some v ∧ v.done = false ∧ v.cancelled = false)
    (hhbt : ex.shared.heartbeatTask ≠ some t) (sub : Subscription) (set : Nat)
    (msg : InboundMessage) :
    let ex₁ : Exec := { ex with shared := (Handlers.acquire set msg.sessionKey ex.shared).1 }
    let mu := (Handlers.acquire set msg.sessionKey ex.shared).2
    let pl : Place := ⟨sub, set, msg, mu, ex.nextId⟩
    Table (ex₁.lockAttempt t mu).seen
      (Function.update φ t (if (ex₁.mutex mu).isFree then .holding pl else .waiting pl)) := by
  intro ex₁ mu pl
  have hmu : mu = (Handlers.joined set msg.sessionKey ex.seen.shared).mutex :=
    Handlers.acquire_mutex set msg.sessionKey ex.shared
  have hseen := lockAttempt_seen ex₁ t mu
  have hlook : (ex₁.lockAttempt t mu).seen.look = ex.seen.look := by rw [hseen]; rfl
  have hid : (ex₁.lockAttempt t mu).seen.nextId = ex.seen.nextId + 1 := by rw [hseen]; rfl
  have hshared : (ex₁.lockAttempt t mu).seen.shared =
      (Handlers.acquire set msg.sessionKey ex.seen.shared).1 := by rw [hseen]; rfl
  have hmutex (m : Nat) : (ex₁.lockAttempt t mu).seen.mutex m =
      if m = mu then (ex.seen.mutex mu).attempt t ex.seen.nextId else ex.seen.mutex m := by
    rw [seen_mutex, mutex_lockAttempt]
    rfl
  have henter := h.enter_of ht hlive hhbt sub set msg hlook hid hshared (by rw [← hmu]; exact hmutex)
  rw [← hmu] at henter
  exact henter

/-- **Releasing the mutex and giving the place up,** as the responder does once its answer
is done. -/
theorem leave {ex : Exec} (h : Table ex.seen φ) {t : Nat} {pl : Place}
    (ht : φ t = .holding pl) :
    Table { ex.release pl.mutex with
      shared := Handlers.release pl.set pl.key (ex.release pl.mutex).shared }.seen
      (Function.update φ t .outside) := by
  have hseen := release_seen ex pl.mutex
  have hlook : (ex.release pl.mutex).seen.look = ex.seen.look := by rw [hseen]; rfl
  have hid : (ex.release pl.mutex).seen.nextId = ex.seen.nextId := by rw [hseen]; rfl
  refine h.leave_of ht hlook hid ?_ fun m => ?_
  · change Handlers.release pl.set pl.key (ex.release pl.mutex).seen.shared = _
    rw [hseen]
    rfl
  · change (ex.release pl.mutex).mutex m = _
    rw [mutex_release]
    rfl

end Table

end ChatLocks

end ChatGateway
