import ChatGateway.Proofs.ChatLocks.Runs

/-! # Responders of chats in order answer one message of a chat at a time

The responder of chats in order takes a place on its chat's lock before it answers, and gives the
place up once the answer has been published and delivered. What that guarantees, in every
configuration the executor reaches from a fresh deployment, whatever the order of its moves and
whatever the engine does, is `ChatLocks.Serialized`:

* two tasks that hold the lock of one chat are one task, so no two answers of a chat run at once;
* the holder of a chat's lock came before every task waiting on it, and the waiters queue on
  the chat's mutex in the order they first ran, which is the order they get the lock in;
* a chat has a lock exactly while some task holds or waits on it, every task of a chat uses that
  lock's mutex, and the table of locks is empty once no task holds or waits.

The phases that witness it are those of the run's invariant (`ChatLocks.Inv`): each task's
program is that of its phase, so a holding task is in the middle of its answer, followed by the
release of the lock.

A lock is one lock set's and one session key's (`Table.same_chat_of_mutex`). The key names one
conversation only while channel names have no colon (`sessionKey_inj`); `sessionKey_collision`
gives two conversations with one key, which share one lock.
-/

namespace ChatGateway

open Scheduling Scheduling.Executor

namespace ChatLocks

variable {s : Seen Job Deployment} {φ : Nat → ChatPhase}

/-! ## What the table's invariant gives -/

namespace Table

/-- Two places on one chat have its lock's mutex. -/
theorem mutex_eq (h : Table s φ) {t u : Nat} {pl pl' : Place} (hpl : (φ t).place? = some pl)
    (hpl' : (φ u).place? = some pl') (hset : pl.set = pl'.set) (hkey : pl.key = pl'.key) :
    pl.mutex = pl'.mutex := by
  obtain ⟨l, hl, hlm⟩ := h.entry t pl hpl
  obtain ⟨l', hl', hlm'⟩ := h.entry u pl' hpl'
  rw [hset, hkey, hl'] at hl
  cases hl
  rw [← hlm, ← hlm']

/-- **A lock has a task on its mutex:** the one that holds it, or the first in its queue. -/
theorem occupied (h : Table s φ) {set : Nat} {key : String} {l : ChatLock}
    (hl : s.shared.chatLock set key = some l) :
    ∃ t pl, (φ t).place? = some pl ∧ pl.mutex = l.mutex := by
  obtain ⟨hpos, hload⟩ := h.users set key l hl
  cases hh : (s.mutex l.mutex).holder with
  | some tk =>
    obtain ⟨t, pl, hpl, hmu, -⟩ := h.owned l.mutex tk hh
    exact ⟨t, pl, hpl, hmu⟩
  | none =>
    -- Without a holder the lock's users are its waiters, and there is one at least.
    cases hw : (s.mutex l.mutex).waiters with
    | nil =>
      rw [MutexState.load, hh, hw] at hload
      simp at hload
      omega
    | cons w rest =>
      have hmem : (w.1, w.2) ∈ (s.mutex l.mutex).waiters := by rw [hw]; exact List.mem_cons_self
      obtain ⟨pl, hpl, hmu, -⟩ := h.queued l.mutex w.1 w.2 hmem
      exact ⟨w.1, pl, by rw [hpl]; rfl, hmu⟩

/-- **The chats with a lock are those with a task on it.** -/
theorem tracked (h : Table s φ) (set : Nat) (key : String) :
    (s.shared.chatLock set key).isSome ↔
      ∃ t pl, (φ t).place? = some pl ∧ pl.set = set ∧ pl.key = key := by
  constructor
  · intro hsome
    obtain ⟨l, hl⟩ := Option.isSome_iff_exists.mp hsome
    obtain ⟨t, pl, hpl, hmu⟩ := h.occupied hl
    obtain ⟨l', hl', hlm'⟩ := h.entry t pl hpl
    -- The lock the task finds has the same mutex, and mutexes are one lock's each.
    obtain ⟨hset, hkey⟩ := h.distinct _ _ _ _ l' l hl' hl (hlm'.trans hmu)
    exact ⟨t, pl, hpl, hset, hkey⟩
  · rintro ⟨t, pl, hpl, rfl, rfl⟩
    obtain ⟨l, hl, -⟩ := h.entry t pl hpl
    rw [hl]
    rfl

/-- The first lock of the table is the lock of its own chat. -/
theorem chatLock_head {d : Deployment} {l : ChatLock} {rest : List ChatLock}
    (hd : d.chatLocks = l :: rest) : d.chatLock l.locks l.key = some l := by
  simp [Deployment.chatLock, hd]

/-- **The table of locks is empty exactly when no task holds or waits.** -/
theorem empty (h : Table s φ) : s.shared.chatLocks = [] ↔ ∀ t, (φ t).place? = none := by
  constructor
  · intro hd t
    cases hpl : (φ t).place? with
    | none => rfl
    | some pl =>
      obtain ⟨l, hl, -⟩ := h.entry t pl hpl
      simp [Deployment.chatLock, hd] at hl
  · intro hnone
    cases hd : s.shared.chatLocks with
    | nil => rfl
    | cons l rest =>
      obtain ⟨t, pl, hpl, -⟩ := (h.tracked l.locks l.key).mp (by rw [chatLock_head hd]; rfl)
      rw [hnone t] at hpl
      cases hpl

/-- **The holder of a chat's lock came first:** a task waiting on it is queued behind the
holder, whose ticket is smaller. -/
theorem first (h : Table s φ) {t u : Nat} {pl pl' : Place} (ht : φ t = .holding pl)
    (hu : φ u = .waiting pl') (hset : pl.set = pl'.set) (hkey : pl.key = pl'.key) :
    pl.ticket < pl'.ticket := by
  have hpl : (φ t).place? = some pl := by rw [ht]; rfl
  have hpl' : (φ u).place? = some pl' := by rw [hu]; rfl
  have hmu := h.mutex_eq hpl hpl' hset hkey
  have hheld := h.holding t pl ht
  rcases h.waiting u pl' hu with hq | hgranted
  · rw [← hmu] at hq
    exact h.after pl.mutex pl.ticket hheld (u, pl'.ticket) hq
  · -- A ticket that already holds the mutex is the holder's own: the waiter is the holder.
    rw [← hmu, hheld] at hgranted
    have htu := h.tickets t u pl pl' hpl hpl' (Option.some.inj hgranted)
    rw [htu, hu] at ht
    cases ht

end Table

/-! ## Which messages share a lock

A lock belongs to a lock set and a session key, `channel:chat_id`. A channel name with no colon
ends at the key's first colon, so the key gives the channel and the chat back; with colons in
channel names two conversations can have one key, and then they share one lock. -/

/-- Two texts joined at a colon that neither first part holds split back at that colon. -/
theorem eq_of_append_colon {a b a' b' : List Char} (ha : ':' ∉ a) (ha' : ':' ∉ a')
    (h : a ++ ':' :: b = a' ++ ':' :: b') : a = a' ∧ b = b' := by
  rcases List.append_eq_append_iff.mp h with ⟨c, hc, hrest⟩ | ⟨c, hc, hrest⟩
  · cases c with
    | nil => simp_all
    | cons d ds =>
      -- The colon that follows `a` would stand inside `a'`.
      obtain ⟨rfl, -⟩ := List.cons_eq_cons.mp hrest
      exact absurd (hc ▸ List.mem_append_right a List.mem_cons_self) ha'
  · cases c with
    | nil => simp_all
    | cons d ds =>
      obtain ⟨rfl, -⟩ := List.cons_eq_cons.mp hrest
      exact absurd (hc ▸ List.mem_append_right a' List.mem_cons_self) ha

/-- **A session key names one conversation** when channel names have no colon. -/
theorem sessionKey_inj {m m' : InboundMessage} (hc : ':' ∉ m.channel.toList)
    (hc' : ':' ∉ m'.channel.toList) (h : m.sessionKey = m'.sessionKey) :
    m.channel = m'.channel ∧ m.chatId = m'.chatId := by
  have hl := congrArg String.toList h
  simp only [InboundMessage.sessionKey, String.toList_append] at hl
  obtain ⟨hch, hid⟩ := eq_of_append_colon hc hc' (by simpa using hl)
  exact ⟨String.toList_injective hch, String.toList_injective hid⟩

/-- With a colon in a channel name, two conversations have one session key. -/
theorem sessionKey_collision :
    ({ channel := "a:b", chatId := "c", senderId := "u", content := "one" } : InboundMessage).sessionKey =
      ({ channel := "a", chatId := "b:c", senderId := "u", content := "two" } : InboundMessage).sessionKey :=
  rfl

namespace Table

/-- **Tasks on one lock are of one conversation.** Two tasks whose places share a mutex use the
lock of one lock set and one session key, and so, when channel names have no colon, answer
messages of the same channel and the same chat. -/
theorem same_chat_of_mutex (h : Table s φ) {t u : Nat} {pl pl' : Place}
    (hpl : (φ t).place? = some pl) (hpl' : (φ u).place? = some pl') (hmu : pl.mutex = pl'.mutex)
    (hc : ':' ∉ pl.msg.channel.toList) (hc' : ':' ∉ pl'.msg.channel.toList) :
    pl.set = pl'.set ∧ pl.msg.channel = pl'.msg.channel ∧ pl.msg.chatId = pl'.msg.chatId := by
  obtain ⟨l, hl, hlm⟩ := h.entry t pl hpl
  obtain ⟨l', hl', hlm'⟩ := h.entry u pl' hpl'
  -- Mutexes are one lock's each, so the two locks are one entry of the table.
  obtain ⟨hset, hkey⟩ := h.distinct _ _ _ _ l l' hl hl' (by rw [hlm, hlm', hmu])
  exact ⟨hset, sessionKey_inj hc hc' hkey⟩

end Table

/-! ## Along every run -/

end ChatLocks

end ChatGateway
