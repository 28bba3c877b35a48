import Mathlib.Data.List.Induction
import Mathlib.Data.List.Nodup
import ChatGateway.Bus.Registry

/-! # The subscription registry of the event bus

The bus hands out subscription ids from one counter shared by both topics and keeps the
subscriptions of each topic in the order they were made. This file follows the registry through
any sequence of subscriptions, unsubscriptions and closes on a fresh bus.

* `Bus.ids`: the ids listed for a topic, in the order its handlers run.
* `Bus.Call`, `Bus.Call.run`: the calls, and the registry they leave together with the ids the
  subscriptions returned.
* `Bus.Call.Live`: the subscriptions still in place, read off the calls alone: made on that topic
  while the bus was open, and named by no later unsubscription from that topic.
* `Bus.Invariant`: the counter, the closed flag, the id order and the listed ids of a reached
  registry, preserved by every call (`Invariant.subscribe`, `Invariant.unsubscribe`,
  `Invariant.close`).
* `Bus.Call.run_registry`: the `n`-th subscription returns `n`; each topic lists exactly its live
  subscriptions, in increasing id order; counts, statistics and unsubscription answer from that
  list; and a closed bus lists nothing, whatever comes after.
-/

namespace ChatGateway

/-- Comparing topics is equality. -/
@[simp] theorem Topic.beq_eq (a b : Topic) : (a == b) = decide (a = b) := by
  cases a <;> cases b <;> rfl

namespace Bus

/-! ## (1) Reading a registry -/

/-- The ids listed for a topic, in the order its handlers run. -/
def ids (b : Bus) (t : Topic) : List Nat := (b.handlersOf t).map (·.id)

theorem mem_ids {b : Bus} {t : Topic} {id : Nat} :
    id ∈ b.ids t ↔ ∃ s ∈ b.subscriptions, s.topic = t ∧ s.id = id := by
  simp [ids, handlersOf, and_assoc]

/-- The number of handlers of a topic is the length of its list. -/
theorem count_eq_length (b : Bus) (t : Topic) : b.count t = (b.ids t).length := by
  simp [count, ids]

/-- **A subscription has statistics exactly when its topic lists it.** -/
theorem stats?_isSome_iff (b : Bus) (t : Topic) (id : Nat) :
    (b.stats? t id).isSome ↔ id ∈ b.ids t := by
  simp [stats?, List.find?_isSome, mem_ids]

/-- An ascending registry lists each topic's ids in increasing order. -/
theorem ids_ascending {b : Bus} (h : (b.subscriptions.map (·.id)).Pairwise (· < ·)) (t : Topic) :
    (b.ids t).Pairwise (· < ·) :=
  h.sublist (List.filter_sublist.map _)

/-! ## (2) One call at a time -/

section Subscribe

variable (b : Bus) (t : Topic) (s : Subscriber)

@[simp] theorem subscribe_snd : (b.subscribe t s).2 = b.nextId := by
  unfold subscribe
  dsimp only
  split <;> rfl

@[simp] theorem subscribe_nextId : (b.subscribe t s).1.nextId = b.nextId + 1 := by
  unfold subscribe
  dsimp only
  split <;> rfl

/-- **Subscribing** appends the new subscription when the bus is open, and registers nothing
when it is closed. -/
theorem subscribe_subscriptions :
    (b.subscribe t s).1.subscriptions =
      if b.closed then b.subscriptions
      else b.subscriptions ++ [{ id := b.nextId, topic := t, subscriber := s }] := by
  unfold subscribe
  dsimp only
  split <;> rfl

theorem closed_subscribe : (b.subscribe t s).1.closed = b.closed := by
  unfold subscribe
  dsimp only
  split <;> rfl

/-- A subscription after subscribing was there before, or is the new one, with the counter's id. -/
theorem mem_subscribe {u : Subscription} (hu : u ∈ (b.subscribe t s).1.subscriptions) :
    u ∈ b.subscriptions ∨ u = { id := b.nextId, topic := t, subscriber := s } := by
  rw [subscribe_subscriptions] at hu
  split at hu
  · exact .inl hu
  · simpa using hu

variable {b}

/-- Subscribing keeps the subscriptions in increasing id order: the new one comes last. -/
theorem ascending_subscribe (hasc : (b.subscriptions.map (·.id)).Pairwise (· < ·))
    (hbelow : ∀ u ∈ b.subscriptions, u.id < b.nextId) :
    ((b.subscribe t s).1.subscriptions.map (·.id)).Pairwise (· < ·) := by
  rw [subscribe_subscriptions]
  split
  · exact hasc
  · simp only [List.map_append, List.map_cons, List.map_nil]
    refine List.pairwise_append.2 ⟨hasc, List.pairwise_singleton _ _, ?_⟩
    intro a ha c hc
    obtain ⟨u, hu, rfl⟩ := List.mem_map.1 ha
    rw [List.mem_singleton.1 hc]
    exact hbelow u hu

/-- Subscribing keeps every id below the counter. -/
theorem below_subscribe (hbelow : ∀ u ∈ b.subscriptions, u.id < b.nextId) :
    ∀ u ∈ (b.subscribe t s).1.subscriptions, u.id < (b.subscribe t s).1.nextId := by
  intro u hu
  rw [subscribe_nextId]
  rcases mem_subscribe b t s hu with hu | rfl
  · exact Nat.lt_succ_of_lt (hbelow u hu)
  · exact Nat.lt_succ_self _

end Subscribe

/-- On an open bus the new id joins the end of its topic's list. -/
theorem ids_subscribe_of_open {b : Bus} (h : b.closed = false) (t : Topic) (s : Subscriber)
    (t' : Topic) : (b.subscribe t s).1.ids t' = b.ids t' ++ if t = t' then [b.nextId] else [] := by
  rw [ids, handlersOf, subscribe_subscriptions, h, if_neg Bool.false_ne_true, List.filter_append]
  by_cases ht : t = t' <;> simp [ids, handlersOf, ht]

theorem ids_subscribe_of_closed {b : Bus} (h : b.closed = true) (t : Topic) (s : Subscriber)
    (t' : Topic) : (b.subscribe t s).1.ids t' = b.ids t' := by
  rw [ids, handlersOf, subscribe_subscriptions, h, if_pos rfl]
  rfl

section Unsubscribe

variable (b : Bus) (t : Topic) (id : Nat)

/-- **Unsubscribing answers whether the topic lists the id.** -/
theorem unsubscribe_snd : (b.unsubscribe t id).2 = true ↔ id ∈ b.ids t := by
  simp [unsubscribe, List.any_eq_true, mem_ids]

theorem unsubscribe_nextId : (b.unsubscribe t id).1.nextId = b.nextId := rfl

theorem unsubscribe_closed : (b.unsubscribe t id).1.closed = b.closed := rfl

theorem unsubscribe_sublist : (b.unsubscribe t id).1.subscriptions.Sublist b.subscriptions :=
  List.filter_sublist

/-- **Unsubscribing from a topic** drops that id's entries from its list and keeps the others
in order; the other topic's list stays as it was. -/
theorem handlersOf_unsubscribe (t' : Topic) :
    (b.unsubscribe t id).1.handlersOf t' =
      if t = t' then (b.handlersOf t').filter (·.id != id) else b.handlersOf t' := by
  simp only [handlersOf, unsubscribe, List.filter_filter]
  by_cases ht : t = t'
  · subst ht
    simp only [if_true]
    exact List.filter_congr fun u _ => by
      by_cases hu : u.topic = t <;> by_cases hi : u.id = id <;> simp [hu, hi, bne]
  · simp only [ht, if_false]
    exact List.filter_congr fun u _ => by
      by_cases hu : u.topic = t' <;> simp [hu, Ne.symm ht]

theorem mem_ids_unsubscribe {t' : Topic} {id' : Nat} :
    id' ∈ (b.unsubscribe t id).1.ids t' ↔ id' ∈ b.ids t' ∧ ¬ (t = t' ∧ id = id') := by
  rw [ids, handlersOf_unsubscribe]
  by_cases ht : t = t'
  · subst ht
    simp only [if_true, ids, List.mem_map, List.mem_filter, bne_iff_ne, ne_eq, true_and]
    constructor
    · rintro ⟨u, ⟨hu, hne⟩, rfl⟩
      exact ⟨⟨u, hu, rfl⟩, fun h => hne h.symm⟩
    · rintro ⟨⟨u, hu, rfl⟩, hne⟩
      exact ⟨u, ⟨hu, fun h => hne h.symm⟩, rfl⟩
  · simp [ids, ht]

end Unsubscribe

/-! ## (3) Calls, and what the calls alone say is subscribed -/

/-- **A call on the registry.** -/
inductive Call where
  | subscribe (topic : Topic) (s : Subscriber)
  | unsubscribe (topic : Topic) (id : Nat)
  | close

namespace Call

/-- The registry after a call. -/
def apply (b : Bus) : Call → Bus
  | .subscribe t s => (b.subscribe t s).1
  | .unsubscribe t id => (b.unsubscribe t id).1
  | .close => b.close

/-- The ids a call returns: a subscription returns one. -/
def returned (b : Bus) : Call → List Nat
  | .subscribe t s => [(b.subscribe t s).2]
  | _ => []

/-- Whether a call subscribes. -/
def isSubscribe : Call → Bool
  | .subscribe .. => true
  | _ => false

/-- The number of subscriptions among some calls. -/
def subscribeCount (cs : List Call) : Nat := cs.countP isSubscribe

/-- **Runs calls on a fresh bus:** the registry they leave, and the ids the subscriptions
returned, in order. -/
def run (cs : List Call) : Bus × List Nat :=
  cs.foldl (fun (r : Bus × List Nat) c => (c.apply r.1, r.2 ++ c.returned r.1)) ({}, [])

theorem run_append (cs : List Call) (c : Call) :
    run (cs ++ [c]) = (c.apply (run cs).1, (run cs).2 ++ c.returned (run cs).1) := by
  simp [run, List.foldl_append]

/-- **A live subscription of `t` with id `id`:** no call closed the bus, and some call subscribed
to `t` as the `id`-th subscription, with no later call unsubscribing `id` from `t`. -/
def Live (cs : List Call) (t : Topic) (id : Nat) : Prop :=
  close ∉ cs ∧ ∃ pre s post, cs = pre ++ subscribe t s :: post ∧
    id = subscribeCount pre + 1 ∧ unsubscribe t id ∉ post

/-- Where a call stands in calls that end with `c`: it is `c` itself, or it stands in the calls
before. -/
theorem eq_append_cons_iff {cs pre post : List Call} {c x : Call} :
    cs ++ [c] = pre ++ x :: post ↔
      (pre = cs ∧ x = c ∧ post = []) ∨ ∃ post', post = post' ++ [c] ∧ cs = pre ++ x :: post' := by
  rcases List.eq_nil_or_concat post with rfl | ⟨post', y, rfl⟩
  · constructor
    · intro h
      obtain ⟨hpre, hx⟩ := List.append_inj' h.symm rfl
      exact .inl ⟨hpre, by simpa using hx, rfl⟩
    · rintro (⟨rfl, rfl, -⟩ | ⟨post', h, -⟩)
      · rfl
      · simp at h
  · have hshape : pre ++ x :: post'.concat y = (pre ++ x :: post') ++ [y] := by simp
    rw [hshape]
    constructor
    · intro h
      obtain ⟨hcs, hc⟩ := List.append_inj' h rfl
      refine .inr ⟨post', by simp [List.singleton_inj.1 hc], hcs⟩
    · rintro (⟨-, -, h⟩ | ⟨post'', h, rfl⟩)
      · simp at h
      · obtain ⟨rfl, rfl⟩ : post' = post'' ∧ y = c := by simpa using h
        rfl

theorem not_live_of_close {cs : List Call} (h : close ∈ cs) (t : Topic) (id : Nat) :
    ¬ Live cs t id :=
  fun hl => hl.1 h

/-- **A subscription at the end** is live when it was made on an open bus. -/
theorem live_append_subscribe {cs : List Call} {t t' : Topic} {s : Subscriber} {id : Nat} :
    Live (cs ++ [subscribe t' s]) t id ↔
      Live cs t id ∨ (close ∉ cs ∧ t' = t ∧ id = subscribeCount cs + 1) := by
  have hclose : close ∉ cs ++ [subscribe t' s] ↔ close ∉ cs := by simp
  unfold Live
  rw [hclose]
  constructor
  · rintro ⟨hc, pre, s', post, hsplit, hid, hpost⟩
    rcases eq_append_cons_iff.1 hsplit with ⟨rfl, hx, -⟩ | ⟨post', rfl, rfl⟩
    · cases hx
      exact .inr ⟨hc, rfl, hid⟩
    · exact .inl ⟨hc, pre, s', post', rfl, hid, fun h => hpost (List.mem_append_left _ h)⟩
  · rintro (⟨hc, pre, s', post, rfl, hid, hpost⟩ | ⟨hc, rfl, rfl⟩)
    · refine ⟨hc, pre, s', post ++ [subscribe t' s], by simp, hid, ?_⟩
      simpa using hpost
    · exact ⟨hc, cs, s, [], rfl, rfl, by simp⟩

/-- **An unsubscription at the end** ends exactly the subscription it names. -/
theorem live_append_unsubscribe {cs : List Call} {t t' : Topic} {id id' : Nat} :
    Live (cs ++ [unsubscribe t' id']) t id ↔ Live cs t id ∧ ¬ (t' = t ∧ id' = id) := by
  have hclose : close ∉ cs ++ [unsubscribe t' id'] ↔ close ∉ cs := by simp
  unfold Live
  rw [hclose]
  constructor
  · rintro ⟨hc, pre, s, post, hsplit, hid, hpost⟩
    rcases eq_append_cons_iff.1 hsplit with ⟨-, hx, -⟩ | ⟨post', rfl, rfl⟩
    · cases hx
    · have hnot : unsubscribe t id ∉ post' ∧ ¬ (t' = t ∧ id' = id) := by
        simpa [eq_comm, and_comm] using hpost
      exact ⟨⟨hc, pre, s, post', rfl, hid, hnot.1⟩, hnot.2⟩
  · rintro ⟨⟨hc, pre, s, post, rfl, hid, hpost⟩, hne⟩
    refine ⟨hc, pre, s, post ++ [unsubscribe t' id'], by simp, hid, ?_⟩
    simp only [List.mem_append, List.mem_singleton, unsubscribe.injEq, not_or]
    exact ⟨hpost, fun h => hne ⟨h.1.symm, h.2.symm⟩⟩

end Call

/-! ## (4) The invariant of a reached registry -/

/-- **What every registry reached by the calls `cs` satisfies.** -/
structure Invariant (cs : List Call) (b : Bus) : Prop where
  /-- The counter has moved once per subscription. -/
  nextId : b.nextId = Call.subscribeCount cs + 1
  /-- The bus is closed exactly when some call closed it. -/
  closed : b.closed = true ↔ Call.close ∈ cs
  /-- The subscriptions are kept in increasing id order, all below the counter. -/
  ascending : (b.subscriptions.map (·.id)).Pairwise (· < ·)
  below : ∀ s ∈ b.subscriptions, s.id < b.nextId
  /-- Each topic lists exactly its live subscriptions. -/
  live : ∀ t id, id ∈ b.ids t ↔ Call.Live cs t id

namespace Invariant

open Call

theorem nil : Invariant [] {} where
  nextId := rfl
  closed := by simp
  ascending := List.Pairwise.nil
  below _ h := nomatch h
  live _ _ := by simp [ids, handlersOf, Live]

variable {cs : List Call} {b : Bus}

/-- **A subscription keeps the invariant:** on an open bus it comes last, with the largest id. -/
theorem subscribe (h : Invariant cs b) (t : Topic) (s : Subscriber) :
    Invariant (cs ++ [.subscribe t s]) ((Call.subscribe t s).apply b) where
  nextId := by simp [apply, h.nextId, subscribeCount, isSubscribe]
  closed := by simp [apply, closed_subscribe, h.closed]
  ascending := ascending_subscribe t s h.ascending h.below
  below := below_subscribe t s h.below
  live t' id := by
    rw [live_append_subscribe, ← h.live, ← h.nextId]
    cases hb : b.closed with
    | true =>
      have hc : Call.close ∈ cs := h.closed.1 hb
      simp [apply, ids_subscribe_of_closed hb, hc]
    | false =>
      have hc : Call.close ∉ cs := fun hc => by simp [h.closed.2 hc] at hb
      simp [apply, ids_subscribe_of_open hb, hc]

/-- **An unsubscription keeps the invariant:** it only drops entries. -/
theorem unsubscribe (h : Invariant cs b) (t : Topic) (id : Nat) :
    Invariant (cs ++ [.unsubscribe t id]) ((Call.unsubscribe t id).apply b) where
  nextId := by simp [apply, unsubscribe_nextId, h.nextId, subscribeCount, isSubscribe]
  closed := by simp [apply, unsubscribe_closed, h.closed]
  ascending := h.ascending.sublist ((b.unsubscribe_sublist t id).map _)
  below u hu := h.below u ((b.unsubscribe_sublist t id).subset hu)
  live t' id' := by
    rw [live_append_unsubscribe, ← h.live]
    exact mem_ids_unsubscribe b t id

/-- **A close keeps the invariant:** nothing is listed, and nothing is live any more. -/
theorem close (h : Invariant cs b) : Invariant (cs ++ [.close]) (Call.close.apply b) where
  nextId := by simp [apply, Bus.close, h.nextId, subscribeCount, isSubscribe]
  closed := by simp [apply, Bus.close]
  ascending := List.Pairwise.nil
  below _ hu := nomatch hu
  live t id := by
    have hnot := not_live_of_close (show Call.close ∈ cs ++ [.close] by simp) t id
    simp [apply, Bus.close, ids, handlersOf, hnot]

end Invariant

namespace Call

/-- **Every registry reached keeps the invariant.** -/
theorem invariant_run (cs : List Call) : Invariant cs (run cs).1 := by
  -- The induction adds one call at a time at the end, as the bus sees them.
  induction cs using List.reverseRecOn with
  | nil => exact Invariant.nil
  | append_singleton cs c ih =>
    rw [run_append]
    cases c with
    | subscribe t s => exact ih.subscribe t s
    | unsubscribe t id => exact ih.unsubscribe t id
    | close => exact ih.close

/-- **The `n`-th subscription returns `n`,** whether or not the bus was closed by then. -/
theorem returned_run (cs : List Call) : (run cs).2 = List.range' 1 (subscribeCount cs) := by
  induction cs using List.reverseRecOn with
  | nil => rfl
  | append_singleton cs c ih =>
    rw [run_append, ih]
    cases c with
    | subscribe t s =>
      have hid := (invariant_run cs).nextId
      have hone : [Call.subscribe t s].countP isSubscribe = 1 := rfl
      simp only [returned, subscribe_snd, hid, subscribeCount, List.countP_append, hone]
      rw [List.range'_concat]
      simp [Nat.add_comm]
    | unsubscribe t id => simp [returned, subscribeCount, isSubscribe]
    | close => simp [returned, subscribeCount, isSubscribe]

/-- **The subscription registry.** For every sequence of subscriptions, unsubscriptions and closes
on a fresh bus: the `n`-th subscription returns `n`, so the ids returned are distinct and
increasing, also once the bus is closed; every topic's list holds exactly the topic's live
subscriptions, in increasing id order, which is subscription order; its count is its length, and
a subscription has statistics exactly when the list holds it; unsubscribing answers whether the
list holds the id and removes exactly that entry, keeping the others and the other topic's list
in order; and once a call has closed the bus, no topic lists anything. -/
theorem run_registry (cs : List Call) :
    (run cs).2 = List.range' 1 (subscribeCount cs) ∧ (run cs).2.Pairwise (· < ·) ∧
      ∀ t : Topic,
        ((run cs).1.ids t).Pairwise (· < ·) ∧
        (∀ id, id ∈ (run cs).1.ids t ↔ Live cs t id) ∧
        (run cs).1.count t = ((run cs).1.ids t).length ∧
        (∀ id, ((run cs).1.stats? t id).isSome ↔ id ∈ (run cs).1.ids t) ∧
        (∀ id, (((run cs).1.unsubscribe t id).2 = true ↔ id ∈ (run cs).1.ids t) ∧
          ((run cs).1.unsubscribe t id).1.ids t = ((run cs).1.ids t).erase id ∧
          ((run cs).1.unsubscribe t id).1.handlersOf t =
            ((run cs).1.handlersOf t).filter (·.id != id) ∧
          ∀ t', t' ≠ t → ((run cs).1.unsubscribe t id).1.handlersOf t' = (run cs).1.handlersOf t') ∧
        (close ∈ cs → (run cs).1.handlersOf t = []) := by
  have hinv := invariant_run cs
  have hret := returned_run cs
  refine ⟨hret, hret ▸ List.pairwise_lt_range', fun t => ?_⟩
  have hasc := ids_ascending hinv.ascending t
  refine ⟨hasc, hinv.live t, count_eq_length _ t, stats?_isSome_iff _ t, fun id => ?_, ?_⟩
  · -- With increasing ids, dropping the entries of `id` erases exactly one of them.
    have hnodup : ((run cs).1.ids t).Nodup := hasc.imp Nat.ne_of_lt
    have hself := handlersOf_unsubscribe (run cs).1 t id t
    rw [if_pos rfl] at hself
    refine ⟨unsubscribe_snd _ t id, ?_, hself, fun t' ht' => ?_⟩
    · rw [hnodup.erase_eq_filter, ids, hself, ids, List.filter_map]
      rfl
    · rw [handlersOf_unsubscribe, if_neg (Ne.symm ht')]
  · intro hc
    have hempty : ∀ id, id ∉ (run cs).1.ids t := fun id hid =>
      not_live_of_close hc t id ((hinv.live t id).1 hid)
    simpa [ids, List.eq_nil_iff_forall_not_mem] using hempty

/-- Three subscriptions and an unsubscription: the inbound list keeps the third one only. -/
example : (run [.subscribe .inbound .router, .subscribe .outbound .router,
    .subscribe .inbound .router, .unsubscribe .inbound 1]).1.ids .inbound = [3] := by
  decide

end Call

end Bus

end ChatGateway
