import Mathlib.Data.List.Induction
import Mathlib.Data.List.Nodup
import Mathlib.Data.List.Perm.Basic
import ChatGateway.Gateway.Subagents

/-! # The task table of the sub-agent manager

The manager's task table is two structures that must move together: a map from ids to records,
and the ids in the order their tasks were started, which listings and eviction follow. The table
changes in two ways only: a spawn adds the record of a new running task, and a worker that
finishes settles its task and then evicts the oldest settled tasks beyond the retention limit
(`AgentRun.register_subagents`, `Subagents.settle_subagents`). This file follows the table
through any sequence of such changes, spawns and settlements interleaved in any order, with any
outcomes and any retention limit, zero included.

* `TaskTable.Lockstep`: the order lists every id of the map exactly once and nothing else, and
  each record sits under its own id. A spawn of a fresh id, a settlement and an eviction keep it.
* `SubagentTask.Consistent`: a record has a result exactly when it completed, an error exactly
  when it failed, and a settle time exactly when it settled.
* `TaskTable.Lockstep.evictsOldest`: eviction walks the order and drops, from the order and from
  the map, exactly the earliest settled tasks in excess of the limit, and no running task; its
  count of settled tasks, taken over the map, is the count over the order.
* `TaskTable.Change`, `TaskTable.replay`: the changes, and the table they leave behind starting
  from the empty table; `Change.spawned` and `Change.pending` read the spawned ids, and the ids
  no later settlement named, off the changes alone.
* `TaskTable.replay_invariant`: as long as spawned ids are distinct, every table reached keeps its
  map and order in lockstep and in spawn order, with consistent records, at most the retention
  limit of settled tasks, and as running exactly the spawned tasks not yet settled; and the next
  settlement evicts the earliest settled tasks in excess.
-/

namespace ChatGateway

/-! ## (1) Statuses and records that agree with them -/

namespace TaskStatus

/-- The running test of `TaskTable.active` is the negation of `isTerminal`. -/
@[simp] theorem beq_running (s : TaskStatus) : (s == .running) = !s.isTerminal := by
  cases s <;> rfl

theorem isTerminal_eq_false {s : TaskStatus} : s.isTerminal = false ↔ s = .running := by
  cases s <;> simp [isTerminal]

end TaskStatus

namespace SubagentTask

/-- **A record that agrees with its status:** it has a result exactly when it completed, an
error exactly when it failed, and a settle time exactly when it settled. -/
structure Consistent (t : SubagentTask) : Prop where
  result : t.result.isSome ↔ t.status = .completed
  error : t.error.isSome ↔ t.status = .failed
  settled : t.settled = t.status.isTerminal

/-- **Settling a running record keeps it consistent:** the outcome sets exactly the field of
its status, and the other one stays empty. -/
theorem Consistent.settleWith {t : SubagentTask} (h : t.Consistent) (hrun : t.status = .running)
    (outcome : Except String String) : (t.settleWith outcome).Consistent := by
  have hr : t.result = none := by
    rw [← Option.not_isSome_iff_eq_none, h.result, hrun]
    simp
  have he : t.error = none := by
    rw [← Option.not_isSome_iff_eq_none, h.error, hrun]
    simp
  cases outcome with
  | ok r => exact ⟨by simp [SubagentTask.settleWith], by simp [SubagentTask.settleWith, he],
      by simp [SubagentTask.settleWith, TaskStatus.isTerminal]⟩
  | error e => exact ⟨by simp [SubagentTask.settleWith, hr], by simp [SubagentTask.settleWith],
      by simp [SubagentTask.settleWith, TaskStatus.isTerminal]⟩

@[simp] theorem settleWith_id (t : SubagentTask) (outcome : Except String String) :
    (t.settleWith outcome).id = t.id := by
  cases outcome <;> rfl

@[simp] theorem settleWith_isTerminal (t : SubagentTask) (outcome : Except String String) :
    (t.settleWith outcome).status.isTerminal = true := by
  cases outcome <;> rfl

end SubagentTask

/-! ## (2) The map of tasks by id -/

namespace TaskMap

variable {m : TaskMap} {id id' : String} {t : SubagentTask}

@[simp] theorem get?_empty (id : String) : ({} : TaskMap).get? id = none := rfl

/-- A lookup finds the first entry, if its key is the one looked up. -/
theorem lookup_cons_ite (k x : String) (v : SubagentTask) (l : List (String × SubagentTask)) :
    ((k, v) :: l).lookup x = if x = k then some v else l.lookup x := by
  by_cases h : x = k
  · subst h
    simp
  · rw [List.lookup_cons, beq_false_of_ne h, if_neg h]

/-- Filtering out the entries of `id` hides exactly that id. -/
theorem lookup_filter (l : List (String × SubagentTask)) (id id' : String) :
    (l.filter (·.1 != id)).lookup id' = if id' = id then none else l.lookup id' := by
  induction l with
  | nil => simp
  | cons e l ih =>
    obtain ⟨k, v⟩ := e
    by_cases hk : k = id
    · -- The first entry is filtered out; it is found only under `id`.
      subst hk
      rw [List.filter_cons_of_neg (by simp), ih, lookup_cons_ite]
      by_cases hid : id' = k <;> simp [hid]
    · rw [List.filter_cons_of_pos (by simpa using hk), lookup_cons_ite, lookup_cons_ite, ih]
      by_cases hid : id' = k
      · subst hid
        simp [hk]
      · simp [hid]

/-- An erase hides the erased id, and no other. -/
theorem get?_erase (m : TaskMap) (id id' : String) :
    (m.erase id).get? id' = if id' = id then none else m.get? id' :=
  lookup_filter m.entries id id'

/-- **An insert puts its record under its id,** and changes no other id. -/
theorem get?_insert (m : TaskMap) (id id' : String) (t : SubagentTask) :
    (m.insert id t).get? id' = if id' = id then some t else m.get? id' := by
  unfold insert get?
  by_cases hid : id' = id
  · simp [hid]
  · rw [List.lookup_cons, show (id' == id) = false from beq_false_of_ne hid]
    simp only [hid, if_false]
    exact (get?_erase m id id').trans (if_neg hid)

theorem keys_erase (m : TaskMap) (id : String) : (m.erase id).keys = m.keys.filter (· != id) := by
  simp only [keys, erase, List.filter_map]
  rfl

theorem keys_insert (m : TaskMap) (id : String) (t : SubagentTask) :
    (m.insert id t).keys = id :: m.keys.filter (· != id) := by
  rw [← keys_erase]
  rfl

/-- A list of entries holds a key exactly when a lookup finds something under it. -/
theorem mem_map_fst_iff (l : List (String × SubagentTask)) (id : String) :
    id ∈ l.map (·.1) ↔ (l.lookup id).isSome := by
  induction l with
  | nil => simp
  | cons e l ih =>
    obtain ⟨k, v⟩ := e
    rw [List.map_cons, List.mem_cons, lookup_cons_ite, ih]
    by_cases hid : id = k <;> simp [hid]

/-- The map holds an id exactly when it finds a record under it. -/
theorem mem_keys : id ∈ m.keys ↔ (m.get? id).isSome :=
  mem_map_fst_iff m.entries id

/-- In a list of entries with distinct keys, every entry is found under its key. -/
theorem lookup_of_mem {l : List (String × SubagentTask)} (hnd : (l.map (·.1)).Nodup)
    (he : (id, t) ∈ l) : l.lookup id = some t := by
  induction l with
  | nil => cases he
  | cons e l ih =>
    obtain ⟨k, v⟩ := e
    rw [List.map_cons, List.nodup_cons] at hnd
    rw [lookup_cons_ite]
    rcases List.mem_cons.1 he with heq | hl
    · obtain ⟨rfl, rfl⟩ := Prod.mk.inj heq
      exact if_pos rfl
    · -- The entry lies further on, so its key is not the first one.
      have hne : id ≠ k := by
        rintro rfl
        exact hnd.1 (List.mem_map_of_mem (f := (·.1)) hl)
      rw [if_neg hne]
      exact ih hnd.2 hl

/-- **With distinct keys, every entry is found under its key.** -/
theorem get?_of_mem (he : (id, t) ∈ m.entries) : m.get? id = some t :=
  lookup_of_mem m.keys_nodup he

/-- The records are those found under the keys. -/
theorem filterMap_keys (m : TaskMap) : m.keys.filterMap m.get? = m.values := by
  unfold keys values
  rw [List.filterMap_map, ← List.filterMap_eq_map]
  exact List.filterMap_congr fun e he => get?_of_mem he

end TaskMap

namespace TaskTable

/-! ## (3) The map and the order in lockstep -/

/-- Whether the task of an id has settled. -/
def settledId (tb : TaskTable) (id : String) : Bool := (tb.get? id).any (·.status.isTerminal)

/-- The number of settled tasks the map keeps, as the eviction counts them. -/
def settledCount (tb : TaskTable) : Nat := (tb.tasks.values.filter (·.status.isTerminal)).length

/-- **The map and the order in lockstep:** the order lists every id of the map exactly once and
nothing else, and each record sits under its own id. -/
structure Lockstep (tb : TaskTable) : Prop where
  perm : tb.order.Perm tb.tasks.keys
  keyed : ∀ id t, tb.get? id = some t → t.id = id

variable {tb : TaskTable} {id id' : String} {r : SubagentTask}

theorem Lockstep.nodup (h : tb.Lockstep) : tb.order.Nodup :=
  h.perm.nodup_iff.2 tb.tasks.keys_nodup

/-- The order holds an id exactly when the map finds a record under it. -/
theorem Lockstep.mem_iff (h : tb.Lockstep) : id ∈ tb.order ↔ (tb.get? id).isSome :=
  h.perm.mem_iff.trans TaskMap.mem_keys

theorem Lockstep.get?_of_not_mem (h : tb.Lockstep) (hid : id ∉ tb.order) : tb.get? id = none :=
  Option.not_isSome_iff_eq_none.1 fun hs => hid (h.mem_iff.2 hs)

/-- Counting the settled tasks of `l` through the map is counting its settled ids. -/
theorem length_filter_filterMap (l : List String) (g : String → Option SubagentTask) :
    ((l.filterMap g).filter (·.status.isTerminal)).length =
      (l.filter fun id => (g id).any (·.status.isTerminal)).length := by
  induction l with
  | nil => rfl
  | cons x l ih =>
    rw [List.filterMap_cons, List.filter_cons]
    cases hx : g x with
    | none => simpa using ih
    | some u =>
      by_cases hu : u.status.isTerminal = true
      · simp [hu, ih]
      · simp [hu, ih]

/-- **The eviction's count is the count of the settled ids in the order.** -/
theorem Lockstep.settledCount_eq (h : tb.Lockstep) :
    tb.settledCount = (tb.order.filter tb.settledId).length := by
  unfold settledCount
  show _ = (tb.order.filter fun id => (tb.tasks.get? id).any (·.status.isTerminal)).length
  rw [← TaskMap.filterMap_keys, ← length_filter_filterMap]
  exact ((h.perm.filterMap _).filter _).length_eq.symm

theorem lockstep_empty : ({} : TaskTable).Lockstep :=
  ⟨List.Perm.refl _, fun _ _ h => nomatch h⟩

/-- The listing finds every id of the order, in order. -/
theorem Lockstep.listAll_ids (h : tb.Lockstep) : tb.listAll.map (·.id) = tb.order := by
  unfold listAll ordered
  rw [List.filter_true, List.map_filterMap]
  refine (List.filterMap_congr (g := some) fun x hx => ?_).trans List.filterMap_some
  obtain ⟨u, hu⟩ := Option.isSome_iff_exists.1 (h.mem_iff.1 hx)
  rw [show tb.tasks.get? x = some u from hu, Option.map_some, h.keyed x u hu]

/-- The running tasks are those of the order whose records run. -/
theorem active_eq_filterMap (tb : TaskTable) :
    tb.active = tb.order.filterMap fun x => (tb.get? x).filter (·.status == .running) := by
  unfold active ordered
  exact List.filter_filterMap

/-! ## (4) Adding a task -/

theorem get?_insert (tb : TaskTable) (t : SubagentTask) (id : String) :
    (tb.insert t).get? id = if id = t.id then some t else tb.get? id :=
  TaskMap.get?_insert _ _ _ _

/-- **A task under a fresh id keeps the table in lockstep.** -/
theorem Lockstep.insert (h : tb.Lockstep) {t : SubagentTask} (hfresh : t.id ∉ tb.order) :
    (tb.insert t).Lockstep where
  perm := by
    have hkeys : tb.tasks.keys.filter (· != t.id) = tb.tasks.keys := by
      refine List.filter_eq_self.2 fun x hx => ?_
      have hne : x ≠ t.id := fun hx' => hfresh (h.perm.mem_iff.2 (hx' ▸ hx))
      simpa using hne
    show (tb.order ++ [t.id]).Perm (tb.tasks.insert t.id t).keys
    rw [TaskMap.keys_insert, hkeys]
    exact (List.perm_append_singleton _ _).trans (h.perm.cons _)
  keyed x u hu := by
    rw [get?_insert] at hu
    split at hu
    · rename_i hx
      rw [← Option.some.inj hu, hx]
    · exact h.keyed x u hu

/-- A task under a fresh id joins the running tasks at their end. -/
theorem active_insert {t : SubagentTask} (hfresh : t.id ∉ tb.order)
    (hrun : t.status = .running) : (tb.insert t).active = tb.active ++ [t] := by
  rw [active_eq_filterMap, active_eq_filterMap]
  show (tb.order ++ [t.id]).filterMap _ = _
  rw [List.filterMap_append]
  congr 1
  · refine List.filterMap_congr fun x hx => ?_
    have hne : x ≠ t.id := fun hx' => hfresh (hx' ▸ hx)
    rw [get?_insert, if_neg hne]
  · rw [List.filterMap_cons, List.filterMap_nil, get?_insert, if_pos rfl]
    simp [Option.filter, hrun, TaskStatus.isTerminal]

/-! ## (5) Settling a task -/

/-- **Settling a running task** puts its settled record in its place and returns it. -/
theorem settle_of_running (h : tb.get? id = some r) (hrun : r.status = .running)
    (o : Except String String) :
    tb.settle id o = ({ tb with tasks := tb.tasks.insert id (r.settleWith o) }, some (r.settleWith o)) := by
  unfold settle
  rw [h]
  simp [hrun, TaskStatus.isTerminal]

/-- Settling keeps the order. -/
theorem order_settle (tb : TaskTable) (id : String) (o : Except String String) :
    (tb.settle id o).1.order = tb.order := by
  unfold settle
  split
  · split <;> rfl
  · rfl

/-- **What settling leaves under each id:** the settled record under the id of a running task,
and every other record as it was. -/
theorem get?_settle (tb : TaskTable) (id id' : String) (o : Except String String) :
    (tb.settle id o).1.get? id' =
      if id' = id ∧ (tb.get? id).any (!·.status.isTerminal) = true then
        (tb.get? id).map (·.settleWith o)
      else tb.get? id' := by
  unfold settle
  split
  · rename_i t ht
    split
    · rename_i hterm
      simp [ht, hterm]
    · rename_i hrun
      show (tb.tasks.insert id (t.settleWith o)).get? id' = _
      rw [TaskMap.get?_insert]
      by_cases hid : id' = id
      · simp [hid, ht, hrun]
      · simp only [hid, false_and, if_false]
        rfl
  · rename_i hnone
    simp [hnone]

/-- The settled task is found under its id. -/
theorem get?_settle_self (h : tb.get? id = some r) (hrun : r.status = .running)
    (o : Except String String) : (tb.settle id o).1.get? id = some (r.settleWith o) := by
  rw [get?_settle, if_pos ⟨rfl, by simp [h, hrun, TaskStatus.isTerminal]⟩, h]
  rfl

/-- Settling a task leaves what every other id finds. -/
theorem get?_settle_of_ne (h : id' ≠ id) (o : Except String String) :
    (tb.settle id o).1.get? id' = tb.get? id' := by
  rw [get?_settle, if_neg fun hc => h hc.1]

/-- **Settling keeps the table in lockstep.** -/
theorem Lockstep.settle (h : tb.Lockstep) (id : String) (o : Except String String) :
    (tb.settle id o).1.Lockstep := by
  unfold TaskTable.settle
  split
  · rename_i t ht
    split
    · exact h
    · -- The record is replaced under its id, which the map holds already.
      have hmem : id ∈ tb.tasks.keys := TaskMap.mem_keys.2 (by rw [show tb.tasks.get? id = _ from ht]; rfl)
      refine ⟨?_, fun x u hu => ?_⟩
      · show tb.order.Perm (tb.tasks.insert id (t.settleWith o)).keys
        have hnd : tb.tasks.keys.Nodup := tb.tasks.keys_nodup
        rw [TaskMap.keys_insert, ← hnd.erase_eq_filter]
        exact h.perm.trans (List.perm_cons_erase hmem)
      · change (tb.tasks.insert id (t.settleWith o)).get? x = some u at hu
        rw [TaskMap.get?_insert] at hu
        split at hu
        · rename_i hx
          rw [← Option.some.inj hu, SubagentTask.settleWith_id, h.keyed id t ht, hx]
        · exact h.keyed x u hu
  · exact h

/-- Settling keeps every record consistent. -/
theorem consistent_settle (hc : ∀ x u, tb.get? x = some u → u.Consistent) (id : String)
    (o : Except String String) : ∀ x u, (tb.settle id o).1.get? x = some u → u.Consistent := by
  intro x u hu
  rw [get?_settle] at hu
  split at hu
  · rename_i hx
    cases ht : tb.get? id with
    | none => rw [ht] at hu; cases hu
    | some t =>
      rw [ht] at hu hx
      rw [← Option.some.inj hu]
      exact (hc id t ht).settleWith (TaskStatus.isTerminal_eq_false.1 (by simpa using hx.2)) o
  · exact hc x u hu

/-- **Settling a task takes exactly that task out of the running ones.** -/
theorem Lockstep.active_settle (h : tb.Lockstep) (id : String) (o : Except String String) :
    (tb.settle id o).1.active = tb.active.filter (·.id != id) := by
  rw [active_eq_filterMap, active_eq_filterMap, order_settle, List.filter_filterMap]
  refine List.filterMap_congr fun x hx => ?_
  rw [get?_settle]
  by_cases hid : x = id
  · -- The task of `id` does not run afterwards: settled now, or settled before.
    subst hid
    cases ht : tb.get? x with
    | none => simp
    | some t =>
      have hid : t.id = x := h.keyed x t ht
      by_cases hterm : t.status.isTerminal = true <;> simp [Option.filter, hterm, hid]
  · obtain ⟨u, hu⟩ := Option.isSome_iff_exists.1 (h.mem_iff.1 hx)
    rw [if_neg fun hc => hid hc.1, hu]
    have hkey : u.id = x := h.keyed x u hu
    by_cases hterm : u.status.isTerminal = true <;> simp [Option.filter, hterm, hkey, hid]

/-! ## (6) Eviction -/

/-- **Drops the first `k` ids that `p` marks,** keeping the order of the others. -/
def dropBy (p : String → Bool) : Nat → List String → List String
  | 0, ids => ids
  | _, [] => []
  | n + 1, id :: ids => if p id then dropBy p n ids else id :: dropBy p (n + 1) ids

/-- **Dropping `k` marked ids** keeps the order: the result is the unmarked ids of a prefix that
holds the first `min k c` marked ids, followed by the rest, where `c` is the number of marked
ids. -/
theorem dropBy_eq_append (p : String → Bool) (k : Nat) (ids : List String) :
    ∃ pre post, ids = pre ++ post ∧ dropBy p k ids = pre.filter (!p ·) ++ post ∧
      (pre.filter p).length = min k (ids.filter p).length := by
  -- The induction follows `dropBy`: its count, then the list.
  fun_induction dropBy p k ids with
  | case1 ids => exact ⟨[], ids, rfl, rfl, by simp⟩
  | case2 k => exact ⟨[], [], rfl, rfl, by simp⟩
  | case3 k id ids hp ih =>
    obtain ⟨pre, post, rfl, hdrop, hcount⟩ := ih
    refine ⟨id :: pre, post, rfl, by simp [hdrop, hp], ?_⟩
    simp only [List.filter_cons, hp, if_true, List.length_cons, List.filter_append,
      List.length_append] at hcount ⊢
    omega
  | case4 k id ids hp ih =>
    obtain ⟨pre, post, rfl, hdrop, hcount⟩ := ih
    refine ⟨id :: pre, post, rfl, by simp [hdrop, hp], ?_⟩
    simpa [List.filter_cons, hp] using hcount

theorem dropBy_congr {p q : String → Bool} {ids : List String} (h : ∀ x ∈ ids, p x = q x)
    (k : Nat) : dropBy p k ids = dropBy q k ids := by
  induction ids generalizing k with
  | nil => cases k <;> rfl
  | cons id ids ih =>
    have hrest : ∀ x ∈ ids, p x = q x := fun x hx => h x (List.mem_cons_of_mem _ hx)
    cases k with
    | zero => rfl
    | succ k =>
      simp only [dropBy, h id List.mem_cons_self, ih hrest]

theorem evictFrom_cons (k : Nat) (id : String) (rest : List String) (m : TaskMap) :
    evictFrom k (id :: rest) m =
      if 0 < k ∧ (m.get? id).any (·.status.isTerminal) = true then evictFrom (k - 1) rest (m.erase id)
      else ((id :: (evictFrom k rest m).1), (evictFrom k rest m).2) :=
  rfl

/-- With nothing to drop, the walk keeps everything. -/
theorem evictFrom_zero (l : List String) (m : TaskMap) : evictFrom 0 l m = (l, m) := by
  induction l with
  | nil => rfl
  | cons id rest ih => rw [evictFrom_cons, if_neg fun h => Nat.lt_irrefl 0 h.1, ih]

/-- The walk only drops ids. -/
theorem evictFrom_sublist (k : Nat) (l : List String) (m : TaskMap) :
    (evictFrom k l m).1.Sublist l := by
  induction l generalizing k m with
  | nil => exact List.Sublist.slnil
  | cons id rest ih =>
    rw [evictFrom_cons]
    split
    · exact (ih _ _).cons _
    · exact (ih _ _).cons_cons _

/-- **The walk drops the first `k` settled ids,** when the ids are distinct: erasing one changes
no lookup further on. -/
theorem evictFrom_fst (k : Nat) (l : List String) (m : TaskMap) (hnd : l.Nodup) :
    (evictFrom k l m).1 = dropBy (fun id => (m.get? id).any (·.status.isTerminal)) k l := by
  induction l generalizing k m with
  | nil => cases k <;> rfl
  | cons id rest ih =>
    rw [List.nodup_cons] at hnd
    rw [evictFrom_cons]
    split
    · rename_i hdrop
      obtain ⟨k', rfl⟩ : ∃ k', k = k' + 1 := ⟨k - 1, by omega⟩
      rw [ih _ _ hnd.2, dropBy, if_pos hdrop.2, Nat.add_sub_cancel]
      refine dropBy_congr (fun x hx => ?_) k'
      rw [TaskMap.get?_erase, if_neg fun (hxe : x = id) => hnd.1 (hxe ▸ hx)]
    · rename_i hkeep
      rw [ih _ _ hnd.2]
      cases k with
      | zero => simp only [dropBy]
      | succ k => rw [dropBy, if_neg fun h => hkeep ⟨Nat.succ_pos _, h⟩]

/-- **The walk erases from the map exactly the ids it drops,** when the ids are distinct. -/
theorem evictFrom_snd (k : Nat) (l : List String) (m : TaskMap) (hnd : l.Nodup) (x : String) :
    (evictFrom k l m).2.get? x = if x ∈ l ∧ x ∉ (evictFrom k l m).1 then none else m.get? x := by
  induction l generalizing k m with
  | nil => simp [evictFrom]
  | cons id rest ih =>
    rw [List.nodup_cons] at hnd
    rw [evictFrom_cons]
    split
    · -- The walk drops `id`: it is erased, and stands nowhere further on.
      rw [ih _ _ hnd.2, TaskMap.get?_erase]
      by_cases hx : x = id
      · subst hx
        have hout : x ∉ (evictFrom (k - 1) rest (m.erase x)).1 :=
          fun h => hnd.1 ((evictFrom_sublist _ _ _).subset h)
        simp [hnd.1, hout]
      · simp [hx]
    · rw [ih _ _ hnd.2]
      by_cases hx : x = id
      · subst hx
        simp [hnd.1]
      · simp [hx]

/-- **The eviction is the walk over the order,** with the excess of settled tasks as its count:
when there is no excess the walk keeps everything, as the early return does. -/
theorem evict_eq (tb : TaskTable) (n : Nat) :
    tb.evict n = ⟨(evictFrom (tb.settledCount - n) tb.order tb.tasks).2,
      (evictFrom (tb.settledCount - n) tb.order tb.tasks).1⟩ := by
  unfold evict
  dsimp only
  split
  · rename_i h0
    rw [show tb.settledCount - n = 0 from h0, evictFrom_zero]
  · rfl

/-- **An eviction that drops exactly the earliest settled tasks in excess of `n`,** and no
running task: the order of `tb'` is that of `tb` with the settled ids of a prefix dropped, where
the prefix holds `c - n` settled tasks of the `c` that `tb` keeps; the map of `tb'` keeps the
records of the ids left, and nothing else. -/
def EvictsOldest (n : Nat) (tb tb' : TaskTable) : Prop :=
  ∃ pre post, tb.order = pre ++ post ∧ tb'.order = pre.filter (!tb.settledId ·) ++ post ∧
    (pre.filter tb.settledId).length = tb.settledCount - n ∧
    ∀ id, tb'.get? id = if id ∈ tb'.order then tb.get? id else none

/-- **Eviction drops exactly the earliest settled tasks in excess,** from the order and from the
map, when the two are in lockstep. -/
theorem Lockstep.evictsOldest (h : tb.Lockstep) (n : Nat) : EvictsOldest n tb (tb.evict n) := by
  rw [evict_eq]
  obtain ⟨pre, post, horder, hdrop, hcount⟩ :=
    dropBy_eq_append tb.settledId (tb.settledCount - n) tb.order
  have hfst := evictFrom_fst (tb.settledCount - n) tb.order tb.tasks h.nodup
  refine ⟨pre, post, horder, hfst.trans hdrop, ?_, fun x => ?_⟩
  · rw [hcount, ← h.settledCount_eq]
    exact Nat.min_eq_left (Nat.sub_le _ _)
  · show (evictFrom _ tb.order tb.tasks).2.get? x =
      if x ∈ (evictFrom _ tb.order tb.tasks).1 then tb.tasks.get? x else none
    rw [evictFrom_snd _ _ _ h.nodup]
    by_cases hx : x ∈ (evictFrom (tb.settledCount - n) tb.order tb.tasks).1
    · simp [hx]
    · by_cases hl : x ∈ tb.order
      · simp [hx, hl]
      · simp only [hx, hl, false_and, if_false]
        exact h.get?_of_not_mem hl

/-- **Eviction keeps the table in lockstep.** -/
theorem Lockstep.evict (h : tb.Lockstep) (n : Nat) : (tb.evict n).Lockstep := by
  obtain ⟨pre, post, horder, hevict, -, hget⟩ := h.evictsOldest n
  have hsub : (tb.evict n).order.Sublist tb.order := by
    rw [hevict, horder]
    exact List.filter_sublist.append (List.Sublist.refl post)
  have hkeys : (tb.evict n).tasks.keys.Nodup := (tb.evict n).tasks.keys_nodup
  refine ⟨(List.perm_ext_iff_of_nodup (h.nodup.sublist hsub) hkeys).2 fun x => ?_,
    fun x u hu => ?_⟩
  · rw [TaskMap.mem_keys, show (tb.evict n).tasks.get? x = (tb.evict n).get? x from rfl, hget x]
    by_cases hx : x ∈ (tb.evict n).order
    · simp only [hx, if_true, true_iff]
      exact h.mem_iff.1 (hsub.subset hx)
    · simp [hx]
  · rw [hget x] at hu
    split at hu
    · exact h.keyed x u hu
    · cases hu

/-- **At most `n` settled tasks survive an eviction.** -/
theorem Lockstep.settledCount_evict (h : tb.Lockstep) (n : Nat) : (tb.evict n).settledCount ≤ n := by
  obtain ⟨pre, post, horder, hevict, hcount, hget⟩ := h.evictsOldest n
  -- The ids left find their old records.
  have hsame : (tb.evict n).order.filter (tb.evict n).settledId =
      (tb.evict n).order.filter tb.settledId :=
    List.filter_congr fun x hx => by simp only [settledId, hget x, if_pos hx]
  have hall := h.settledCount_eq
  rw [horder, List.filter_append, List.length_append] at hall
  rw [(h.evict n).settledCount_eq, hsame, hevict, List.filter_append, List.filter_filter,
    List.length_append]
  have hnone : (pre.filter fun x => tb.settledId x && !tb.settledId x) = [] :=
    List.filter_eq_nil_iff.2 fun x _ => by simp
  rw [hnone, List.length_nil]
  omega

/-- **No running task is evicted.** -/
theorem Lockstep.active_evict (h : tb.Lockstep) (n : Nat) : (tb.evict n).active = tb.active := by
  obtain ⟨pre, post, horder, hevict, -, hget⟩ := h.evictsOldest n
  rw [active_eq_filterMap, active_eq_filterMap,
    List.filterMap_congr fun x hx => by rw [hget x, if_pos hx], hevict, horder,
    List.filterMap_append, List.filterMap_append, List.filterMap_filter]
  congr 1
  -- A dropped id has settled, so it is no running task anyway.
  refine List.filterMap_congr fun x _ => ?_
  cases hs : tb.settledId x
  · rfl
  · cases ht : tb.get? x with
    | none => rfl
    | some t =>
      simp only [settledId, ht, Option.any_some] at hs
      simp [Option.filter, hs]

/-- **An eviction keeps every task it finds, or drops it when it has settled.** -/
theorem Lockstep.get?_evict (h : tb.Lockstep) (hr : tb.get? id = some r) (n : Nat) :
    (tb.evict n).get? id = some r ∨ ((tb.evict n).get? id = none ∧ r.status.isTerminal = true) := by
  obtain ⟨pre, post, horder, hevict, -, hget⟩ := h.evictsOldest n
  rw [hget id]
  by_cases hx : id ∈ (tb.evict n).order
  · exact .inl (by rw [if_pos hx, hr])
  · -- A dropped id stood in the prefix, and had settled.
    refine .inr ⟨if_neg hx, ?_⟩
    have hmem : id ∈ tb.order := h.mem_iff.2 (by rw [hr]; rfl)
    rw [horder] at hmem
    rw [hevict] at hx
    rcases List.mem_append.1 hmem with hpre | hpost
    · have hs : tb.settledId id = true := by
        by_contra hns
        exact hx (List.mem_append_left _ (List.mem_filter.2 ⟨hpre, by simpa using hns⟩))
      simpa [settledId, hr] using hs
    · exact absurd (List.mem_append_right _ hpost) hx

/-- An eviction finds only records the table had. -/
theorem Lockstep.get?_of_evict (h : tb.Lockstep) {n : Nat} (hr : (tb.evict n).get? id = some r) :
    tb.get? id = some r := by
  obtain ⟨-, -, -, -, -, hget⟩ := h.evictsOldest n
  rw [hget id] at hr
  split at hr
  · exact hr
  · cases hr

/-- No running task is evicted. -/
theorem Lockstep.get?_evict_of_running (h : tb.Lockstep) (hr : tb.get? id = some r)
    (hrun : r.status = .running) (n : Nat) : (tb.evict n).get? id = some r := by
  rcases h.get?_evict hr n with hkept | ⟨-, hterm⟩
  · exact hkept
  · rw [hrun] at hterm
    cases hterm

/-- An eviction finds nothing new. -/
theorem Lockstep.get?_evict_of_none (h : tb.Lockstep) (hr : tb.get? id = none) (n : Nat) :
    (tb.evict n).get? id = none := by
  obtain ⟨-, -, -, -, -, hget⟩ := h.evictsOldest n
  rw [hget id, hr]
  split <;> rfl

/-! ## (7) Any sequence of spawns and settlements -/

/-- **A change of the task table:** a spawn adds the record of a new task, a settlement settles
a task with the outcome of its run. -/
inductive Change where
  | spawn (id task : String) (label : Option String) (channel chatId : String)
  | settle (id : String) (outcome : Except String String)

/-- The record a spawn adds: running, with neither result nor error nor settle time. -/
def spawnRecord (id task : String) (label : Option String) (channel chatId : String) :
    SubagentTask :=
  { id, task, label, originChannel := channel, originChatId := chatId }

/-- **The table after a change,** where a settlement evicts beyond `maxRetained`. -/
def Change.apply (maxRetained : Nat) (tb : TaskTable) : Change → TaskTable
  | .spawn id task label channel chatId => tb.insert (spawnRecord id task label channel chatId)
  | .settle id outcome => (tb.settle id outcome).1.evict maxRetained

/-- **The table a sequence of changes leaves,** from the empty table. -/
def replay (maxRetained : Nat) (cs : List Change) : TaskTable :=
  cs.foldl (Change.apply maxRetained) {}

/-- The ids a sequence of changes spawns, in order. -/
def Change.spawned (cs : List Change) : List String :=
  cs.filterMap fun
    | .spawn id .. => some id
    | .settle .. => none

/-- **The ids a sequence of changes leaves running:** the spawned ids, in spawn order, that no
later settlement names. -/
def Change.pending (cs : List Change) : List String :=
  cs.foldl (fun ps c =>
    match c with
    | .spawn id .. => ps ++ [id]
    | .settle id _ => ps.filter (· != id)) []

@[simp] theorem replay_nil (n : Nat) : replay n [] = {} := rfl

theorem replay_append (n : Nat) (cs : List Change) (c : Change) :
    replay n (cs ++ [c]) = c.apply n (replay n cs) := by
  simp [replay]

@[simp] theorem spawned_append_spawn (cs : List Change) (id task : String) (label : Option String)
    (channel chatId : String) :
    Change.spawned (cs ++ [.spawn id task label channel chatId]) = Change.spawned cs ++ [id] := by
  simp [Change.spawned]

@[simp] theorem spawned_append_settle (cs : List Change) (id : String)
    (outcome : Except String String) :
    Change.spawned (cs ++ [.settle id outcome]) = Change.spawned cs := by
  simp [Change.spawned]

@[simp] theorem pending_append_spawn (cs : List Change) (id task : String) (label : Option String)
    (channel chatId : String) :
    Change.pending (cs ++ [.spawn id task label channel chatId]) = Change.pending cs ++ [id] := by
  simp [Change.pending]

@[simp] theorem pending_append_settle (cs : List Change) (id : String)
    (outcome : Except String String) :
    Change.pending (cs ++ [.settle id outcome]) = (Change.pending cs).filter (· != id) := by
  simp [Change.pending]

/-- **What every table reached by the changes `cs` satisfies.** -/
structure Invariant (n : Nat) (cs : List Change) (tb : TaskTable) : Prop where
  /-- The order lists every id of the map exactly once and nothing else. -/
  lockstep : tb.Lockstep
  /-- The order is the spawn order. -/
  ordered : tb.order.Sublist (Change.spawned cs)
  /-- Every record agrees with its status. -/
  consistent : ∀ id t, tb.get? id = some t → t.Consistent
  /-- At most `n` settled tasks are kept. -/
  retained : tb.settledCount ≤ n
  /-- The running tasks are the spawned ones no settlement named yet, in spawn order. -/
  active : tb.active.map (·.id) = Change.pending cs

theorem invariant_nil (n : Nat) : Invariant n [] (replay n []) where
  lockstep := lockstep_empty
  ordered := List.Sublist.slnil
  consistent _ _ h := nomatch h
  retained := Nat.zero_le n
  active := rfl

/-- **A spawn of a fresh id keeps the invariant:** the new record is running and comes last. -/
theorem Invariant.spawn {n : Nat} {cs : List Change} {tb : TaskTable} (h : Invariant n cs tb)
    {id : String} (hfresh : id ∉ Change.spawned cs) (task : String) (label : Option String)
    (channel chatId : String) :
    Invariant n (cs ++ [.spawn id task label channel chatId])
      ((Change.spawn id task label channel chatId).apply n tb) where
  lockstep := h.lockstep.insert fun hmem => hfresh (h.ordered.subset hmem)
  ordered := by
    rw [spawned_append_spawn]
    exact h.ordered.append (List.Sublist.refl [id])
  consistent x u hu := by
    change (tb.insert _).get? x = some u at hu
    rw [get?_insert] at hu
    split at hu
    · rw [← Option.some.inj hu]
      exact ⟨by simp [spawnRecord], by simp [spawnRecord], rfl⟩
    · exact h.consistent x u hu
  retained := by
    -- The new record is running, and its id is fresh: the settled ids are as before.
    have hnotin : id ∉ tb.order := fun hmem => hfresh (h.ordered.subset hmem)
    have hls := h.lockstep.insert (t := spawnRecord id task label channel chatId) hnotin
    have hsame : (tb.order ++ [id]).filter (tb.insert (spawnRecord id task label channel chatId)).settledId =
        tb.order.filter tb.settledId := by
      rw [List.filter_append]
      have hnew : [id].filter (tb.insert (spawnRecord id task label channel chatId)).settledId = [] := by
        simp [settledId, get?_insert, spawnRecord, TaskStatus.isTerminal]
      rw [hnew, List.append_nil]
      refine List.filter_congr fun x hx => ?_
      have hne : x ≠ id := fun hx' => hnotin (hx' ▸ hx)
      simp only [settledId, get?_insert, spawnRecord, if_neg hne]
    change (tb.insert _).settledCount ≤ n
    rw [hls.settledCount_eq]
    change ((tb.order ++ [id]).filter _).length ≤ n
    rw [hsame, ← h.lockstep.settledCount_eq]
    exact h.retained
  active := by
    rw [pending_append_spawn, ← h.active]
    change (tb.insert _).active.map _ = _
    rw [active_insert (fun hmem => hfresh (h.ordered.subset hmem)) rfl, List.map_append]
    rfl

/-- **A settlement keeps the invariant.** -/
theorem Invariant.settle {n : Nat} {cs : List Change} {tb : TaskTable} (h : Invariant n cs tb)
    (id : String) (outcome : Except String String) :
    Invariant n (cs ++ [.settle id outcome]) ((Change.settle id outcome).apply n tb) where
  lockstep := (h.lockstep.settle id outcome).evict n
  ordered := by
    obtain ⟨pre, post, horder, hevict, -⟩ := (h.lockstep.settle id outcome).evictsOldest n
    rw [spawned_append_settle]
    change ((tb.settle id outcome).1.evict n).order.Sublist _
    rw [hevict]
    refine List.Sublist.trans ?_ h.ordered
    rw [← order_settle tb id outcome, horder]
    exact List.filter_sublist.append (List.Sublist.refl post)
  consistent x u hu :=
    consistent_settle h.consistent id outcome x u ((h.lockstep.settle id outcome).get?_of_evict hu)
  retained := (h.lockstep.settle id outcome).settledCount_evict n
  active := by
    change ((tb.settle id outcome).1.evict n).active.map _ = _
    rw [(h.lockstep.settle id outcome).active_evict, h.lockstep.active_settle, pending_append_settle,
      ← h.active, List.filter_map]
    rfl

/-- **Every table reached keeps the invariant,** as long as the spawned ids are distinct. -/
theorem invariant_replay (n : Nat) (cs : List Change) (hids : (Change.spawned cs).Nodup) :
    Invariant n cs (replay n cs) := by
  -- The induction adds one change at a time at the end, as the table sees them.
  induction cs using List.reverseRecOn with
  | nil => exact invariant_nil n
  | append_singleton cs c ih =>
    rw [replay_append]
    cases c with
    | spawn id task label channel chatId =>
      rw [spawned_append_spawn, ← List.concat_eq_append, List.nodup_concat] at hids
      exact (ih hids.2).spawn hids.1 task label channel chatId
    | settle id outcome =>
      rw [spawned_append_settle] at hids
      exact (ih hids).settle id outcome

/-- **The task table's invariant.** As long as the spawned ids are distinct, every table that a
sequence of spawns and settlements reaches, for any retention limit `n`, keeps its map and its
order in lockstep, its order in spawn order, records that agree with their statuses and at most
`n` settled tasks; its running tasks are exactly the spawned tasks that no settlement named yet,
in spawn order; and the next settlement drops exactly the earliest settled tasks in excess of
`n`, and no running task. -/
theorem replay_invariant (n : Nat) (cs : List Change) (hids : (Change.spawned cs).Nodup) :
    Invariant n cs (replay n cs) ∧
      ∀ id outcome, EvictsOldest n ((replay n cs).settle id outcome).1
        (replay n (cs ++ [.settle id outcome])) := by
  have hinv := invariant_replay n cs hids
  refine ⟨hinv, fun id outcome => ?_⟩
  rw [replay_append]
  exact (hinv.lockstep.settle id outcome).evictsOldest n

end TaskTable

/-! ## (8) The deployment's writes of the table are changes -/

/-- **The record of a task in the deployment's table.** -/
def Deployment.record? (d : Deployment) (id : String) : Option SubagentTask :=
  d.subagents.bind fun m => m.table.get? id

/-- The records are the manager's. -/
theorem Deployment.record?_congr {d d' : Deployment} (h : d'.subagents = d.subagents) (id : String) :
    d'.record? id = d.record? id := by
  unfold Deployment.record?
  rw [h]

/-- **A spawn's write** adds the new task's record to the manager's table. -/
theorem AgentRun.register_subagents (task : String) (label : Option String) (channel chatId : String)
    (d : Deployment) :
    (AgentRun.register task label channel chatId d).1.subagents =
      d.subagents.map fun m => { m with table :=
        ((TaskTable.Change.spawn d.freshTaskId.2 task label channel chatId).apply
          m.budget.maxRetained m.table) } := rfl

/-- **A worker's write** settles its task and evicts beyond the manager's retention limit. -/
theorem Subagents.settle_subagents (id : String) (r : Except String (Option (Except String RunResult)))
    (d : Deployment) :
    (Subagents.settle id r d).1.subagents =
      d.subagents.map fun m => { m with table :=
        (TaskTable.Change.settle id (Subagents.outcomeOf r)).apply m.budget.maxRetained m.table } := by
  unfold Subagents.settle
  split
  · rename_i hnone
    rw [hnone]
    rfl
  · rename_i m hm
    rw [hm]
    rfl

end ChatGateway
