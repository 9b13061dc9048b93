/-
**The subscription manager over whole runs.** Calls of `SubscriptionManager` from any threads, each section
under a lock one step.

* `managerRuns` — the sections as a machine, beside when each key was last newly inserted and the latest
  request for it;
* `ManagerRun.Coherent` — no stored key waits for a cancel, and the stored requests are the latest ones in
  the order of their insertion;
* `manager_coherent` — `Coherent` in every run, with what `clear_server_ids` and `resolve_unsubscribe` do
  from there.
-/

import FugleMarketdata.Websocket.SubscriptionManager

namespace FugleMarketdata

open StepMachines StepMachine

/-- A section under a lock. `unsubscribe` and `clear` are two sections each. -/
inductive ManagerSection where
  | subscribe (req : SubscribeRequest)
  | removeSubscription (key : String)
  | takeServerId (key : String)
  | recordAck (key serverId : String)
  | resolveUnsubscribe (target : String)
  | clearServerIds
  | clearSubscriptions
  | clearIds
  deriving DecidableEq, Repr

/-- The manager after some sections: how many there were, at which of them each key was last inserted
where it was not stored, and the latest request for it. -/
structure ManagerRun where
  manager : SubscriptionManager := {}
  sections : Nat := 0
  insertedAt : String → Nat := fun _ => 0
  latest : String → Option SubscribeRequest := fun _ => none

namespace ManagerRun

/-- A section that inserts nothing. -/
def next (run : ManagerRun) (manager : SubscriptionManager) : ManagerRun :=
  { run with manager, sections := run.sections + 1 }

/-- `subscribe`. -/
def subscribe (run : ManagerRun) (req : SubscribeRequest) : ManagerRun where
  manager := run.manager.subscribe req
  sections := run.sections + 1
  insertedAt key :=
    if key = req.key ∧ key ∉ run.manager.subscriptions then run.sections else run.insertedAt key
  latest key := if key = req.key then some req else run.latest key

def step (run : ManagerRun) : ManagerSection → Option ManagerRun
  | .subscribe req => some (run.subscribe req)
  | .removeSubscription key => some (run.next (run.manager.removeSubscription key))
  | .takeServerId key => some (run.next (run.manager.takeServerId key).2)
  | .recordAck key serverId => some (run.next (run.manager.recordAck key serverId).2)
  | .resolveUnsubscribe target => some (run.next (run.manager.resolveUnsubscribe target).2)
  | .clearServerIds => some (run.next run.manager.clearServerIds)
  | .clearSubscriptions => some (run.next run.manager.clearSubscriptions)
  | .clearIds => some (run.next run.manager.clearIds)

end ManagerRun

/-- The managers some sections lead to from an empty one. -/
def managerRuns : StepMachine ManagerRun ManagerSection where
  start run := run = {}
  step := ManagerRun.step

/-- The representation invariant. -/
structure ManagerRun.Coherent (run : ManagerRun) : Prop where
  apart : ∀ key ∈ run.manager.subscriptions, key ∉ run.manager.ids.pendingCancels
  past : ∀ key ∈ run.manager.subscriptions, run.insertedAt key < run.sections
  ordered : run.manager.subscriptions.keys.Pairwise fun first second =>
    run.insertedAt first < run.insertedAt second
  latest : ∀ entry ∈ run.manager.subscriptions.entries, run.latest entry.1 = some entry.2

namespace ManagerRun

variable {run : ManagerRun}

/-- What removes stored requests, and adds no cancel for one that stays, keeps the invariant. -/
theorem Coherent.shrink (coherent : run.Coherent) {manager : SubscriptionManager}
    (fewer : manager.subscriptions.entries.Sublist run.manager.subscriptions.entries)
    (cancels : ∀ key ∈ manager.subscriptions, key ∈ manager.ids.pendingCancels →
      key ∈ run.manager.ids.pendingCancels) : (run.next manager).Coherent := by
  have keys : manager.subscriptions.keys.Sublist run.manager.subscriptions.keys := fewer.map Prod.fst
  constructor
  case apart =>
    intro key stored cancelled
    exact coherent.apart key (keys.subset stored) (cancels key stored cancelled)
  case past =>
    intro key stored
    exact Nat.lt_succ_of_lt (coherent.past key (keys.subset stored))
  case ordered => exact coherent.ordered.sublist keys
  case latest => exact fun entry stored => coherent.latest entry (fewer.subset stored)

theorem Coherent.subscribe (coherent : run.Coherent) (req : SubscribeRequest) :
    (run.subscribe req).Coherent := by
  constructor
  case apart =>
    intro key stored cancelled
    obtain ⟨other, waiting⟩ := SubscriptionManager.mem_pendingCancels_subscribe.mp cancelled
    rcases SubscriptionManager.mem_subscribe.mp stored with same | old
    · exact other same
    · exact coherent.apart key old waiting
  case past =>
    intro key stored
    simp only [ManagerRun.subscribe]
    split
    · exact Nat.lt_succ_self _
    · rename_i notNew
      rcases SubscriptionManager.mem_subscribe.mp stored with same | old
      · have there : key ∈ run.manager.subscriptions := by
          by_contra absent
          exact notNew ⟨same, absent⟩
        exact Nat.lt_succ_of_lt (coherent.past key there)
      · exact Nat.lt_succ_of_lt (coherent.past key old)
  case ordered =>
    have unmoved (key : String) (stored : key ∈ run.manager.subscriptions) :
        (run.subscribe req).insertedAt key = run.insertedAt key := if_neg fun new => new.2 stored
    have old : run.manager.subscriptions.keys.Pairwise fun first second =>
        (run.subscribe req).insertedAt first < (run.subscribe req).insertedAt second := by
      refine coherent.ordered.imp_of_mem fun first second before => ?_
      rw [unmoved _ first, unmoved _ second]
      exact before
    have keys : (run.subscribe req).manager.subscriptions.keys =
        if req.key ∈ run.manager.subscriptions then run.manager.subscriptions.keys
        else run.manager.subscriptions.keys ++ [req.key] := IndexMap.keys_insert _ _ _
    rw [keys]
    split
    · exact old
    · rename_i absent
      refine List.pairwise_append.mpr ⟨old, List.pairwise_singleton _ _, fun first stored second last => ?_⟩
      rw [List.mem_singleton.mp last, unmoved first stored,
        show (run.subscribe req).insertedAt req.key = run.sections from if_pos ⟨rfl, absent⟩]
      exact coherent.past first stored
  case latest =>
    rintro ⟨key, value⟩ stored
    have found : (run.manager.subscriptions.insert req.key req).get? key = some value :=
      IndexMap.get?_eq_some.mpr stored
    rw [IndexMap.get?_insert] at found
    show (if key = req.key then some req else run.latest key) = some value
    by_cases same : key = req.key
    · rw [if_pos same] at found ⊢
      exact found
    · rw [if_neg same] at found ⊢
      exact coherent.latest (key, value) (IndexMap.get?_eq_some.mp found)

theorem Coherent.resolveUnsubscribe (coherent : run.Coherent) (target : String) :
    (run.next (run.manager.resolveUnsubscribe target).2).Coherent := by
  have fewer (keys : List String) :
      (run.manager.removeKeys keys).subscriptions.entries.Sublist run.manager.subscriptions.entries := by
    rw [SubscriptionManager.removeKeys, IndexMap.entries_removeAll]
    exact List.filter_sublist
  have resolution := run.manager.resolveUnsubscribe_cases target
  generalize run.manager.resolveUnsubscribe target = result at resolution
  cases resolution with
  | byKey => exact coherent.shrink (fewer _) fun _ _ waiting => waiting
  | byId => exact coherent.shrink (fewer _) fun _ _ waiting => waiting
  | pending =>
    refine coherent.shrink List.filter_sublist fun key stored waiting => ?_
    obtain ⟨different, -⟩ := IndexMap.mem_shiftRemove.mp stored
    exact (Finset.mem_insert.mp waiting).resolve_left different
  | unknown => exact coherent.shrink (List.Sublist.refl _) fun _ _ waiting => waiting

theorem Coherent.step (coherent : run.Coherent) {after : ManagerRun} {label : ManagerSection}
    (stepped : run.step label = some after) : after.Coherent := by
  cases label with
  | subscribe req =>
    cases stepped
    exact coherent.subscribe req
  | removeSubscription key =>
    cases stepped
    exact coherent.shrink List.filter_sublist fun _ _ waiting => waiting
  | takeServerId key =>
    cases stepped
    exact coherent.shrink (List.Sublist.refl _) fun _ _ waiting => waiting
  | recordAck key serverId =>
    cases stepped
    refine coherent.shrink ?_ fun other _ waiting => ?_
    · rw [SubscriptionManager.subscriptions_recordAck]
    · by_cases pending : key ∈ run.manager.ids.pendingCancels
      · rw [SubscriptionManager.recordAck_pending serverId pending] at waiting
        exact Finset.mem_of_mem_erase waiting
      · rw [SubscriptionManager.recordAck_recorded serverId pending] at waiting
        exact waiting
  | resolveUnsubscribe target =>
    cases stepped
    exact coherent.resolveUnsubscribe target
  | clearServerIds =>
    cases stepped
    exact coherent.shrink (List.Sublist.refl _) fun _ _ waiting => (Finset.mem_filter.mp waiting).1
  | clearSubscriptions =>
    cases stepped
    exact coherent.shrink (List.nil_sublist _) fun _ _ waiting => waiting
  | clearIds =>
    cases stepped
    exact coherent.shrink (List.Sublist.refl _) fun _ _ waiting => absurd waiting (Finset.notMem_empty _)

theorem coherent_start : Coherent {} where
  apart _ _ := Finset.notMem_empty _
  past _ stored := by cases stored
  ordered := List.Pairwise.nil
  latest _ stored := by cases stored

theorem coherent_of_reachable (reached : managerRuns.Reachable run) : run.Coherent :=
  reached.invariant (fun _ starts => starts ▸ coherent_start) fun _ _ _ coherent stepped =>
    coherent.step stepped

/-- After `clear_server_ids` nothing is left under the id lock. -/
theorem Coherent.clearServerIds (coherent : run.Coherent) :
    run.manager.clearServerIds.ids.byKey = .empty ∧ run.manager.clearServerIds.ids.pendingCancels = ∅ ∧
      run.manager.clearServerIds.subscriptions = run.manager.subscriptions := by
  refine ⟨rfl, Finset.filter_eq_empty_iff.mpr fun key waiting stored => ?_, rfl⟩
  exact coherent.apart key stored waiting

end ManagerRun

/-- What `resolve_unsubscribe` does with the recorded id of some keys. -/
theorem SubscriptionManager.resolveUnsubscribe_byId {mgr : SubscriptionManager} {target : String}
    (notKey : mgr.ids.byKey.get? target = none) (recorded : ∃ key, mgr.ids.byKey.get? key = some target) :
    mgr.resolveUnsubscribe target = (some target, mgr.removeKeys (mgr.keysOf target)) := by
  have resolution := mgr.resolveUnsubscribe_cases target
  generalize mgr.resolveUnsubscribe target = result at resolution ⊢
  obtain ⟨key, found⟩ := recorded
  cases resolution with
  | byKey holds => cases notKey.symm.trans holds
  | byId => rfl
  | pending _ unrecorded => exact absurd found (unrecorded key)
  | unknown _ unrecorded => exact absurd found (unrecorded key)

/-- **The subscription manager stays coherent.** In every run of its sections: no key is stored and waits
for a cancel; each key is stored once, and `get_all` lists the latest requests in the order in which their
keys were last newly inserted; after `clear_server_ids` no id and no cancel is left and the stored requests
are as before; and `resolve_unsubscribe` with the id of some keys removes these keys, from the stored
requests and from the ids, and nothing else. -/
theorem manager_coherent {run : ManagerRun} (reached : managerRuns.Reachable run) :
    (∀ key, ¬ (key ∈ run.manager.subscriptions ∧ key ∈ run.manager.ids.pendingCancels)) ∧
      run.manager.subscriptions.keys.Nodup ∧
      (run.manager.subscriptions.keys.Pairwise fun first second =>
        run.insertedAt first < run.insertedAt second) ∧
      run.manager.getAll.map some = run.manager.subscriptions.keys.map run.latest ∧
      (run.manager.clearServerIds.ids.byKey = .empty ∧
        run.manager.clearServerIds.ids.pendingCancels = ∅ ∧
        run.manager.clearServerIds.subscriptions = run.manager.subscriptions) ∧
      ∀ target, run.manager.ids.byKey.get? target = none →
        (∃ key, run.manager.ids.byKey.get? key = some target) →
          (run.manager.resolveUnsubscribe target).1 = some target ∧
            (run.manager.resolveUnsubscribe target).2.subscriptions.entries =
              run.manager.subscriptions.entries.filter
                (fun entry => run.manager.ids.byKey.get? entry.1 ≠ some target) ∧
            (∀ key, (run.manager.resolveUnsubscribe target).2.ids.byKey.get? key =
              if run.manager.ids.byKey.get? key = some target then none
              else run.manager.ids.byKey.get? key) ∧
            (run.manager.resolveUnsubscribe target).2.ids.pendingCancels =
              run.manager.ids.pendingCancels := by
  have coherent := ManagerRun.coherent_of_reachable reached
  refine ⟨fun key both => coherent.apart key both.1 both.2, run.manager.subscriptions.nodup,
    coherent.ordered, ?_, coherent.clearServerIds, fun target notKey recorded => ?_⟩
  · rw [SubscriptionManager.getAll, IndexMap.values, IndexMap.keys, List.map_map, List.map_map]
    exact List.map_congr_left fun entry stored => (coherent.latest entry stored).symm
  · rw [SubscriptionManager.resolveUnsubscribe_byId notKey recorded]
    refine ⟨rfl, ?_, fun key => ?_, rfl⟩
    · rw [SubscriptionManager.removeKeys, IndexMap.entries_removeAll]
      refine List.filter_congr fun entry _ => ?_
      exact decide_eq_decide.mpr (not_congr SubscriptionManager.mem_keysOf)
    · rw [SubscriptionManager.get?_removeKeys]
      exact if_congr SubscriptionManager.mem_keysOf rfl rfl

/-- Two subscriptions, the first of them removed and made again. -/
def subscribedAgain : List ManagerSection :=
  [.subscribe { channel := "trades", symbol := some "2330" },
    .subscribe { channel := "trades", symbol := some "2317" },
    .resolveUnsubscribe "trades:2330",
    .subscribe { channel := "trades", symbol := some "2330" }]

theorem manager_coherent_subscribedAgain :
    ∃ run, managerRuns.run {} subscribedAgain = some run ∧
      run.manager.subscriptions.keys = ["trades:2317", "trades:2330"] ∧
      ¬ ("trades:2330" ∈ run.manager.subscriptions ∧
        "trades:2330" ∈ run.manager.ids.pendingCancels) := by
  refine ⟨_, rfl, by decide, (manager_coherent ?_).1 "trades:2330"⟩
  exact reachable_of_run subscribedAgain (.init managerRuns rfl) rfl

end FugleMarketdata
