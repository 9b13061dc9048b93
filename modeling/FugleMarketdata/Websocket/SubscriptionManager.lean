/-
**The subscription manager.** `core/src/websocket/subscription.rs`.

The stored subscriptions, in order, and what is known of the server's ids for them: an id per
acknowledged key, and the keys unsubscribed before their ack arrived. Each function is one critical
section, except the ones that let the locks go in between, which are composed of two.

* `resolveUnsubscribe_cases` — the four things an unsubscribe can find;
* `IdRun` — the manager beside the acks the server sent it since the ids were last cleared;
* `handedBack_spares_iff` — an id handed back to be unsubscribed ends another key still stored exactly
  where that key is recorded with it too.
-/

import Mathlib.Data.Finset.Basic
import FugleMarketdata.Lib.IndexMap
import FugleMarketdata.Lib.StepMachine
import FugleMarketdata.Models.Subscription

namespace FugleMarketdata

open StepMachines StepMachine

/-! ### The manager -/

/-- Server ids by local key, and the keys unsubscribed before their ack arrived. -/
structure ServerIds where
  byKey : IndexMap String String := .empty
  pendingCancels : Finset String := ∅

structure SubscriptionManager where
  subscriptions : IndexMap String SubscribeRequest := .empty
  ids : ServerIds := {}

namespace SubscriptionManager

/-- Store a request under its key; a cancel waiting for the key's ack is dropped. -/
def subscribe (mgr : SubscriptionManager) (req : SubscribeRequest) : SubscriptionManager where
  subscriptions := mgr.subscriptions.insert req.key req
  ids := { mgr.ids with pendingCancels := mgr.ids.pendingCancels.erase req.key }

/-- The first half of `unsubscribe` and of `resolveUnsubscribe`'s removals. -/
def removeSubscription (mgr : SubscriptionManager) (key : String) : SubscriptionManager :=
  { mgr with subscriptions := mgr.subscriptions.shiftRemove key }

/-- `take_server_id`: the recorded id of a key, which is forgotten. -/
def takeServerId (mgr : SubscriptionManager) (key : String) : Option String × SubscriptionManager :=
  (mgr.ids.byKey.get? key,
    { mgr with ids := { mgr.ids with byKey := mgr.ids.byKey.shiftRemove key } })

/-- Remove a subscription, then, under the other lock, its id. -/
def unsubscribe (mgr : SubscriptionManager) (key : String) : SubscriptionManager :=
  ((mgr.removeSubscription key).takeServerId key).2

/-- Record the server's id for a key. -/
def recordServerId (mgr : SubscriptionManager) (key serverId : String) : SubscriptionManager :=
  { mgr with ids := { mgr.ids with byKey := mgr.ids.byKey.insert key serverId } }

/-- Record the id of an ack; handed back instead where the key was unsubscribed before it. -/
def recordAck (mgr : SubscriptionManager) (key serverId : String) :
    Option String × SubscriptionManager :=
  if key ∈ mgr.ids.pendingCancels then
    (some serverId,
      { mgr with ids := { mgr.ids with pendingCancels := mgr.ids.pendingCancels.erase key } })
  else (none, mgr.recordServerId key serverId)

/-- The keys recorded with an id. -/
def keysOf (mgr : SubscriptionManager) (serverId : String) : List String :=
  (mgr.ids.byKey.entries.filter fun e => e.2 = serverId).map Prod.fst

/-- Remove some keys and their ids. -/
def removeKeys (mgr : SubscriptionManager) (keys : List String) : SubscriptionManager where
  subscriptions := mgr.subscriptions.removeAll keys
  ids := { mgr.ids with byKey := mgr.ids.byKey.removeAll keys }

/-- Remove what `target` names and return the id to send, if any. -/
def resolveUnsubscribe (mgr : SubscriptionManager) (target : String) :
    Option String × SubscriptionManager :=
  match mgr.ids.byKey.get? target with
  | some id => (some id, mgr.removeKeys [target])
  | none =>
    let keys := mgr.keysOf target
    if keys ≠ [] then (some target, mgr.removeKeys keys)
    else if target ∈ mgr.subscriptions then
      let removed := mgr.removeSubscription target
      (none,
        { removed with
          ids := { removed.ids with pendingCancels := insert target removed.ids.pendingCancels } })
    else (some target, mgr)

/-- Forget every id, and the cancels whose key is no longer stored. -/
def clearServerIds (mgr : SubscriptionManager) : SubscriptionManager :=
  { mgr with
    ids :=
      { byKey := .empty
        pendingCancels := mgr.ids.pendingCancels.filter fun key => key ∈ mgr.subscriptions } }

/-- The stored subscriptions, in order. -/
def getAll (mgr : SubscriptionManager) : List SubscribeRequest := mgr.subscriptions.values

/-- The first half of `clear`. -/
def clearSubscriptions (mgr : SubscriptionManager) : SubscriptionManager :=
  { mgr with subscriptions := .empty }

/-- The second half of `clear`, under the other lock. -/
def clearIds (mgr : SubscriptionManager) : SubscriptionManager := { mgr with ids := {} }

/-- Clear all subscriptions and all ids. -/
def clear (mgr : SubscriptionManager) : SubscriptionManager := mgr.clearSubscriptions.clearIds

/-! ### What the operations change -/

@[simp] theorem mem_subscribe {mgr : SubscriptionManager} {req : SubscribeRequest} {key : String} :
    key ∈ (mgr.subscribe req).subscriptions ↔ key = req.key ∨ key ∈ mgr.subscriptions :=
  IndexMap.mem_insert

@[simp] theorem byKey_subscribe (mgr : SubscriptionManager) (req : SubscribeRequest) :
    (mgr.subscribe req).ids.byKey = mgr.ids.byKey := rfl

@[simp] theorem mem_pendingCancels_subscribe {mgr : SubscriptionManager} {req : SubscribeRequest}
    {key : String} : key ∈ (mgr.subscribe req).ids.pendingCancels ↔
      key ≠ req.key ∧ key ∈ mgr.ids.pendingCancels := Finset.mem_erase

@[simp] theorem mem_removeKeys {mgr : SubscriptionManager} {keys : List String} {key : String} :
    key ∈ (mgr.removeKeys keys).subscriptions ↔ key ∉ keys ∧ key ∈ mgr.subscriptions :=
  IndexMap.mem_removeAll

theorem get?_removeKeys (mgr : SubscriptionManager) (keys : List String) (key : String) :
    (mgr.removeKeys keys).ids.byKey.get? key =
      if key ∈ keys then none else mgr.ids.byKey.get? key := IndexMap.get?_removeAll _ keys key

@[simp] theorem pendingCancels_removeKeys (mgr : SubscriptionManager) (keys : List String) :
    (mgr.removeKeys keys).ids.pendingCancels = mgr.ids.pendingCancels := rfl

/-- The keys recorded with an id are those a lookup finds it for. -/
theorem mem_keysOf {mgr : SubscriptionManager} {key serverId : String} :
    key ∈ mgr.keysOf serverId ↔ mgr.ids.byKey.get? key = some serverId := by
  rw [IndexMap.get?_eq_some, keysOf, List.mem_map]
  constructor
  · rintro ⟨⟨other, id⟩, member, rfl⟩
    obtain ⟨inEntries, same⟩ := List.mem_filter.mp member
    rw [decide_eq_true_eq] at same
    exact same ▸ inEntries
  · intro member
    exact ⟨(key, serverId), List.mem_filter.mpr ⟨member, decide_eq_true rfl⟩, rfl⟩

theorem recordAck_pending {mgr : SubscriptionManager} {key : String} (serverId : String)
    (pending : key ∈ mgr.ids.pendingCancels) :
    mgr.recordAck key serverId = (some serverId,
      { mgr with ids := { mgr.ids with pendingCancels := mgr.ids.pendingCancels.erase key } }) :=
  if_pos pending

theorem recordAck_recorded {mgr : SubscriptionManager} {key : String} (serverId : String)
    (free : key ∉ mgr.ids.pendingCancels) :
    mgr.recordAck key serverId = (none, mgr.recordServerId key serverId) := if_neg free

/-- An ack changes nothing that is stored. -/
@[simp] theorem subscriptions_recordAck (mgr : SubscriptionManager) (key serverId : String) :
    (mgr.recordAck key serverId).2.subscriptions = mgr.subscriptions := by
  unfold recordAck
  split <;> rfl

theorem get?_recordServerId (mgr : SubscriptionManager) (key serverId other : String) :
    (mgr.recordServerId key serverId).ids.byKey.get? other =
      if other = key then some serverId else mgr.ids.byKey.get? other :=
  IndexMap.get?_insert _ key other serverId

/-- **What an unsubscribe finds**: a key with a recorded id, the id of some keys, a stored key whose
ack is still to come, or nothing it knows. -/
inductive Resolution (mgr : SubscriptionManager) (target : String) :
    Option String × SubscriptionManager → Prop
  | byKey {id : String} (found : mgr.ids.byKey.get? target = some id) :
      Resolution mgr target (some id, mgr.removeKeys [target])
  | byId (absent : mgr.ids.byKey.get? target = none)
      (recorded : ∃ key, mgr.ids.byKey.get? key = some target) :
      Resolution mgr target (some target, mgr.removeKeys (mgr.keysOf target))
  | pending (absent : mgr.ids.byKey.get? target = none)
      (unrecorded : ∀ key, mgr.ids.byKey.get? key ≠ some target)
      (stored : target ∈ mgr.subscriptions) :
      Resolution mgr target (none,
        { subscriptions := mgr.subscriptions.shiftRemove target
          ids := { mgr.ids with pendingCancels := insert target mgr.ids.pendingCancels } })
  | unknown (absent : mgr.ids.byKey.get? target = none)
      (unrecorded : ∀ key, mgr.ids.byKey.get? key ≠ some target)
      (missing : target ∉ mgr.subscriptions) : Resolution mgr target (some target, mgr)

theorem resolveUnsubscribe_cases (mgr : SubscriptionManager) (target : String) :
    Resolution mgr target (mgr.resolveUnsubscribe target) := by
  unfold resolveUnsubscribe
  cases found : mgr.ids.byKey.get? target with
  | some id => exact .byKey found
  | none =>
    by_cases recorded : mgr.keysOf target ≠ []
    · simp only [if_pos recorded]
      obtain ⟨key, member⟩ := List.exists_mem_of_ne_nil _ recorded
      exact .byId found ⟨key, mem_keysOf.mp member⟩
    have unrecorded (key : String) : mgr.ids.byKey.get? key ≠ some target := by
      rw [not_not] at recorded
      intro holds
      rw [← mem_keysOf, recorded] at holds
      cases holds
    simp only [if_neg recorded]
    by_cases stored : target ∈ mgr.subscriptions
    · rw [if_pos stored]
      exact .pending found unrecorded stored
    · rw [if_neg stored]
      exact .unknown found unrecorded stored

end SubscriptionManager

/-! ### Ids handed back -/

namespace SubscriptionManager

/-- The id is recorded for no stored key but this one. -/
def Unshared (mgr : SubscriptionManager) (key id : String) : Prop :=
  ∀ other, other ≠ key → other ∈ mgr.subscriptions → mgr.ids.byKey.get? other ≠ some id

/-- An id handed back for `key` ends no other key: it is recorded for none that is still stored. -/
def Spares (key : String) (result : Option String × SubscriptionManager) : Prop :=
  ∀ id, result.1 = some id → result.2.Unshared key id

/-- By its key, an unsubscribe ends no other one exactly where the key's id is recorded for no other. -/
theorem resolveUnsubscribe_spares_iff (mgr : SubscriptionManager) (target : String) :
    Spares target (mgr.resolveUnsubscribe target) ↔
      ∀ id, mgr.ids.byKey.get? target = some id → mgr.Unshared target id := by
  have resolution := mgr.resolveUnsubscribe_cases target
  generalize mgr.resolveUnsubscribe target = result at resolution
  cases resolution with
  | @byKey own found =>
    -- only the target is removed, so what is stored and recorded of the others stays
    have kept (other : String) (differs : other ≠ target) :
        (other ∈ (mgr.removeKeys [target]).subscriptions ↔ other ∈ mgr.subscriptions) ∧
          (mgr.removeKeys [target]).ids.byKey.get? other = mgr.ids.byKey.get? other := by
      simp [get?_removeKeys, differs]
    have same : (mgr.removeKeys [target]).Unshared target own ↔ mgr.Unshared target own := by
      refine forall_congr' fun other => forall_congr' fun differs => ?_
      rw [(kept other differs).1, (kept other differs).2]
    constructor
    · intro spares id here
      obtain rfl := Option.some.inj (found.symm.trans here)
      exact same.mp (spares own rfl)
    · rintro unshared id ⟨⟩
      exact same.mpr (unshared own found)
  | byId absent recorded =>
    refine iff_of_true ?_ fun id found => ?_
    · rintro id ⟨⟩ other - - found
      rw [get?_removeKeys] at found
      split at found
      · cases found
      · rename_i kept
        exact kept (mem_keysOf.mpr found)
    · cases absent.symm.trans found
  | pending absent _ _ =>
    refine iff_of_true ?_ fun id found => ?_
    · intro id handed
      cases handed
    · cases absent.symm.trans found
  | unknown absent unrecorded _ =>
    refine iff_of_true ?_ fun id found => ?_
    · rintro id ⟨⟩ other - -
      exact unrecorded other
    · cases absent.symm.trans found

/-- An ack that answers a cancel ends no other key exactly where its id is recorded for no other. -/
theorem recordAck_spares_iff (mgr : SubscriptionManager) (key serverId : String) :
    Spares key (mgr.recordAck key serverId) ↔
      (key ∈ mgr.ids.pendingCancels → mgr.Unshared key serverId) := by
  by_cases pending : key ∈ mgr.ids.pendingCancels
  · rw [recordAck_pending serverId pending]
    constructor
    · exact fun spares _ => spares serverId rfl
    · rintro unshared id ⟨⟩
      exact unshared pending
  · rw [recordAck_recorded serverId pending]
    exact iff_of_true nofun fun held => absurd held pending

end SubscriptionManager

/-- One locked call on the manager; `clear` is its two halves. -/
inductive ManagerCall where
  | subscribe (req : SubscribeRequest)
  | recordAck (key serverId : String)
  | resolveUnsubscribe (target : String)
  | clearServerIds
  | clearSubscriptions
  | clearIds
  deriving DecidableEq, Repr

/-- The manager with the ids the server issued, as its acks said since the ids were last cleared. -/
structure IdRun where
  manager : SubscriptionManager := {}
  issued : List (String × String) := []

/-- One call. -/
def IdRun.step (run : IdRun) : ManagerCall → Option IdRun
  | .subscribe req => some { run with manager := run.manager.subscribe req }
  | .recordAck key serverId =>
    some
      { manager := (run.manager.recordAck key serverId).2
        issued := (key, serverId) :: run.issued }
  | .resolveUnsubscribe target =>
    some { run with manager := (run.manager.resolveUnsubscribe target).2 }
  | .clearServerIds => some { manager := run.manager.clearServerIds, issued := [] }
  | .clearSubscriptions => some { run with manager := run.manager.clearSubscriptions }
  | .clearIds => some { manager := run.manager.clearIds, issued := [] }

/-- The managers some calls lead to from an empty one. -/
def idRuns : StepMachine IdRun ManagerCall where
  start := fun run => run = {}
  step := IdRun.step

/-- Every recorded id was issued for its key. -/
def IdRun.Inv (run : IdRun) : Prop :=
  ∀ key id, run.manager.ids.byKey.get? key = some id → (key, id) ∈ run.issued

theorem get?_of_removeKeys {mgr : SubscriptionManager} {keys : List String} {key id : String}
    (found : (mgr.removeKeys keys).ids.byKey.get? key = some id) :
    mgr.ids.byKey.get? key = some id := by
  rw [SubscriptionManager.get?_removeKeys] at found
  split at found
  · cases found
  · exact found

/-- An unsubscribe records no id. -/
theorem get?_of_resolveUnsubscribe {mgr : SubscriptionManager} {target key id : String}
    (found : (mgr.resolveUnsubscribe target).2.ids.byKey.get? key = some id) :
    mgr.ids.byKey.get? key = some id := by
  cases resolved : mgr.resolveUnsubscribe target with
  | mk answer after =>
    rw [resolved] at found
    have resolution := mgr.resolveUnsubscribe_cases target
    rw [resolved] at resolution
    cases resolution with
    | byKey => exact get?_of_removeKeys found
    | byId => exact get?_of_removeKeys found
    | pending => exact found
    | unknown => exact found

/-- An ack records its own id or nothing. -/
theorem get?_of_recordAck {mgr : SubscriptionManager} {key serverId other id : String}
    (found : (mgr.recordAck key serverId).2.ids.byKey.get? other = some id) :
    other = key ∧ id = serverId ∨ mgr.ids.byKey.get? other = some id := by
  by_cases pending : key ∈ mgr.ids.pendingCancels
  · rw [SubscriptionManager.recordAck_pending serverId pending] at found
    exact Or.inr found
  · rw [SubscriptionManager.recordAck_recorded serverId pending] at found
    simp only [SubscriptionManager.get?_recordServerId] at found
    by_cases same : other = key
    · rw [if_pos same, Option.some.injEq] at found
      exact Or.inl ⟨same, found.symm⟩
    · rw [if_neg same] at found
      exact Or.inr found

theorem IdRun.step_inv {run next : IdRun} {call : ManagerCall} (inv : run.Inv)
    (stepped : run.step call = some next) : next.Inv := by
  intro key id found
  cases call with
  | subscribe req =>
    cases stepped
    exact inv key id found
  | recordAck acked serverId =>
    cases stepped
    rcases get?_of_recordAck found with ⟨rfl, rfl⟩ | before
    · exact List.mem_cons_self
    · exact List.mem_cons_of_mem _ (inv key id before)
  | resolveUnsubscribe target =>
    cases stepped
    exact inv key id (get?_of_resolveUnsubscribe found)
  | clearServerIds =>
    cases stepped
    cases found
  | clearSubscriptions =>
    cases stepped
    exact inv key id found
  | clearIds =>
    cases stepped
    cases found

theorem IdRun.reachable_inv {run : IdRun} (reached : idRuns.Reachable run) : run.Inv := by
  have base (first : IdRun) (starts : idRuns.start first) : first.Inv := by
    intro key id found
    cases starts
    cases found
  exact reached.invariant base fun _ _ _ inv stepped => IdRun.step_inv inv stepped

/-- An id the server issued for no other key is recorded for no other. -/
theorem IdRun.Inv.unshared {run : IdRun} (inv : run.Inv) {key id : String}
    (only : ∀ other, (other, id) ∈ run.issued → other = key) : run.manager.Unshared key id :=
  fun other differs _ recorded => differs (only other (inv other id recorded))

/-- **Unsubscribing ends another key exactly where the two share their id.** In every manager some calls
lead to: the id an unsubscribe hands back is recorded for no other key still stored if and only if that
holds of the target's own recorded id, where it has one; the id an ack hands back for a cancel, if and
only if it holds of that id; and both hold where the server issued the id for no other key. -/
theorem handedBack_spares_iff {run : IdRun} (reached : idRuns.Reachable run) :
    (∀ target, SubscriptionManager.Spares target (run.manager.resolveUnsubscribe target) ↔
        ∀ id, run.manager.ids.byKey.get? target = some id → run.manager.Unshared target id) ∧
      (∀ key serverId, SubscriptionManager.Spares key (run.manager.recordAck key serverId) ↔
        (key ∈ run.manager.ids.pendingCancels → run.manager.Unshared key serverId)) ∧
      ∀ key id, (∀ other, (other, id) ∈ run.issued → other = key) → run.manager.Unshared key id :=
  ⟨run.manager.resolveUnsubscribe_spares_iff, run.manager.recordAck_spares_iff,
    fun _ _ => (IdRun.reachable_inv reached).unshared⟩

/-- A FutOpt alias and the contract it resolves to, both acknowledged with one id, and a stock. -/
def aliasAndContract : List ManagerCall :=
  [.subscribe { channel := "trades", symbol := some "TXF1" },
    .subscribe { channel := "trades", symbol := some "TXFK6" },
    .subscribe { channel := "trades", symbol := some "2330" },
    .recordAck "trades:TXF1" "sub-a", .recordAck "trades:TXFK6" "sub-a",
    .recordAck "trades:2330" "sub-b"]

/-- By its key the alias takes the contract with it; the stock ends alone, and so does the shared id. -/
theorem handedBack_spares_iff_aliasAndContract :
    ∃ run, idRuns.run {} aliasAndContract = some run ∧
      ¬ SubscriptionManager.Spares "trades:TXF1" (run.manager.resolveUnsubscribe "trades:TXF1") ∧
      SubscriptionManager.Spares "trades:2330" (run.manager.resolveUnsubscribe "trades:2330") ∧
      SubscriptionManager.Spares "sub-a" (run.manager.resolveUnsubscribe "sub-a") := by
  refine ⟨_, rfl, ?_⟩
  have reached := reachable_of_run aliasAndContract (.init idRuns rfl) rfl
  obtain ⟨unsubscribes, -, issued⟩ := handedBack_spares_iff reached
  refine ⟨fun spares => ?_, (unsubscribes _).mpr fun id found => ?_, (unsubscribes _).mpr nofun⟩
  · exact (unsubscribes _).mp spares "sub-a" rfl "trades:TXFK6" (by decide) (by decide) rfl
  · cases found
    exact issued _ _ fun other => by simp

/-- An alias unsubscribed before its ack, whose contract is subscribed and acknowledged meanwhile. -/
def aliasCancelled : List ManagerCall :=
  [.subscribe { channel := "trades", symbol := some "TXF1" }, .resolveUnsubscribe "trades:TXF1",
    .subscribe { channel := "trades", symbol := some "TXFK6" }, .recordAck "trades:TXFK6" "sub-a"]

/-- **Unsubscribing one key ends another**, by the key of an acknowledged alias and by the ack of one
whose cancel waits for it. -/
theorem handedBack_ends_contract :
    (¬ ∀ run, idRuns.Reachable run → ∀ target,
        SubscriptionManager.Spares target (run.manager.resolveUnsubscribe target)) ∧
      ¬ ∀ run, idRuns.Reachable run → ∀ key serverId,
        SubscriptionManager.Spares key (run.manager.recordAck key serverId) := by
  constructor
  · refine not_forall_reachable aliasAndContract rfl ⟨_, rfl, fun spares => ?_⟩
    exact spares "trades:TXF1" "sub-a" rfl "trades:TXFK6" (by decide) (by decide) rfl
  · refine not_forall_reachable aliasCancelled rfl ⟨_, rfl, fun spares => ?_⟩
    exact spares "trades:TXF1" "sub-a" "sub-a" rfl "trades:TXFK6" (by decide) (by decide) rfl

end FugleMarketdata
