/-
**Frames and acks.** The parts of `core/src/websocket/protocol.rs` that turn subscriptions into
frames and `subscribed` acks into server ids.

A frame is the request it serializes; `serde_json` writes every request, so framing does not fail.

* `frameSubscribe`, `frameSubscribeFutopt`, `frameResubscribe`, `frameUnsubscribe` — outbound;
* `handleSubscribedEvent` — inbound, with `handleSubscribedEvent_ack`: on the ack a server sends for
  some rows it records exactly their keys;
* `mem_frameResubscribe` — every stored row is subscribed by some frame of a replay.
-/

import FugleMarketdata.Models.Message
import FugleMarketdata.Websocket.SubscriptionManager

namespace FugleMarketdata

/-! ### Subscribe frames -/

/-- A row as the clients store it: one symbol, no batch. -/
def SubscribeRequest.isRow (req : SubscribeRequest) : Bool := req.symbol.isSome && req.symbols.isNone

/-- A request that only subscribes rows. -/
def SubscribeRequest.isNamed (req : SubscribeRequest) : Bool := req.expand.all isRow

/-- The rows of two stocks' trades. -/
def trades2330 : SubscribeRequest := { channel := "trades", symbol := some "2330" }

def trades2317 : SubscribeRequest := { channel := "trades", symbol := some "2317" }

/-- The wire request's `symbol` or `symbols`. -/
def SubscribeRequest.withSymbols (req : SubscribeRequest) : Symbols → SubscribeRequest
  | .single symbol => { req with symbol := some symbol }
  | .many symbols => { req with symbols := some symbols }

/-- The frame of a stock subscription and the rows to store. -/
def frameSubscribe (sub : StockSubscription) : WebSocketRequest × List SubscribeRequest :=
  let wireReq := SubscribeRequest.withSymbols { channel := sub.channel.asStr } sub.symbols
  let wireReq := if sub.intradayOddLot then { wireReq with intradayOddLot := some true } else wireReq
  (.subscribe wireReq, wireReq.expand)

/-- The frame of a FutOpt subscription and the rows to store. -/
def frameSubscribeFutopt (sub : FutOptSubscription) : WebSocketRequest × List SubscribeRequest :=
  let wireReq := SubscribeRequest.withSymbols { channel := sub.channel.asStr } sub.symbols
  let wireReq := if sub.afterHours then { wireReq with afterHours := some true } else wireReq
  (.subscribe wireReq, wireReq.expand)

theorem isRow_of_mem_expand {req row : SubscribeRequest} (named : req.isNamed = true)
    (member : row ∈ req.expand) : row.isRow = true := List.all_eq_true.mp named row member

/-- Both kinds of subscription only subscribe rows, and store those their frame subscribes. -/
theorem frameSubscribe_named (sub : StockSubscription) :
    ∃ req, frameSubscribe sub = (.subscribe req, req.expand) ∧ req.isNamed = true := by
  obtain ⟨channel, symbols, oddLot⟩ := sub
  refine ⟨_, rfl, List.all_eq_true.mpr fun row member => ?_⟩
  cases symbols <;> cases oddLot <;>
    simp only [SubscribeRequest.withSymbols, SubscribeRequest.expand, Bool.false_eq_true, if_true,
      if_false, List.mem_singleton, List.mem_map] at member
  all_goals first | exact member ▸ rfl | obtain ⟨symbol, -, rfl⟩ := member; rfl

theorem frameSubscribeFutopt_named (sub : FutOptSubscription) :
    ∃ req, frameSubscribeFutopt sub = (.subscribe req, req.expand) ∧ req.isNamed = true := by
  obtain ⟨channel, symbols, afterHours⟩ := sub
  refine ⟨_, rfl, List.all_eq_true.mpr fun row member => ?_⟩
  cases symbols <;> cases afterHours <;>
    simp only [SubscribeRequest.withSymbols, SubscribeRequest.expand, Bool.false_eq_true, if_true,
      if_false, List.mem_singleton, List.mem_map] at member
  all_goals first | exact member ▸ rfl | obtain ⟨symbol, -, rfl⟩ := member; rfl

/-! ### Replay frames -/

/-- One subscribe frame to re-send after a reconnect, and what names it in an error. -/
structure ResubscribeFrame where
  label : String
  frame : WebSocketRequest
  deriving DecidableEq, Repr

/-- What a replay folds into one frame: a channel with its modifiers, or a row without a symbol by
its position. -/
inductive Group where
  | batch (channel : String) (afterHours oddLot : Bool)
  | alone (position : Nat)
  deriving DecidableEq, Repr

/-- The group of a row at a position. -/
def Group.of (row : SubscribeRequest) (position : Nat) : Group :=
  match row.symbol with
  | some _ =>
    .batch row.channel (decide (row.afterHours = some true))
      (decide (row.intradayOddLot = some true))
  | none => .alone position

/-- Put a row into its group. -/
def addRow (groups : IndexMap Group (List SubscribeRequest)) (entry : SubscribeRequest × Nat) :
    IndexMap Group (List SubscribeRequest) :=
  let group := Group.of entry.1 entry.2
  groups.insert group ((groups.get? group).getD [] ++ [entry.1])

/-- One request for the rows of a group of more than one. -/
def batchRequest (first : SubscribeRequest) (rows : List SubscribeRequest) : SubscribeRequest where
  channel := first.channel
  symbol := none
  symbols := some (rows.filterMap SubscribeRequest.symbol)
  afterHours := if first.afterHours = some true then some true else none
  intradayOddLot := if first.intradayOddLot = some true then some true else none

/-- The frame of a group's rows; no group is empty. -/
def groupFrame : List SubscribeRequest → ResubscribeFrame
  | [row] => ⟨row.key, .subscribe row⟩
  | [] => ⟨"", .subscribe {}⟩
  | first :: second :: rest =>
    let rows := first :: second :: rest
    let modifier := if first.afterHours = some true then ":afterhours"
      else if first.intradayOddLot = some true then ":oddlot" else ""
    ⟨first.channel ++ modifier ++ " (" ++ toString rows.length ++ " symbols)",
      .subscribe (batchRequest first rows)⟩

/-- Fold stored rows back into one frame per channel and modifier, in order of appearance. -/
def frameResubscribe (rows : List SubscribeRequest) : List ResubscribeFrame :=
  (rows.zipIdx.foldl addRow .empty).values.map groupFrame

/-- The keys a frame subscribes. -/
def WebSocketRequest.subscribes : WebSocketRequest → List String
  | .subscribe sub => sub.rowKeys
  | _ => []

/-- The ids a frame unsubscribes. -/
def WebSocketRequest.unsubscribes : WebSocketRequest → List String
  | .unsubscribe unsub => unsub.wireIds
  | _ => []

/-! ### Unsubscribe frames -/

/-- `{id}` for a single id, `{ids}` for many. -/
def frameUnsubscribe (wireIds : List String) : WebSocketRequest :=
  match wireIds with
  | [id] => .unsubscribe (UnsubscribeRequest.byId id)
  | ids => .unsubscribe (UnsubscribeRequest.byIds ids)

/-- `retain` of the ids not seen before. -/
def retainUnseen (seen : List String) : List String → List String
  | [] => []
  | id :: rest => if id ∈ seen then retainUnseen seen rest else id :: retainUnseen (id :: seen) rest

/-- Drop repeated ids, keeping the first of each. -/
def dedupeInPlace (ids : List String) : List String :=
  if ids.length < 2 then ids else retainUnseen [] ids

/-- Resolve each target in turn; the ids to send, in order. -/
def resolveAll (mgr : SubscriptionManager) : List String → List String × SubscriptionManager
  | [] => ([], mgr)
  | target :: rest =>
    let resolved := mgr.resolveUnsubscribe target
    let later := resolveAll resolved.2 rest
    (resolved.1.toList ++ later.1, later.2)

/-- Remove what each target names and return the ids to send, without duplicates. -/
def unsubscribeWireIds (mgr : SubscriptionManager) (targets : List String) :
    List String × SubscriptionManager :=
  let resolved := resolveAll mgr targets
  (dedupeInPlace resolved.1, resolved.2)

theorem unsubscribes_frameUnsubscribe (ids : List String) :
    (frameUnsubscribe ids).unsubscribes = ids := by
  match ids with
  | [] => rfl
  | [_] => rfl
  | _ :: _ :: _ => rfl

theorem subscribes_frameUnsubscribe (ids : List String) : (frameUnsubscribe ids).subscribes = [] := by
  match ids with
  | [] => rfl
  | [_] => rfl
  | _ :: _ :: _ => rfl

theorem mem_retainUnseen {id : String} {seen ids : List String} :
    id ∈ retainUnseen seen ids ↔ id ∉ seen ∧ id ∈ ids := by
  induction ids generalizing seen with
  | nil => simp [retainUnseen]
  | cons first rest ih =>
    unfold retainUnseen
    by_cases repeated : first ∈ seen
    · rw [if_pos repeated, ih, List.mem_cons]
      constructor
      · rintro ⟨unseen, member⟩
        exact ⟨unseen, Or.inr member⟩
      · rintro ⟨unseen, rfl | member⟩
        · exact absurd repeated unseen
        · exact ⟨unseen, member⟩
    · rw [if_neg repeated, List.mem_cons, ih, List.mem_cons, List.mem_cons]
      by_cases same : id = first
      · subst same
        simp [repeated]
      · simp [same]

/-- Dropping repeated ids loses none. -/
theorem mem_dedupeInPlace {id : String} {ids : List String} : id ∈ dedupeInPlace ids ↔ id ∈ ids := by
  unfold dedupeInPlace
  split
  · exact Iff.rfl
  · rw [mem_retainUnseen]
    exact and_iff_right (List.not_mem_nil)

/-! ### Acks -/

/-- The local key of an ack's fields. -/
def buildSubKey (channel symbol : String) (afterHours oddLot : Bool) : String :=
  let base := channel ++ ":" ++ symbol
  if afterHours then base ++ ":afterhours"
  else if oddLot then base ++ ":oddlot"
  else base

/-- A flag of an ack, off where it is missing. -/
def Value.flag (value : Value) (name : String) : Bool :=
  ((value.get name).bind Value.asBool).getD false

/-- The key and id of one entry of a batched ack; none where a field is missing. -/
def batchEntry (entry : Value) : Option (String × String) := do
  let id ← (entry.get "id").bind Value.asStr
  let channel ← (entry.get "channel").bind Value.asStr
  let symbol ← (entry.get "symbol").bind Value.asStr
  return (buildSubKey channel symbol (entry.flag "afterHours") (entry.flag "intradayOddLot"), id)

/-- The key and id of a single ack, its fields taken from the data object or the top level. -/
def singleEntry (msg : WebSocketMessage) : Option (String × String) := do
  let object := (msg.data.bind Value.asObject).map Value.object
  let field (name : String) := (object.bind (·.get name)).bind Value.asStr
  let id ← (field "id").or msg.id
  let channel ← (field "channel").or msg.channel
  let symbol ← (field "symbol").or msg.symbol
  return (buildSubKey channel symbol (object.any (·.flag "afterHours"))
    (object.any (·.flag "intradayOddLot")), id)

/-- Record each entry in turn; the ids handed back, in order. -/
def recordAcks (mgr : SubscriptionManager) :
    List (String × String) → List String × SubscriptionManager
  | [] => ([], mgr)
  | (key, id) :: rest =>
    let recorded := mgr.recordAck key id
    let later := recordAcks recorded.2 rest
    (recorded.1.toList ++ later.1, later.2)

/-- Record the ids a `subscribed` ack carries and return those to unsubscribe. -/
def handleSubscribedEvent (mgr : SubscriptionManager) (msg : WebSocketMessage) :
    List String × SubscriptionManager :=
  if msg.event ≠ "subscribed" then ([], mgr)
  else
    match msg.data.bind Value.asArray with
    | some entries =>
      let recorded := recordAcks mgr (entries.filterMap batchEntry)
      (dedupeInPlace recorded.1, recorded.2)
    | none => recordAcks mgr (singleEntry msg).toList

/-! ### What the calls change in the manager -/

/-- Store rows in turn, as both clients' `subscribe` does. -/
def storeRows (mgr : SubscriptionManager) (rows : List SubscribeRequest) : SubscriptionManager :=
  rows.foldl SubscriptionManager.subscribe mgr

theorem mem_storeRows {mgr : SubscriptionManager} {rows : List SubscribeRequest} {key : String} :
    key ∈ (storeRows mgr rows).subscriptions ↔
      key ∈ rows.map SubscribeRequest.key ∨ key ∈ mgr.subscriptions := by
  induction rows generalizing mgr with
  | nil => simp [storeRows]
  | cons row rest ih =>
    refine ih.trans ?_
    rw [SubscriptionManager.mem_subscribe, List.map_cons, List.mem_cons]
    tauto

theorem byKey_storeRows (mgr : SubscriptionManager) (rows : List SubscribeRequest) :
    (storeRows mgr rows).ids.byKey = mgr.ids.byKey := by
  induction rows generalizing mgr with
  | nil => rfl
  | cons row rest ih => exact ih _

theorem mem_pendingCancels_storeRows {mgr : SubscriptionManager} {rows : List SubscribeRequest}
    {key : String} : key ∈ (storeRows mgr rows).ids.pendingCancels ↔
      key ∉ rows.map SubscribeRequest.key ∧ key ∈ mgr.ids.pendingCancels := by
  induction rows generalizing mgr with
  | nil => simp [storeRows]
  | cons row rest ih =>
    refine ih.trans ?_
    rw [SubscriptionManager.mem_pendingCancels_subscribe, List.map_cons, List.mem_cons, not_or]
    tauto

/-- What unsubscribing some keys does: they are no longer stored, nothing else is removed, and each
id handed back was recorded for one of them, or is the key itself. -/
structure Released (mgr : SubscriptionManager) (targets : List String)
    (result : List String × SubscriptionManager) : Prop where
  stored : ∀ key, key ∈ result.2.subscriptions ↔ key ∉ targets ∧ key ∈ mgr.subscriptions
  pending : ∀ key ∈ result.2.ids.pendingCancels, key ∈ mgr.ids.pendingCancels ∨ key ∈ targets
  recorded : ∀ key id, result.2.ids.byKey.get? key = some id → mgr.ids.byKey.get? key = some id
  handed : ∀ id ∈ result.1,
    (∃ target ∈ targets, mgr.ids.byKey.get? target = some id) ∨ id ∈ targets

theorem resolveUnsubscribe_released {mgr : SubscriptionManager} {target : String}
    (keyOnly : ∀ key, mgr.ids.byKey.get? key ≠ some target) :
    Released mgr [target]
      ((mgr.resolveUnsubscribe target).1.toList, (mgr.resolveUnsubscribe target).2) := by
  have recorded (key id : String) (found : (mgr.resolveUnsubscribe target).2.ids.byKey.get? key =
      some id) : mgr.ids.byKey.get? key = some id := get?_of_resolveUnsubscribe found
  have resolution := mgr.resolveUnsubscribe_cases target
  generalize mgr.resolveUnsubscribe target = result at recorded resolution
  cases resolution with
  | @byKey id found =>
    refine ⟨fun key => SubscriptionManager.mem_removeKeys, fun _ => Or.inl, recorded, ?_⟩
    intro other member
    rw [List.mem_singleton.mp member]
    exact Or.inl ⟨target, List.mem_singleton.mpr rfl, found⟩
  | byId _ known =>
    obtain ⟨key, found⟩ := known
    exact absurd found (keyOnly key)
  | pending _ _ stored =>
    refine ⟨fun key => ?_, fun key member => ?_, recorded, fun id member => by cases member⟩
    · rw [List.mem_singleton]
      exact IndexMap.mem_shiftRemove
    · rw [List.mem_singleton]
      exact (Finset.mem_insert.mp member).symm
  | unknown _ _ missing =>
    refine ⟨fun key => ?_, fun _ => Or.inl, recorded, fun id member => Or.inr member⟩
    rw [List.mem_singleton]
    constructor
    · intro stored
      exact ⟨fun same => missing (same ▸ stored), stored⟩
    · exact And.right

theorem resolveAll_released (mgr : SubscriptionManager) {targets : List String}
    (keyOnly : ∀ target ∈ targets, ∀ key, mgr.ids.byKey.get? key ≠ some target) :
    Released mgr targets (resolveAll mgr targets) := by
  induction targets generalizing mgr with
  | nil =>
    exact ⟨fun key => by simp [resolveAll], fun _ => Or.inl, fun _ _ => id, fun _ member => by
      cases member⟩
  | cons target rest ih =>
    have first := resolveUnsubscribe_released (keyOnly target List.mem_cons_self)
    have later := ih (mgr.resolveUnsubscribe target).2 fun other member key found =>
      keyOnly other (List.mem_cons_of_mem _ member) key (first.recorded key other found)
    refine ⟨fun key => ?_, fun key member => ?_, fun key id found => ?_, fun id member => ?_⟩
    · refine (later.stored key).trans ?_
      rw [first.stored, List.mem_singleton, List.mem_cons]
      tauto
    · rcases later.pending key member with before | there
      · rcases first.pending key before with before | here
        · exact Or.inl before
        · exact Or.inr (List.mem_cons.mpr (Or.inl (List.mem_singleton.mp here)))
      · exact Or.inr (List.mem_cons_of_mem _ there)
    · exact first.recorded key id (later.recorded key id found)
    · rcases List.mem_append.mp member with here | there
      · rcases first.handed id here with ⟨named, is, found⟩ | is
        · exact Or.inl ⟨named, List.mem_cons.mpr (Or.inl (List.mem_singleton.mp is)), found⟩
        · exact Or.inr (List.mem_cons.mpr (Or.inl (List.mem_singleton.mp is)))
      · rcases later.handed id there with ⟨named, is, found⟩ | is
        · exact Or.inl ⟨named, List.mem_cons_of_mem _ is, first.recorded named id found⟩
        · exact Or.inr (List.mem_cons_of_mem _ is)

/-- An unsubscribe call that names keys releases them. -/
theorem unsubscribeWireIds_released {mgr : SubscriptionManager} {targets : List String}
    (keyOnly : ∀ target ∈ targets, ∀ key, mgr.ids.byKey.get? key ≠ some target) :
    Released mgr targets (unsubscribeWireIds mgr targets) := by
  obtain ⟨stored, pending, recorded, handed⟩ := resolveAll_released mgr keyOnly
  exact ⟨stored, pending, recorded, fun id member => handed id (mem_dedupeInPlace.mp member)⟩

/-- What recording some acks does: nothing stored changes, each id recorded is an ack's own, and each
id handed back is one acked for a key whose cancel was pending. -/
structure Recorded (mgr : SubscriptionManager) (entries : List (String × String))
    (result : List String × SubscriptionManager) : Prop where
  stored : result.2.subscriptions = mgr.subscriptions
  pending : ∀ key ∈ result.2.ids.pendingCancels, key ∈ mgr.ids.pendingCancels
  recorded : ∀ key id, result.2.ids.byKey.get? key = some id →
    mgr.ids.byKey.get? key = some id ∨ (key, id) ∈ entries
  handed : ∀ id ∈ result.1, ∃ key, (key, id) ∈ entries ∧ key ∈ mgr.ids.pendingCancels

theorem recordAcks_recorded (mgr : SubscriptionManager) (entries : List (String × String)) :
    Recorded mgr entries (recordAcks mgr entries) := by
  induction entries generalizing mgr with
  | nil => exact ⟨rfl, fun _ => id, fun _ _ => Or.inl, fun _ member => by cases member⟩
  | cons entry rest ih =>
    obtain ⟨key, id⟩ := entry
    obtain ⟨stored, pending, recorded, handed⟩ := ih (mgr.recordAck key id).2
    have fewer (other : String)
        (member : other ∈ (mgr.recordAck key id).2.ids.pendingCancels) :
        other ∈ mgr.ids.pendingCancels := by
      unfold SubscriptionManager.recordAck at member
      split at member
      · exact Finset.mem_of_mem_erase member
      · exact member
    refine ⟨stored.trans (mgr.subscriptions_recordAck key id), fun other member =>
      fewer other (pending other member), fun other known found => ?_, fun known member => ?_⟩
    · rcases recorded other known found with before | later
      · rcases get?_of_recordAck before with ⟨rfl, rfl⟩ | before
        · exact Or.inr List.mem_cons_self
        · exact Or.inl before
      · exact Or.inr (List.mem_cons_of_mem _ later)
    · rcases List.mem_append.mp member with here | there
      · by_cases waits : key ∈ mgr.ids.pendingCancels
        · rw [SubscriptionManager.recordAck_pending id waits] at here
          rw [List.mem_singleton.mp here]
          exact ⟨key, List.mem_cons_self, waits⟩
        · rw [SubscriptionManager.recordAck_recorded id waits] at here
          cases here
      · obtain ⟨other, inside, waits⟩ := handed known there
        exact ⟨other, List.mem_cons_of_mem _ inside, fewer other waits⟩

/-! ### The ack of a subscribe frame -/

/-- What an ack says of one row: the id the server keeps it under. -/
structure AckEntry where
  row : SubscribeRequest
  id : String
  deriving DecidableEq, Repr

/-- The entry as the server writes it. -/
def AckEntry.value (entry : AckEntry) : Value :=
  .object [("id", .string entry.id), ("channel", .string entry.row.channel),
    ("symbol", .string (entry.row.symbol.getD "")),
    ("afterHours", .bool (decide (entry.row.afterHours = some true))),
    ("intradayOddLot", .bool (decide (entry.row.intradayOddLot = some true)))]

/-- The key and id an entry is recorded under. -/
def AckEntry.pair (entry : AckEntry) : String × String := (entry.row.key, entry.id)

/-- The `subscribed` ack for some rows: an object for one, an array for many. -/
def subscribedAck : List AckEntry → WebSocketMessage
  | [entry] => { event := "subscribed", data := some entry.value }
  | entries => { event := "subscribed", data := some (.array (entries.map AckEntry.value)) }

theorem buildSubKey_row {row : SubscribeRequest} (isRow : row.isRow = true) :
    buildSubKey row.channel (row.symbol.getD "") (decide (row.afterHours = some true))
      (decide (row.intradayOddLot = some true)) = row.key := by
  obtain ⟨channel, symbol, symbols, afterHours, oddLot⟩ := row
  cases symbol with
  | none => cases isRow
  | some symbol => simp only [buildSubKey, SubscribeRequest.key, Option.getD_some, decide_eq_true_eq]

theorem batchEntry_value {entry : AckEntry} (isRow : entry.row.isRow = true) :
    batchEntry entry.value = some entry.pair := by
  rw [AckEntry.pair, ← buildSubKey_row isRow]
  rfl

theorem singleEntry_value {entry : AckEntry} (isRow : entry.row.isRow = true) :
    singleEntry { event := "subscribed", data := some entry.value } = some entry.pair := by
  rw [AckEntry.pair, ← buildSubKey_row isRow]
  rfl

theorem filterMap_batchEntry {entries : List AckEntry}
    (rows : ∀ entry ∈ entries, entry.row.isRow = true) :
    (entries.map AckEntry.value).filterMap batchEntry = entries.map AckEntry.pair := by
  induction entries with
  | nil => rfl
  | cons first rest ih =>
    have head := batchEntry_value (rows first List.mem_cons_self)
    rw [List.map_cons, List.filterMap_cons_some head, List.map_cons,
      ih fun entry member => rows entry (List.mem_cons_of_mem _ member)]

/-- **The ack of some rows records exactly their keys**, each with its id, and hands back the ids of
those unsubscribed before it, without duplicates. -/
theorem handleSubscribedEvent_ack (mgr : SubscriptionManager) {entries : List AckEntry}
    (rows : ∀ entry ∈ entries, entry.row.isRow = true) :
    handleSubscribedEvent mgr (subscribedAck entries) =
      (dedupeInPlace (recordAcks mgr (entries.map AckEntry.pair)).1,
        (recordAcks mgr (entries.map AckEntry.pair)).2) := by
  have batch (same : subscribedAck entries =
      { event := "subscribed", data := some (.array (entries.map AckEntry.value)) }) :
      handleSubscribedEvent mgr (subscribedAck entries) =
        (dedupeInPlace (recordAcks mgr (entries.map AckEntry.pair)).1,
          (recordAcks mgr (entries.map AckEntry.pair)).2) := by
    rw [← filterMap_batchEntry rows, same]
    rfl
  match entries with
  | [] => exact batch rfl
  | [entry] =>
    have single : handleSubscribedEvent mgr (subscribedAck [entry]) =
        recordAcks mgr [entry.pair] := by
      have read : singleEntry (subscribedAck [entry]) = some entry.pair :=
        singleEntry_value (rows entry (List.mem_singleton.mpr rfl))
      show recordAcks mgr (singleEntry _).toList = _
      rw [read]
      rfl
    rw [single]
    refine Prod.ext ?_ rfl
    show (mgr.recordAck _ _).1.toList ++ [] = dedupeInPlace ((mgr.recordAck _ _).1.toList ++ [])
    cases (mgr.recordAck entry.row.key entry.id).1 <;> rfl
  | _ :: _ :: _ => exact batch rfl

/-! ### A replay covers every row -/

/-- What grouping keeps: every row is in its group, and a group's rows belong to it. -/
structure Grouped (groups : IndexMap Group (List SubscribeRequest))
    (rows : List SubscribeRequest) : Prop where
  covers : ∀ row ∈ rows, ∃ group members, groups.get? group = some members ∧ row ∈ members
  belongs : ∀ group members, groups.get? group = some members →
    ∀ row ∈ members, row ∈ rows ∧ ∃ position, Group.of row position = group

theorem Grouped.addRow {groups : IndexMap Group (List SubscribeRequest)}
    {rows : List SubscribeRequest} (grouped : Grouped groups rows) (row : SubscribeRequest)
    (position : Nat) : Grouped (addRow groups (row, position)) (rows ++ [row]) := by
  let here := Group.of row position
  have lookup (group : Group) : (FugleMarketdata.addRow groups (row, position)).get? group =
      if group = here then some ((groups.get? here).getD [] ++ [row]) else groups.get? group :=
    IndexMap.get?_insert groups here group _
  refine ⟨fun other member => ?_, fun group members found other member => ?_⟩
  · rcases List.mem_append.mp member with before | new
    · obtain ⟨group, members, found, within⟩ := grouped.covers other before
      by_cases same : group = here
      · subst same
        refine ⟨_, _, (lookup _).trans (if_pos rfl), ?_⟩
        rw [found]
        exact List.mem_append_left _ within
      · exact ⟨group, members, ((lookup group).trans (if_neg same)).trans found, within⟩
    · rw [List.mem_singleton.mp new]
      exact ⟨here, _, (lookup here).trans (if_pos rfl), List.mem_append_right _ List.mem_cons_self⟩
  · rw [lookup] at found
    by_cases same : group = here
    · rw [if_pos same, Option.some.injEq] at found
      subst found
      rcases List.mem_append.mp member with before | new
      · cases known : groups.get? here with
        | none =>
          rw [known] at before
          cases before
        | some members =>
          rw [known] at before
          rw [same]
          obtain ⟨inRows, belongs⟩ := grouped.belongs here members known other before
          exact ⟨List.mem_append_left _ inRows, belongs⟩
      · rw [List.mem_singleton.mp new]
        exact ⟨List.mem_append_right _ List.mem_cons_self, position, same.symm⟩
    · rw [if_neg same] at found
      obtain ⟨inRows, belongs⟩ := grouped.belongs group members found other member
      exact ⟨List.mem_append_left _ inRows, belongs⟩

theorem grouped_foldl (entries : List (SubscribeRequest × Nat))
    {groups : IndexMap Group (List SubscribeRequest)} {rows : List SubscribeRequest}
    (grouped : Grouped groups rows) :
    Grouped (entries.foldl addRow groups) (rows ++ entries.map Prod.fst) := by
  induction entries generalizing groups rows with
  | nil =>
    rw [List.map_nil, List.append_nil]
    exact grouped
  | cons entry rest ih =>
    have later := ih (grouped.addRow entry.1 entry.2)
    rw [List.append_assoc] at later
    exact later

/-- The keys of a group's frame are those of its rows. -/
theorem mem_groupFrame {members : List SubscribeRequest} {row : SubscribeRequest}
    (rows : ∀ other ∈ members, other.isRow = true)
    (alike : ∀ other ∈ members, ∃ i j, Group.of other i = Group.of row j) (member : row ∈ members) :
    row.key ∈ (groupFrame members).frame.subscribes := by
  match members with
  | [] => cases member
  | [only] =>
    rw [List.mem_singleton.mp member]
    have isRow := rows only (List.mem_singleton.mpr rfl)
    obtain ⟨channel, symbol, symbols, afterHours, oddLot⟩ := only
    cases symbols with
    | none => exact List.mem_singleton.mpr rfl
    | some _ => cases symbol <;> cases isRow
  | first :: second :: rest =>
    have isRow := rows row member
    obtain ⟨i, j, same⟩ := alike first List.mem_cons_self
    have firstRow := rows first List.mem_cons_self
    show row.key ∈ (batchRequest first (first :: second :: rest)).rowKeys
    obtain ⟨symbol, named⟩ : ∃ symbol, row.symbol = some symbol := by
      rw [← Option.isSome_iff_exists]
      exact (Bool.and_eq_true_iff.mp isRow).1
    obtain ⟨other, otherNamed⟩ : ∃ symbol, first.symbol = some symbol := by
      rw [← Option.isSome_iff_exists]
      exact (Bool.and_eq_true_iff.mp firstRow).1
    rw [Group.of, Group.of, named, otherNamed, Group.batch.injEq, decide_eq_decide,
      decide_eq_decide] at same
    refine List.mem_map.mpr ⟨_, List.mem_map.mpr ⟨symbol,
      List.mem_filterMap.mpr ⟨row, member, named⟩, rfl⟩, ?_⟩
    obtain ⟨sameChannel, sameHours, sameLot⟩ := same
    simp only [SubscribeRequest.key, batchRequest, named, sameChannel, sameHours, sameLot]
    by_cases hours : row.afterHours = some true <;> by_cases lot : row.intradayOddLot = some true <;>
      simp [hours, lot]

/-- **A replay subscribes every row**: the key of each stored row is in some frame. -/
theorem mem_frameResubscribe {rows : List SubscribeRequest} (isRow : ∀ row ∈ rows, row.isRow = true)
    {row : SubscribeRequest} (member : row ∈ rows) :
    ∃ frame ∈ frameResubscribe rows, row.key ∈ frame.frame.subscribes := by
  have start : Grouped .empty [] :=
    ⟨fun _ none => (List.not_mem_nil none).elim, fun _ _ found => by cases found⟩
  have grouped : Grouped (rows.zipIdx.foldl addRow .empty) rows := by
    have folded := grouped_foldl rows.zipIdx start
    rw [List.nil_append, List.zipIdx_map_fst] at folded
    exact folded
  obtain ⟨group, members, found, within⟩ := grouped.covers row member
  obtain ⟨-, position, same⟩ := grouped.belongs group members found row within
  have inValues : members ∈ (rows.zipIdx.foldl addRow .empty).values :=
    List.mem_map.mpr ⟨(group, members), IndexMap.get?_eq_some.mp found, rfl⟩
  refine ⟨groupFrame members, List.mem_map.mpr ⟨members, inValues, rfl⟩, ?_⟩
  refine mem_groupFrame (fun other inside => ?_) (fun other inside => ?_) within
  · exact isRow other (grouped.belongs group members found other inside).1
  · obtain ⟨-, i, alike⟩ := grouped.belongs group members found other inside
    exact ⟨i, position, alike.trans same.symm⟩

end FugleMarketdata
