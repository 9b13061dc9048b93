/-
**One connection, both ends.** The subscribe and unsubscribe calls of `aio/client.rs` and the ack
handling of `aio/dispatch.rs` against a server that answers in order.

The server keeps one id per active key. A caller's call updates the manager and then, as a step of
its own, queues its frame; so does the dispatch loop with the cancels an ack leaves it. Frames and
acks travel in order.

* `Server` — the server the client talks to, and what its reads of a list of frames do (`readAll`);
* `Link` — one client and its server, moved by `linkRuns`;
* `Link.Inv` — every stored key is to be subscribed, or active under an id nobody is about to
  unsubscribe, once the frames already queued are read;
* `subscribed_active` — a key whose last call was a subscribe ends up active, unless a subscribe
  frame got ahead of a cancel that names its key's id.
-/

import FugleMarketdata.Websocket.Protocol

namespace FugleMarketdata

open StepMachines StepMachine

/-! ### The server -/

/-- The ids a server hands out, in order: no id twice, and none that is the key of a row. -/
structure IdSource where
  issue : Nat → String
  injective : ∀ m n, issue m = issue n → m = n
  not_key : ∀ n (row : SubscribeRequest), row.isRow = true → issue n ≠ row.key

/-- A server: the id of each active key, and the key each id so far was issued for. -/
structure Server where
  active : IndexMap String String := .empty
  issuedTo : List String := []

namespace Server

variable (ids : IdSource)

/-- Subscribe a row: an active key keeps its id, any other gets a fresh one. -/
def subscribe (server : Server) (row : SubscribeRequest) : AckEntry × Server :=
  match server.active.get? row.key with
  | some id => (⟨row, id⟩, server)
  | none =>
    let id := ids.issue server.issuedTo.length
    (⟨row, id⟩,
      { active := server.active.insert row.key id
        issuedTo := server.issuedTo ++ [row.key] })

/-- Subscribe rows in order. -/
def subscribeAll (server : Server) : List SubscribeRequest → List AckEntry × Server
  | [] => ([], server)
  | row :: rest =>
    let first := server.subscribe ids row
    let later := subscribeAll first.2 rest
    (first.1 :: later.1, later.2)

/-- Deactivate the keys whose current id is named. -/
def unsubscribe (server : Server) (wireIds : List String) : Server :=
  { server with active := server.active.retain fun _ id => id ∉ wireIds }

/-- Read one frame: a subscribe frame is acknowledged. -/
def read (server : Server) : WebSocketRequest → Option (List AckEntry) × Server
  | .subscribe sub =>
    let answered := server.subscribeAll ids sub.expand
    (some answered.1, answered.2)
  | .unsubscribe unsub => (none, server.unsubscribe unsub.wireIds)
  | _ => (none, server)

/-- The server once it has read some frames. -/
def readAll (server : Server) (frames : List WebSocketRequest) : Server :=
  frames.foldl (fun server frame => (server.read ids frame).2) server

/-- An id was issued for a key. -/
def Issued (server : Server) (key id : String) : Prop :=
  ∃ n, server.issuedTo[n]? = some key ∧ id = ids.issue n

/-- Every active key has an id issued for it. -/
def Truthful (server : Server) : Prop :=
  ∀ key id, server.active.get? key = some id → server.Issued ids key id

/-- The ids issued so far are still on record. -/
def Extends (before after : Server) : Prop := before.issuedTo <+: after.issuedTo

variable {ids}

/-- An id was issued for one key only. -/
theorem Issued.unique {server : Server} {key other id : String} (first : server.Issued ids key id)
    (second : server.Issued ids other id) : key = other := by
  obtain ⟨m, mine, rfl⟩ := first
  obtain ⟨n, theirs, same⟩ := second
  rw [ids.injective m n same, theirs] at mine
  exact (Option.some.inj mine).symm

theorem Issued.mono {before after : Server} (extends_ : before.Extends after) {key id : String}
    (issued : before.Issued ids key id) : after.Issued ids key id := by
  obtain ⟨n, found, same⟩ := issued
  obtain ⟨more, appended⟩ := extends_
  refine ⟨n, ?_, same⟩
  have inside := (List.getElem?_eq_some_iff.mp found).1
  rw [← appended, List.getElem?_append_left inside, found]

theorem Extends.refl (server : Server) : server.Extends server := List.prefix_rfl

theorem Extends.trans {first second third : Server} (left : first.Extends second)
    (right : second.Extends third) : first.Extends third := List.IsPrefix.trans left right

/-- What subscribing a row does: the row's key is active under the id acknowledged, the one it had
or else a fresh one; nothing else changes. -/
structure Subscribed (ids : IdSource) (before : Server) (row : SubscribeRequest)
    (result : AckEntry × Server) : Prop where
  names : result.1.row = row
  active : result.2.active.get? row.key = some result.1.id
  kept : ∀ id, before.active.get? row.key = some id → result.1.id = id
  fresh : before.active.get? row.key = none → result.1.id = ids.issue before.issuedTo.length
  others : ∀ key, key ≠ row.key → result.2.active.get? key = before.active.get? key
  issued : before.active.get? row.key = none → result.2.Issued ids row.key result.1.id
  extended : before.Extends result.2

variable (ids) in
theorem subscribe_spec (server : Server) (row : SubscribeRequest) :
    Subscribed ids server row (server.subscribe ids row) := by
  unfold subscribe
  cases found : server.active.get? row.key with
  | some id =>
    exact
      { names := rfl
        active := found
        kept := fun other same => Option.some.inj (found.symm.trans same)
        fresh := fun absent => by cases found.symm.trans absent
        others := fun _ _ => rfl
        issued := fun absent => by cases found.symm.trans absent
        extended := Extends.refl server }
  | none =>
    exact
      { names := rfl
        active := IndexMap.get?_insert_self _ _ _
        kept := fun other same => by cases found.symm.trans same
        fresh := fun _ => rfl
        others := fun key differs => (IndexMap.get?_insert _ _ _ _).trans (if_neg differs)
        issued := fun _ => ⟨server.issuedTo.length, List.getElem?_concat_length, rfl⟩
        extended := List.prefix_append _ _ }

theorem subscribe_truthful {server : Server} (truthful : server.Truthful ids)
    (row : SubscribeRequest) : (server.subscribe ids row).2.Truthful ids := by
  have spec := subscribe_spec ids server row
  intro key id found
  by_cases same : key = row.key
  · subst same
    have acked : (server.subscribe ids row).1.id = id := Option.some.inj (spec.active.symm.trans found)
    cases before : server.active.get? row.key with
    | none => exact acked ▸ spec.issued before
    | some old =>
      have kept : old = id := (spec.kept old before).symm.trans acked
      exact (truthful row.key id (kept ▸ before)).mono spec.extended
  · rw [spec.others key same] at found
    exact (truthful key id found).mono spec.extended

/-- Subscribing a row leaves every active id as it is. -/
theorem subscribe_kept {server : Server} {row : SubscribeRequest} {key id : String}
    (active : server.active.get? key = some id) :
    (server.subscribe ids row).2.active.get? key = some id := by
  have spec := subscribe_spec ids server row
  by_cases same : key = row.key
  · subst same
    rw [spec.active, spec.kept id active]
  · rw [spec.others key same]
    exact active

/-! ### Reading a frame -/

theorem subscribeAll_kept (rows : List SubscribeRequest) {server : Server} {key id : String}
    (active : server.active.get? key = some id) :
    (server.subscribeAll ids rows).2.active.get? key = some id := by
  induction rows generalizing server with
  | nil => exact active
  | cons row rest ih => exact ih (subscribe_kept active)

theorem subscribeAll_extends (rows : List SubscribeRequest) (server : Server) :
    server.Extends (server.subscribeAll ids rows).2 := by
  induction rows generalizing server with
  | nil => exact Extends.refl server
  | cons row rest ih => exact (subscribe_spec ids server row).extended.trans (ih _)

theorem subscribeAll_truthful (rows : List SubscribeRequest) {server : Server}
    (truthful : server.Truthful ids) : (server.subscribeAll ids rows).2.Truthful ids := by
  induction rows generalizing server with
  | nil => exact truthful
  | cons row rest ih => exact ih (subscribe_truthful truthful row)

/-- A subscribed key ends up active, under the id it had or a fresh one. -/
theorem subscribeAll_active {rows : List SubscribeRequest} (server : Server) {key : String}
    (member : key ∈ rows.map SubscribeRequest.key) :
    ∃ id, (server.subscribeAll ids rows).2.active.get? key = some id ∧
      (server.active.get? key = some id ∨
        ∃ n, server.issuedTo.length ≤ n ∧ id = ids.issue n) := by
  induction rows generalizing server with
  | nil => cases member
  | cons row rest ih =>
    have spec := subscribe_spec ids server row
    by_cases same : key = row.key
    · subst same
      have kept : (server.subscribeAll ids (row :: rest)).2.active.get? row.key =
          some (server.subscribe ids row).1.id := subscribeAll_kept rest spec.active
      refine ⟨_, kept, ?_⟩
      cases before : server.active.get? row.key with
      | none => exact Or.inr ⟨_, Nat.le_refl _, spec.fresh before⟩
      | some old => exact Or.inl (by rw [spec.kept old before])
    · have later : key ∈ rest.map SubscribeRequest.key := (List.mem_cons.mp member).resolve_left same
      obtain ⟨id, active, either⟩ := ih (server.subscribe ids row).2 later
      refine ⟨id, active, ?_⟩
      rcases either with before | ⟨n, fresh, issued⟩
      · exact Or.inl ((spec.others key same).symm.trans before)
      · exact Or.inr ⟨n, Nat.le_trans spec.extended.length_le fresh, issued⟩

theorem subscribeAll_others {rows : List SubscribeRequest} {server : Server} {key : String}
    (absent : key ∉ rows.map SubscribeRequest.key) :
    (server.subscribeAll ids rows).2.active.get? key = server.active.get? key := by
  induction rows generalizing server with
  | nil => rfl
  | cons row rest ih =>
    rw [List.map_cons, List.mem_cons, not_or] at absent
    exact (ih absent.2).trans ((subscribe_spec ids server row).others key absent.1)

variable (ids) in
/-- The acks name the rows in order, each under the id its key is left with. -/
theorem subscribeAll_acks (rows : List SubscribeRequest) (server : Server) :
    (server.subscribeAll ids rows).1.map AckEntry.row = rows ∧
      ∀ entry ∈ (server.subscribeAll ids rows).1,
        (server.subscribeAll ids rows).2.active.get? entry.row.key = some entry.id := by
  induction rows generalizing server with
  | nil => exact ⟨rfl, fun _ member => by cases member⟩
  | cons row rest ih =>
    have spec := subscribe_spec ids server row
    obtain ⟨names, active⟩ := ih (server.subscribe ids row).2
    refine ⟨congrArg₂ List.cons spec.names names, fun entry member => ?_⟩
    rcases List.mem_cons.mp member with rfl | later
    · refine subscribeAll_kept rest ?_
      rw [spec.names]
      exact spec.active
    · exact active entry later

theorem get?_unsubscribe {server : Server} {wireIds : List String} {key id : String} :
    (server.unsubscribe wireIds).active.get? key = some id ↔
      server.active.get? key = some id ∧ id ∉ wireIds := by
  refine IndexMap.get?_retain.trans ?_
  rw [decide_eq_true_eq]

variable {server : Server} {frame : WebSocketRequest} {key id : String}

/-- A frame ends a key only by naming its id. -/
theorem read_kept (active : server.active.get? key = some id) (unnamed : id ∉ frame.unsubscribes) :
    (server.read ids frame).2.active.get? key = some id := by
  cases frame with
  | subscribe sub => exact subscribeAll_kept _ active
  | unsubscribe unsub => exact get?_unsubscribe.mpr ⟨active, unnamed⟩
  | ping => exact active
  | subscriptions => exact active

variable (ids server) in
theorem read_active (member : key ∈ frame.subscribes) :
    ∃ id, (server.read ids frame).2.active.get? key = some id ∧
      (server.active.get? key = some id ∨
        ∃ n, server.issuedTo.length ≤ n ∧ id = ids.issue n) := by
  cases frame with
  | subscribe sub => exact subscribeAll_active server member
  | unsubscribe => cases member
  | ping => cases member
  | subscriptions => cases member

/-- What a frame does not subscribe was active before it, under an id it does not name. -/
theorem read_others (absent : key ∉ frame.subscribes)
    (active : (server.read ids frame).2.active.get? key = some id) :
    server.active.get? key = some id ∧ id ∉ frame.unsubscribes := by
  cases frame with
  | subscribe sub => exact ⟨(subscribeAll_others absent).symm.trans active, List.not_mem_nil⟩
  | unsubscribe unsub => exact get?_unsubscribe.mp active
  | ping => exact ⟨active, List.not_mem_nil⟩
  | subscriptions => exact ⟨active, List.not_mem_nil⟩

variable (ids server frame) in
theorem read_extends : server.Extends (server.read ids frame).2 := by
  cases frame with
  | subscribe sub => exact subscribeAll_extends _ server
  | unsubscribe => exact Extends.refl server
  | ping => exact Extends.refl server
  | subscriptions => exact Extends.refl server

variable (frame) in
theorem read_truthful (truthful : server.Truthful ids) : (server.read ids frame).2.Truthful ids := by
  cases frame with
  | subscribe sub => exact subscribeAll_truthful _ truthful
  | unsubscribe unsub => exact fun key id active => truthful key id (get?_unsubscribe.mp active).1
  | ping => exact truthful
  | subscriptions => exact truthful

/-- An ack names rows, each with an id issued for its key. -/
theorem read_acked (named : ∀ req, frame = .subscribe req → req.isNamed = true)
    (truthful : server.Truthful ids) {ack : List AckEntry} (answer : (server.read ids frame).1 = some ack) :
    ∀ entry ∈ ack, entry.row.isRow = true ∧
      (server.read ids frame).2.Issued ids entry.row.key entry.id := by
  have after := read_truthful frame truthful
  cases frame with
  | subscribe sub =>
    obtain ⟨names, active⟩ := subscribeAll_acks ids sub.expand server
    cases answer
    intro entry member
    refine ⟨isRow_of_mem_expand (named sub rfl) ?_, after _ _ (active entry member)⟩
    rw [← names]
    exact List.mem_map_of_mem member
  | unsubscribe => cases answer
  | ping => cases answer
  | subscriptions => cases answer

theorem readAll_extends (server : Server) (frames : List WebSocketRequest) :
    server.Extends (server.readAll ids frames) := by
  induction frames generalizing server with
  | nil => exact Extends.refl server
  | cons frame rest ih => exact (read_extends ids server frame).trans (ih _)

theorem readAll_truthful (frames : List WebSocketRequest) (truthful : server.Truthful ids) :
    (server.readAll ids frames).Truthful ids := by
  induction frames generalizing server with
  | nil => exact truthful
  | cons frame rest ih => exact ih (read_truthful frame truthful)

theorem readAll_concat (server : Server) (frames : List WebSocketRequest) (frame : WebSocketRequest) :
    server.readAll ids (frames ++ [frame]) = ((server.readAll ids frames).read ids frame).2 := by
  rw [readAll, List.foldl_append]
  rfl

end Server

/-! ### The client and its server -/

/-- One connection: the client's manager, the frame its caller holds, the cancels its dispatch loop
holds, the frames and acks under way, the server, and the keys whose last call was a subscribe. -/
structure Link where
  manager : SubscriptionManager := {}
  held : Option WebSocketRequest := none
  cancels : List String := []
  toServer : List WebSocketRequest := []
  toClient : List (List AckEntry) := []
  server : Server := {}
  subscribed : Finset String := ∅

namespace Link

variable (ids : IdSource)

/-- A subscribe call up to its frame: the rows are stored. -/
def startSubscribe (link : Link) (req : SubscribeRequest) : Link :=
  { link with
    manager := storeRows link.manager req.expand
    held := some (.subscribe req)
    subscribed := link.subscribed ∪ req.rowKeys.toFinset }

/-- An unsubscribe call up to its frame: the targets are resolved, and no frame is left where there
is no id to send. -/
def startUnsubscribe (link : Link) (targets : List String) : Link :=
  let resolved := unsubscribeWireIds link.manager targets
  { link with
    manager := resolved.2
    held := if resolved.1 = [] then none else some (frameUnsubscribe resolved.1)
    subscribed := link.subscribed \ targets.toFinset }

/-- The rest of a call: its frame is put on the write queue. -/
def queueHeld (link : Link) : Link :=
  { link with held := none, toServer := link.toServer ++ link.held.toList }

/-- The dispatch loop reads an ack: the ids are recorded and the cancels noted. -/
def takeAck (link : Link) (ack : List AckEntry) (rest : List (List AckEntry)) : Link :=
  let handled := handleSubscribedEvent link.manager (subscribedAck ack)
  { link with manager := handled.2, cancels := handled.1, toClient := rest }

/-- `send_cancels`: the frame for the cancels, if there are any, is put on the write queue. -/
def sendCancels (link : Link) : Link :=
  if link.cancels = [] then link
  else { link with cancels := [], toServer := link.toServer ++ [frameUnsubscribe link.cancels] }

/-- The server reads a frame. -/
def serverRead (link : Link) (frame : WebSocketRequest) (rest : List WebSocketRequest) : Link :=
  let answered := link.server.read ids frame
  { link with
    server := answered.2
    toServer := rest
    toClient := link.toClient ++ answered.1.toList }

/-- Nothing is in flight: no frame, no ack, and neither the caller nor the dispatch loop holds one. -/
def Quiet (link : Link) : Prop :=
  link.held = none ∧ link.cancels = [] ∧ link.toServer = [] ∧ link.toClient = []

/-- The server once it has read every frame on the queue. -/
def drained (link : Link) : Server := link.server.readAll ids link.toServer

/-- The keys the caller is about to subscribe. -/
def heldSubscribes (link : Link) : List String :=
  link.held.elim [] WebSocketRequest.subscribes

/-- The ids the caller is about to unsubscribe. -/
def heldUnsubscribes (link : Link) : List String :=
  link.held.elim [] WebSocketRequest.unsubscribes

end Link

/-- One step of the caller, the dispatch loop or the server. -/
inductive LinkCall where
  | subscribe (req : SubscribeRequest)
  | unsubscribe (rows : List SubscribeRequest)
  | queueFrame
  | handleAck
  | sendCancels
  | serverReads
  deriving DecidableEq, Repr

/-- One step. The caller makes one call at a time, for rows; the dispatch loop reads on once its
cancels are queued. -/
def Link.step (ids : IdSource) (link : Link) : LinkCall → Option Link
  | .subscribe req =>
    if link.held.isNone ∧ req.isNamed then some (link.startSubscribe req) else none
  | .unsubscribe rows =>
    if link.held.isNone ∧ rows.all SubscribeRequest.isRow then
      some (link.startUnsubscribe (rows.map SubscribeRequest.key))
    else none
  | .queueFrame => if link.held.isSome then some link.queueHeld else none
  | .handleAck =>
    match link.cancels, link.toClient with
    | [], ack :: rest => some (link.takeAck ack rest)
    | _, _ => none
  | .sendCancels => if link.cancels ≠ [] then some link.sendCancels else none
  | .serverReads =>
    match link.toServer with
    | frame :: rest => some (link.serverRead ids frame rest)
    | [] => none

/-- A client and a server with nothing subscribed, in every interleaving of their steps. -/
def linkRuns (ids : IdSource) : StepMachine Link LinkCall where
  start := fun link => link = {}
  step := Link.step ids

/-- A subscribe frame is put on the queue only while the dispatch loop holds no cancel naming the id
one of its keys is active under once the frames ahead of it are read. -/
def Link.NoLateCancel (ids : IdSource) (link : Link) (call : LinkCall) : Prop :=
  call = .queueFrame → ∀ key ∈ link.heldSubscribes, ∀ id ∈ link.cancels,
    (link.drained ids).active.get? key ≠ some id

instance (ids : IdSource) (link : Link) (call : LinkCall) : Decidable (link.NoLateCancel ids call) :=
  inferInstanceAs (Decidable (call = .queueFrame → ∀ key ∈ link.heldSubscribes,
    ∀ id ∈ link.cancels, (link.drained ids).active.get? key ≠ some id))

/-- A typed subscription is a call the client may make: it stores its rows and holds its frame. -/
theorem Link.step_typed (ids : IdSource) {link : Link} (idle : link.held = none) :
    (∀ sub : StockSubscription, ∃ req, frameSubscribe sub = (.subscribe req, req.expand) ∧
      link.step ids (.subscribe req) = some (link.startSubscribe req)) ∧
    ∀ sub : FutOptSubscription, ∃ req, frameSubscribeFutopt sub = (.subscribe req, req.expand) ∧
      link.step ids (.subscribe req) = some (link.startSubscribe req) := by
  have takes (req : SubscribeRequest) (named : req.isNamed = true) :
      link.step ids (.subscribe req) = some (link.startSubscribe req) :=
    if_pos ⟨Option.isNone_iff_eq_none.mpr idle, named⟩
  refine ⟨fun sub => ?_, fun sub => ?_⟩
  · obtain ⟨req, frame, named⟩ := frameSubscribe_named sub
    exact ⟨req, frame, takes req named⟩
  · obtain ⟨req, frame, named⟩ := frameSubscribeFutopt_named sub
    exact ⟨req, frame, takes req named⟩

/-! ### The invariant -/

/-- A frame that subscribes only rows. -/
def WebSocketRequest.Named (frame : WebSocketRequest) : Prop :=
  ∀ req, frame = .subscribe req → req.isNamed = true

/-- The invariant. Whatever the client knows of the server's ids was issued for that key, a stored
key has no cancel pending, and it is about to be subscribed or active, once the queue is read, under
an id that nobody is about to unsubscribe. -/
structure Link.Inv (ids : IdSource) (link : Link) : Prop where
  heldNamed : ∀ frame ∈ link.held, frame.Named
  named : ∀ frame ∈ link.toServer, frame.Named
  truthful : link.server.Truthful ids
  acked : ∀ ack ∈ link.toClient, ∀ entry ∈ ack,
    entry.row.isRow = true ∧ link.server.Issued ids entry.row.key entry.id
  recorded : ∀ key id, link.manager.ids.byKey.get? key = some id → link.server.Issued ids key id
  cancelled : ∀ id ∈ link.cancels, ∃ key, link.server.Issued ids key id
  notPending : ∀ key ∈ link.manager.subscriptions, key ∉ link.manager.ids.pendingCancels
  live : ∀ key ∈ link.manager.subscriptions, key ∈ link.heldSubscribes ∨
    ∃ id, (link.drained ids).active.get? key = some id ∧ id ∉ link.cancels ∧
      id ∉ link.heldUnsubscribes
  stored : ∀ key ∈ link.subscribed, key ∈ link.manager.subscriptions

namespace Link

variable {ids : IdSource} {link : Link}

/-- A row's key is no id, so no id is recorded as one. -/
theorem Inv.keyOnly (inv : link.Inv ids) {rows : List SubscribeRequest}
    (isRow : rows.all SubscribeRequest.isRow = true) :
    ∀ target ∈ rows.map SubscribeRequest.key, ∀ key,
      link.manager.ids.byKey.get? key ≠ some target := by
  intro target member key found
  obtain ⟨row, inRows, rfl⟩ := List.mem_map.mp member
  obtain ⟨n, -, same⟩ := inv.recorded key row.key found
  exact ids.not_key n row (List.all_eq_true.mp isRow row inRows) same.symm

theorem Inv.drained_truthful (inv : link.Inv ids) : (link.drained ids).Truthful ids :=
  Server.readAll_truthful _ inv.truthful

theorem issued_drained {key id : String} (issued : link.server.Issued ids key id) :
    (link.drained ids).Issued ids key id := issued.mono (Server.readAll_extends _ _)

theorem Inv.startSubscribe (inv : link.Inv ids) (idle : link.held = none) {req : SubscribeRequest}
    (named : req.isNamed = true) : (link.startSubscribe req).Inv ids where
  heldNamed := by
    rintro frame ⟨⟩ other ⟨⟩
    exact named
  named := inv.named
  truthful := inv.truthful
  acked := inv.acked
  recorded := by
    intro key id found
    refine inv.recorded key id ?_
    rw [← byKey_storeRows link.manager req.expand]
    exact found
  cancelled := inv.cancelled
  notPending := by
    intro key member pending
    obtain ⟨fresh, pending⟩ := mem_pendingCancels_storeRows.mp pending
    exact inv.notPending key ((mem_storeRows.mp member).resolve_left fresh) pending
  live := by
    intro key member
    by_cases now : key ∈ req.rowKeys
    · exact Or.inl now
    · have before : key ∈ link.manager.subscriptions := (mem_storeRows.mp member).resolve_left now
      rcases inv.live key before with here | ⟨id, active, free, -⟩
      · rw [heldSubscribes, idle] at here
        cases here
      · exact Or.inr ⟨id, active, free, List.not_mem_nil⟩
  stored := by
    intro key member
    rcases Finset.mem_union.mp member with before | now
    · exact mem_storeRows.mpr (Or.inr (inv.stored key before))
    · exact mem_storeRows.mpr (Or.inl (List.mem_toFinset.mp now))

theorem heldUnsubscribes_startUnsubscribe (link : Link) (targets : List String) :
    (link.startUnsubscribe targets).heldUnsubscribes =
      (unsubscribeWireIds link.manager targets).1 := by
  have held : (link.startUnsubscribe targets).held =
      if (unsubscribeWireIds link.manager targets).1 = [] then none
      else some (frameUnsubscribe (unsubscribeWireIds link.manager targets).1) := rfl
  rw [heldUnsubscribes, held]
  by_cases nothing : (unsubscribeWireIds link.manager targets).1 = []
  · rw [if_pos nothing, nothing]
    rfl
  · rw [if_neg nothing]
    exact unsubscribes_frameUnsubscribe _

theorem Inv.startUnsubscribe (inv : link.Inv ids) (idle : link.held = none)
    {rows : List SubscribeRequest} (isRow : rows.all SubscribeRequest.isRow = true) :
    (link.startUnsubscribe (rows.map SubscribeRequest.key)).Inv ids := by
  have released := unsubscribeWireIds_released (inv.keyOnly isRow)
  exact
    { heldNamed := by
        intro frame held req same
        unfold Link.startUnsubscribe at held
        simp only [Option.mem_def] at held
        split at held
        · cases held
        · rw [Option.some.injEq] at held
          have nothing := subscribes_frameUnsubscribe
            (unsubscribeWireIds link.manager (rows.map SubscribeRequest.key)).1
          rw [held, same] at nothing
          rw [SubscribeRequest.isNamed, List.map_eq_nil_iff.mp nothing]
          rfl
      named := inv.named
      truthful := inv.truthful
      acked := inv.acked
      recorded := fun key id found => inv.recorded key id (released.recorded key id found)
      cancelled := inv.cancelled
      notPending := by
        intro key member pending
        obtain ⟨other, before⟩ := (released.stored key).mp member
        rcases released.pending key pending with waits | named
        · exact inv.notPending key before waits
        · exact other named
      live := by
        intro key member
        obtain ⟨other, before⟩ := (released.stored key).mp member
        rcases inv.live key before with here | ⟨id, active, free, -⟩
        · rw [heldSubscribes, idle] at here
          cases here
        refine Or.inr ⟨id, active, free, ?_⟩
        rw [heldUnsubscribes_startUnsubscribe]
        intro handed
        -- An id handed back was issued for a target, and `key` is none; nor is an id a row's key.
        have mine := inv.drained_truthful key id active
        rcases released.handed id handed with ⟨target, is, found⟩ | is
        · have same := mine.unique (issued_drained (inv.recorded target id found))
          exact other (same ▸ is)
        · obtain ⟨row, inRows, same⟩ := List.mem_map.mp is
          obtain ⟨n, -, issued⟩ := mine
          exact ids.not_key n row (List.all_eq_true.mp isRow row inRows) (issued.symm.trans same.symm)
      stored := by
        intro key member
        obtain ⟨before, other⟩ := Finset.mem_sdiff.mp member
        rw [List.mem_toFinset] at other
        exact (released.stored key).mpr ⟨other, inv.stored key before⟩ }

theorem drained_queueHeld {frame : WebSocketRequest} (held : link.held = some frame) :
    link.queueHeld.drained ids = ((link.drained ids).read ids frame).2 := by
  unfold drained queueHeld
  rw [held]
  exact Server.readAll_concat _ _ _

theorem Inv.queueHeld (inv : link.Inv ids) (noLateCancel : link.NoLateCancel ids .queueFrame) :
    link.queueHeld.Inv ids where
  heldNamed := fun frame held => by cases held
  named := by
    intro frame member
    rcases List.mem_append.mp member with before | now
    · exact inv.named frame before
    · exact inv.heldNamed frame (Option.mem_toList.mp now)
  truthful := inv.truthful
  acked := inv.acked
  recorded := inv.recorded
  cancelled := inv.cancelled
  notPending := inv.notPending
  live := by
    intro key member
    right
    cases held : link.held with
    | none =>
      rcases inv.live key member with here | ⟨id, active, free, -⟩
      · rw [heldSubscribes, held] at here
        cases here
      · refine ⟨id, ?_, free, List.not_mem_nil⟩
        unfold Link.queueHeld drained
        rw [held, Option.toList_none, List.append_nil]
        exact active
    | some frame =>
      rw [drained_queueHeld held]
      by_cases now : key ∈ frame.subscribes
      · have here : key ∈ link.heldSubscribes := by
          rw [heldSubscribes, held]
          exact now
        obtain ⟨id, active, either⟩ := Server.read_active ids (link.drained ids) now
        refine ⟨id, active, fun cancelled => ?_, List.not_mem_nil⟩
        rcases either with before | ⟨n, fresh, rfl⟩
        · exact noLateCancel rfl key here id cancelled before
        · -- A fresh id is in no cancel: those were issued before.
          obtain ⟨other, issued⟩ := inv.cancelled _ cancelled
          obtain ⟨m, found, same⟩ := issued_drained issued
          have inside := (List.getElem?_eq_some_iff.mp found).1
          rw [ids.injective n m same] at fresh
          exact absurd inside (Nat.not_lt.mpr fresh)
      · rcases inv.live key member with here | ⟨id, active, free, unnamed⟩
        · rw [heldSubscribes, held] at here
          exact absurd here now
        · rw [heldUnsubscribes, held] at unnamed
          exact ⟨id, Server.read_kept active unnamed, free, List.not_mem_nil⟩
  stored := inv.stored

theorem Inv.takeAck (inv : link.Inv ids) {ack : List AckEntry} {rest : List (List AckEntry)}
    (arrived : link.toClient = ack :: rest) : (link.takeAck ack rest).Inv ids := by
  have entries : ∀ entry ∈ ack, entry.row.isRow = true ∧
      link.server.Issued ids entry.row.key entry.id :=
    inv.acked ack (arrived ▸ List.mem_cons_self)
  have handled := handleSubscribedEvent_ack link.manager fun entry inside => (entries entry inside).1
  have spec := recordAcks_recorded link.manager (ack.map AckEntry.pair)
  have issued (key id : String) (member : (key, id) ∈ ack.map AckEntry.pair) :
      link.server.Issued ids key id := by
    obtain ⟨entry, inside, same⟩ := List.mem_map.mp member
    rw [AckEntry.pair, Prod.mk.injEq] at same
    rw [← same.1, ← same.2]
    exact (entries entry inside).2
  have manager : (link.takeAck ack rest).manager =
      (recordAcks link.manager (ack.map AckEntry.pair)).2 := by
    show (handleSubscribedEvent link.manager (subscribedAck ack)).2 = _
    rw [handled]
  have cancels : (link.takeAck ack rest).cancels =
      dedupeInPlace (recordAcks link.manager (ack.map AckEntry.pair)).1 := by
    show (handleSubscribedEvent link.manager (subscribedAck ack)).1 = _
    rw [handled]
  exact
    { heldNamed := inv.heldNamed
      named := inv.named
      truthful := inv.truthful
      acked := fun other member => inv.acked other (arrived ▸ List.mem_cons_of_mem _ member)
      recorded := by
        intro key id found
        rw [manager] at found
        rcases spec.recorded key id found with before | now
        · exact inv.recorded key id before
        · exact issued key id now
      cancelled := by
        intro id member
        rw [cancels, mem_dedupeInPlace] at member
        obtain ⟨key, inside, -⟩ := spec.handed id member
        exact ⟨key, issued key id inside⟩
      notPending := by
        intro key member pending
        rw [manager] at member pending
        rw [spec.stored] at member
        exact inv.notPending key member (spec.pending key pending)
      live := by
        intro key member
        rw [manager, spec.stored] at member
        rcases inv.live key member with here | ⟨id, active, -, unnamed⟩
        · exact Or.inl here
        · refine Or.inr ⟨id, active, fun cancelled => ?_, unnamed⟩
          rw [cancels, mem_dedupeInPlace] at cancelled
          obtain ⟨other, inside, waits⟩ := spec.handed id cancelled
          have same := (inv.drained_truthful key id active).unique (issued_drained (issued other id inside))
          exact inv.notPending key member (same ▸ waits)
      stored := by
        intro key member
        rw [manager, spec.stored]
        exact inv.stored key member }

theorem Inv.sendCancels (inv : link.Inv ids) : link.sendCancels.Inv ids := by
  unfold Link.sendCancels
  split
  · exact inv
  exact
    { heldNamed := inv.heldNamed
      named := by
        intro frame member req same
        rcases List.mem_append.mp member with before | now
        · exact inv.named frame before req same
        · have nothing := subscribes_frameUnsubscribe link.cancels
          rw [← List.mem_singleton.mp now, same] at nothing
          rw [SubscribeRequest.isNamed, List.map_eq_nil_iff.mp nothing]
          rfl
      truthful := inv.truthful
      acked := inv.acked
      recorded := inv.recorded
      cancelled := fun id member => by cases member
      notPending := inv.notPending
      live := by
        intro key member
        rcases inv.live key member with here | ⟨id, active, free, unnamed⟩
        · exact Or.inl here
        · refine Or.inr ⟨id, ?_, List.not_mem_nil, unnamed⟩
          unfold drained
          rw [Server.readAll_concat]
          refine Server.read_kept active ?_
          rw [unsubscribes_frameUnsubscribe]
          exact free
      stored := inv.stored }

theorem Inv.serverRead (inv : link.Inv ids) {frame : WebSocketRequest}
    {rest : List WebSocketRequest} (arrived : link.toServer = frame :: rest) :
    (link.serverRead ids frame rest).Inv ids := by
  have drained : (link.serverRead ids frame rest).drained ids = link.drained ids := by
    unfold Link.drained
    rw [arrived]
    rfl
  have extended := Server.read_extends ids link.server frame
  exact
    { heldNamed := inv.heldNamed
      named := fun other member => inv.named other (arrived ▸ List.mem_cons_of_mem _ member)
      truthful := Server.read_truthful frame inv.truthful
      acked := by
        intro ack member entry inside
        rcases List.mem_append.mp member with before | now
        · obtain ⟨isRow, issued⟩ := inv.acked ack before entry inside
          exact ⟨isRow, issued.mono extended⟩
        · have named := inv.named frame (arrived ▸ List.mem_cons_self)
          exact Server.read_acked named inv.truthful (Option.mem_toList.mp now) entry inside
      recorded := fun key id found => (inv.recorded key id found).mono extended
      cancelled := fun id member => (inv.cancelled id member).imp fun _ issued => issued.mono extended
      notPending := inv.notPending
      live := by
        rw [drained]
        exact inv.live
      stored := inv.stored }

theorem step_inv {next : Link} {call : LinkCall} (inv : link.Inv ids)
    (stepped : link.step ids call = some next) (noLateCancel : link.NoLateCancel ids call) :
    next.Inv ids := by
  cases call with
  | subscribe req =>
    simp only [step, Option.ite_none_right_eq_some, Option.some.injEq] at stepped
    obtain ⟨⟨idle, named⟩, rfl⟩ := stepped
    exact inv.startSubscribe (Option.isNone_iff_eq_none.mp idle) named
  | unsubscribe rows =>
    simp only [step, Option.ite_none_right_eq_some, Option.some.injEq] at stepped
    obtain ⟨⟨idle, isRow⟩, rfl⟩ := stepped
    exact inv.startUnsubscribe (Option.isNone_iff_eq_none.mp idle) isRow
  | queueFrame =>
    simp only [step, Option.ite_none_right_eq_some, Option.some.injEq] at stepped
    obtain ⟨-, rfl⟩ := stepped
    exact inv.queueHeld noLateCancel
  | handleAck =>
    simp only [step] at stepped
    split at stepped
    · rename_i arrived
      cases stepped
      exact inv.takeAck arrived
    · cases stepped
  | sendCancels =>
    simp only [step, Option.ite_none_right_eq_some, Option.some.injEq] at stepped
    obtain ⟨-, rfl⟩ := stepped
    exact inv.sendCancels
  | serverReads =>
    simp only [step] at stepped
    split at stepped
    · rename_i arrived
      cases stepped
      exact inv.serverRead arrived
    · cases stepped

theorem start_inv (ids : IdSource) : ({} : Link).Inv ids where
  heldNamed := fun frame held => by cases held
  named := fun frame member => by cases member
  truthful := fun key id active => by cases active
  acked := fun ack member => by cases member
  recorded := fun key id found => by cases found
  cancelled := fun id member => by cases member
  notPending := fun key member => absurd member (IndexMap.not_mem_empty key)
  live := fun key member => absurd member (IndexMap.not_mem_empty key)
  stored := fun key member => absurd member (Finset.notMem_empty key)

theorem reachable_inv
    (reached : (linkRuns ids).ReachableUnder (fun link call _ => link.NoLateCancel ids call) link) :
    link.Inv ids := by
  have base (first : Link) (starts : (linkRuns ids).start first) : first.Inv ids := by
    cases starts
    exact start_inv ids
  exact reached.invariant base fun _ _ _ inv stepped allows => step_inv inv stepped allows

/-- Once nothing is in flight, every stored key is active. -/
theorem Inv.active_of_stored (inv : link.Inv ids) (quiet : link.Quiet) {key : String}
    (member : key ∈ link.manager.subscriptions) : key ∈ link.server.active := by
  obtain ⟨idle, -, empty, -⟩ := quiet
  rcases inv.live key member with here | ⟨id, active, -, -⟩
  · rw [heldSubscribes, idle] at here
    cases here
  · rw [drained, empty] at active
    exact IndexMap.mem_of_get? active

end Link

/-- **A late cancel ends a renewed subscription only where its key's subscribe frame overtook it.**
In every run in which no subscribe frame gets ahead of a cancel naming the id its key is active
under, every key whose last call was a subscribe is active once nothing is in flight. -/
theorem subscribed_active (ids : IdSource) {link : Link}
    (reached : (linkRuns ids).ReachableUnder (fun link call _ => link.NoLateCancel ids call) link)
    (quiet : link.Quiet) : ∀ key ∈ link.subscribed, key ∈ link.server.active := by
  have inv := Link.reachable_inv reached
  exact fun key member => inv.active_of_stored quiet (inv.stored key member)

/-! ### A run that loses a subscription -/

theorem colon_mem_key {row : SubscribeRequest} (isRow : row.isRow = true) :
    ':' ∈ row.key.toList := by
  obtain ⟨channel, symbol, symbols, afterHours, oddLot⟩ := row
  cases symbol with
  | none => cases isRow
  | some symbol =>
    simp only [SubscribeRequest.key]
    split
    · simp [String.toList_append]
    split <;> simp [String.toList_append]

/-- Ids that are rows of marks. -/
def markIds : IdSource where
  issue := fun n => String.ofList (List.replicate (n + 1) 'x')
  injective := by
    intro m n same
    have marks := congrArg String.toList same
    rw [String.toList_ofList, String.toList_ofList] at marks
    have counts := congrArg List.length marks
    rw [List.length_replicate, List.length_replicate] at counts
    omega
  not_key := by
    intro n row isRow same
    have colon := colon_mem_key isRow
    rw [← same, String.toList_ofList] at colon
    exact absurd (List.eq_of_mem_replicate colon) (by decide)

/-- Another key's frame is queued while the dispatch loop holds the cancel of the first. -/
def cancelHeld : List LinkCall :=
  [.subscribe trades2330, .queueFrame, .serverReads, .unsubscribe [trades2330], .handleAck,
    .subscribe trades2317, .queueFrame, .sendCancels, .serverReads, .serverReads, .handleAck]

theorem subscribed_active_cancelHeld :
    ∃ link, (linkRuns markIds).run {} cancelHeld = some link ∧
      "trades:2330" ∉ link.server.active ∧ "trades:2317" ∈ link.server.active := by
  have runs : ∃ link,
      (linkRuns markIds).runUnder (fun link call => link.NoLateCancel markIds call) {} cancelHeld =
        some link ∧ link.Quiet ∧ "trades:2317" ∈ link.subscribed ∧
      "trades:2330" ∉ link.server.active :=
    ⟨_, rfl, ⟨rfl, rfl, rfl, rfl⟩, by decide, by decide⟩
  obtain ⟨link, ran, quiet, subscribed, cancelled⟩ := runs
  have reached := reachableUnder_of_run cancelHeld (.start rfl) ran
  exact ⟨link, run_of_runUnder _ ran, cancelled,
    subscribed_active markIds reached quiet "trades:2317" subscribed⟩

/-- Unsubscribed before its ack and subscribed again while the dispatch loop holds the cancel. -/
def overtaken : List LinkCall :=
  [.subscribe trades2330, .queueFrame, .serverReads, .unsubscribe [trades2330], .handleAck,
    .subscribe trades2330, .queueFrame, .sendCancels, .serverReads, .serverReads, .handleAck]

/-- In some run the cancel ends the renewed subscription. -/
theorem lateCancel_ends_renewed :
    ¬ ∀ (ids : IdSource) (link : Link), (linkRuns ids).Reachable link → link.Quiet →
      ∀ key ∈ link.subscribed, key ∈ link.server.active := by
  intro always
  refine not_forall_reachable overtaken (m := linkRuns markIds) rfl ⟨_, rfl, fun active => ?_⟩
    (always markIds)
  exact absurd (active ⟨rfl, rfl, rfl, rfl⟩ "trades:2330" (by decide)) (by decide)

end FugleMarketdata
