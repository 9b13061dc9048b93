/-
**One connection, calls in one piece.** The subscriptions of `Link` where every step of the client is
atomic: a call updates the manager and queues its frame, an ack is recorded and its cancel queued.

* `atomicLinkRuns` — the client and the server in every order of such steps, one key a call;
* `atomicLink_refines` — each step is one or two steps of `linkRuns`, and no cancel is ever late;
* `Link.Recorded` — a key the server still has to ack aside, what is active at the server is stored
  and recorded under its id;
* `active_iff_stored` — with nothing in flight the server's active keys are the stored ones, unless
  the id of an ack was recorded for a key nobody was waiting for.
-/

import FugleMarketdata.Websocket.Link

namespace FugleMarketdata

open StepMachines StepMachine

/-! ### Atomic steps -/

/-- One atomic step of the client or the server. -/
inductive AtomicCall where
  | subscribe (row : SubscribeRequest)
  | unsubscribe (row : SubscribeRequest)
  | processAck
  | serverReads
  deriving DecidableEq, Repr

/-- One step; the client's calls name one key each. -/
def Link.atomicStep (ids : IdSource) (link : Link) : AtomicCall → Option Link
  | .subscribe row => if row.isRow then some (link.startSubscribe row).queueHeld else none
  | .unsubscribe row => if row.isRow then some (link.startUnsubscribe [row.key]).queueHeld else none
  | .processAck =>
    match link.toClient with
    | ack :: rest => some (link.takeAck ack rest).sendCancels
    | [] => none
  | .serverReads =>
    match link.toServer with
    | frame :: rest => some (link.serverRead ids frame rest)
    | [] => none

/-- A client and a server with nothing subscribed, in every order of their atomic steps. -/
def atomicLinkRuns (ids : IdSource) : StepMachine Link AtomicCall where
  start := fun link => link = {}
  step := Link.atomicStep ids

/-- Between atomic steps neither the caller nor the dispatch loop holds anything. -/
def Link.Idle (link : Link) : Prop := link.held = none ∧ link.cancels = []

theorem Link.idle_sendCancels {link : Link} (idle : link.held = none) : link.sendCancels.Idle := by
  unfold Link.sendCancels
  split
  · rename_i nothing
    exact ⟨idle, nothing⟩
  · exact ⟨idle, rfl⟩

theorem Link.atomicStep_idle {ids : IdSource} {link next : Link} {call : AtomicCall}
    (idle : link.Idle) (stepped : link.atomicStep ids call = some next) : next.Idle := by
  cases call with
  | subscribe row =>
    simp only [atomicStep, Option.ite_none_right_eq_some, Option.some.injEq] at stepped
    obtain ⟨-, rfl⟩ := stepped
    exact ⟨rfl, idle.2⟩
  | unsubscribe row =>
    simp only [atomicStep, Option.ite_none_right_eq_some, Option.some.injEq] at stepped
    obtain ⟨-, rfl⟩ := stepped
    exact ⟨rfl, idle.2⟩
  | processAck =>
    simp only [atomicStep] at stepped
    split at stepped
    · cases stepped
      exact Link.idle_sendCancels idle.1
    · cases stepped
  | serverReads =>
    simp only [atomicStep] at stepped
    split at stepped
    · cases stepped
      exact idle
    · cases stepped

theorem isNamed_of_isRow {row : SubscribeRequest} (isRow : row.isRow = true) :
    row.expand = [row] ∧ row.isNamed = true := by
  have single : row.symbols = none := Option.isNone_iff_eq_none.mp (Bool.and_eq_true_iff.mp isRow).2
  have expanded : row.expand = [row] := by rw [SubscribeRequest.expand, single]
  refine ⟨expanded, ?_⟩
  rw [SubscribeRequest.isNamed, expanded, List.all_cons, isRow]
  rfl

theorem Link.idle_reachable {ids : IdSource} {allowed : Link → AtomicCall → Link → Prop}
    {link : Link} (reached : (atomicLinkRuns ids).ReachableUnder allowed link) : link.Idle := by
  have base (first : Link) (starts : (atomicLinkRuns ids).start first) : first.Idle := by
    cases starts
    exact ⟨rfl, rfl⟩
  exact reached.invariant base fun _ _ _ idle stepped _ => Link.atomicStep_idle idle stepped

theorem Link.queueHeld_of_none {link : Link} (idle : link.held = none) : link.queueHeld = link := by
  unfold Link.queueHeld
  rw [idle, Option.toList_none, List.append_nil, ← idle]

theorem Link.noLateCancel_of_nil {ids : IdSource} {link : Link} (free : link.cancels = [])
    (call : LinkCall) : link.NoLateCancel ids call := by
  intro _ key _ id member
  rw [free] at member
  cases member

/-- **The atomic steps are steps of the finer machine**, in which no cancel is ever late. -/
theorem atomicLink_refines (ids : IdSource) (allowed : Link → AtomicCall → Link → Prop) :
    Refines (atomicLinkRuns ids) allowed (linkRuns ids)
      (fun link call _ => link.NoLateCancel ids call) id where
  start := fun _ starts => starts
  step := by
    intro link call next reached stepped _ before
    obtain ⟨idle, free⟩ := Link.idle_reachable reached
    have early (call : LinkCall) : link.NoLateCancel ids call := Link.noLateCancel_of_nil free call
    cases call with
    | subscribe row =>
      simp only [atomicLinkRuns, Link.atomicStep, Option.ite_none_right_eq_some,
        Option.some.injEq] at stepped
      obtain ⟨isRow, rfl⟩ := stepped
      have stored : (linkRuns ids).ReachableUnder _ (link.startSubscribe row) :=
        before.step (a := .subscribe row)
          (if_pos ⟨Option.isNone_iff_eq_none.mpr idle, (isNamed_of_isRow isRow).2⟩) (early _)
      have still : (link.startSubscribe row).cancels = [] := free
      exact stored.step (a := .queueFrame) rfl (Link.noLateCancel_of_nil still _)
    | unsubscribe row =>
      simp only [atomicLinkRuns, Link.atomicStep, Option.ite_none_right_eq_some,
        Option.some.injEq] at stepped
      obtain ⟨isRow, rfl⟩ := stepped
      have rows : [row].all SubscribeRequest.isRow = true := by
        rw [List.all_cons, isRow]
        rfl
      have resolved : (linkRuns ids).ReachableUnder _ (link.startUnsubscribe [row.key]) :=
        before.step (a := .unsubscribe [row])
          (if_pos ⟨Option.isNone_iff_eq_none.mpr idle, rows⟩) (early _)
      have still : (link.startUnsubscribe [row.key]).cancels = [] := free
      by_cases waits : (link.startUnsubscribe [row.key]).held.isSome = true
      · exact resolved.step (a := .queueFrame) (if_pos waits) (Link.noLateCancel_of_nil still _)
      · rw [Option.not_isSome_iff_eq_none] at waits
        rw [Link.queueHeld_of_none waits]
        exact resolved
    | processAck =>
      simp only [atomicLinkRuns, Link.atomicStep] at stepped
      split at stepped
      · rename_i ack rest arrived
        cases stepped
        have handled : (linkRuns ids).ReachableUnder
            (fun link call _ => link.NoLateCancel ids call) (link.takeAck ack rest) := by
          refine before.step (a := .handleAck) ?_ (early _)
          simp only [linkRuns, Link.step, id_eq, free, arrived]
        by_cases nothing : (link.takeAck ack rest).cancels = []
        · unfold Link.sendCancels
          rw [if_pos nothing]
          exact handled
        · exact handled.step (a := .sendCancels) (if_pos nothing) fun same => by cases same
      · cases stepped
    | serverReads =>
      simp only [atomicLinkRuns, Link.atomicStep] at stepped
      split at stepped
      · rename_i frame rest arrived
        cases stepped
        refine before.step (a := .serverReads) ?_ (early _)
        simp only [linkRuns, Link.step, id_eq, arrived]
      · cases stepped

/-! ### What is still to come -/

/-- The id of the last ack for a key, where there is one. -/
def lastAck (entries : List AckEntry) (key : String) : Option String :=
  (entries.reverse.map AckEntry.pair).lookup key

theorem lastAck_concat (entries : List AckEntry) (entry : AckEntry) (key : String) :
    lastAck (entries ++ [entry]) key =
      if key = entry.row.key then some entry.id else lastAck entries key := by
  unfold lastAck
  rw [List.reverse_append, List.reverse_singleton, List.singleton_append, List.map_cons,
    AckEntry.pair, List.lookup_cons]
  by_cases same : key = entry.row.key
  · rw [if_pos same, beq_iff_eq.mpr same]
  · rw [if_neg same, beq_eq_false_iff_ne.mpr same]

theorem lastAck_cons_self {entry : AckEntry} {rest : List AckEntry}
    (later : entry.row.key ∉ rest.map fun other => other.row.key) :
    lastAck (entry :: rest) entry.row.key = some entry.id := by
  induction rest using List.reverseRecOn with
  | nil => exact (lastAck_concat [] entry _).trans (if_pos rfl)
  | append_singleton rest last ih =>
    rw [List.map_append, List.mem_append, not_or, List.map_singleton, List.mem_singleton] at later
    rw [← List.cons_append, lastAck_concat, if_neg later.2]
    exact ih later.1

theorem lastAck_cons_of_some {entry : AckEntry} {rest : List AckEntry} {key id : String}
    (found : lastAck rest key = some id) : lastAck (entry :: rest) key = some id := by
  induction rest using List.reverseRecOn with
  | nil => cases found
  | append_singleton rest last ih =>
    rw [lastAck_concat] at found
    rw [← List.cons_append, lastAck_concat]
    by_cases same : key = last.row.key
    · rw [if_pos same] at found ⊢
      exact found
    · rw [if_neg same] at found ⊢
      exact ih found

/-- The server still has to ack a key, or its ack is under way. -/
def Outstanding (toClient : List (List AckEntry)) (toServer : List WebSocketRequest)
    (key : String) : Prop :=
  key ∈ toClient.flatten.map (fun entry => entry.row.key) ∨
    ∃ frame ∈ toServer, key ∈ frame.subscribes

/-- An ack is processed only where its id is not recorded for a key nobody waits for: the key is
stored, its cancel is pending, a further ack for it is to come, or the id is being unsubscribed. -/
def Link.NoStaleRecord (link : Link) (call : AtomicCall) : Prop :=
  call = .processAck → ∀ ack rest, link.toClient = ack :: rest → ∀ entry ∈ ack,
    entry.row.key ∈ link.manager.subscriptions ∨
      entry.row.key ∈ link.manager.ids.pendingCancels ∨
      Outstanding rest link.toServer entry.row.key ∨
      ∃ frame ∈ link.toServer, entry.id ∈ frame.unsubscribes

namespace Server

variable {ids : IdSource}

/-- What no queued frame subscribes is active already, under an id no frame names. -/
theorem readAll_others {frames : List WebSocketRequest} {server : Server} {key id : String}
    (absent : ∀ frame ∈ frames, key ∉ frame.subscribes)
    (active : (server.readAll ids frames).active.get? key = some id) :
    server.active.get? key = some id ∧ ∀ frame ∈ frames, id ∉ frame.unsubscribes := by
  induction frames generalizing server with
  | nil => exact ⟨active, fun _ member => by cases member⟩
  | cons frame rest ih =>
    obtain ⟨later, unnamed⟩ := ih (fun other member => absent other (List.mem_cons_of_mem _ member))
      active
    obtain ⟨before, free⟩ := read_others (absent frame List.mem_cons_self) later
    refine ⟨before, fun other member => ?_⟩
    rcases List.mem_cons.mp member with rfl | member
    · exact free
    · exact unnamed other member

variable (ids) in
/-- A frame about one row is acknowledged for that row alone; any other is not, and activates
nothing. -/
theorem read_single {frame : WebSocketRequest}
    (oneRow : ∀ req, frame = .subscribe req → req.expand = [req]) (server : Server) :
    ((server.read ids frame).1 = none ∧ frame.subscribes = [] ∧
        ∀ key id, (server.read ids frame).2.active.get? key = some id →
          server.active.get? key = some id) ∨
      ∃ entry, (server.read ids frame).1 = some [entry] ∧ frame.subscribes = [entry.row.key] ∧
        (server.read ids frame).2.active.get? entry.row.key = some entry.id ∧
        ∀ key, key ≠ entry.row.key →
          (server.read ids frame).2.active.get? key = server.active.get? key := by
  cases frame with
  | subscribe req =>
    right
    have spec := subscribe_spec ids server req
    have answer : server.read ids (.subscribe req) =
        (some [(server.subscribe ids req).1], (server.subscribe ids req).2) := by
      show (some (server.subscribeAll ids req.expand).1, (server.subscribeAll ids req.expand).2) = _
      rw [oneRow req rfl]
      rfl
    rw [answer]
    refine ⟨_, rfl, ?_, ?_, ?_⟩
    · rw [spec.names]
      show req.expand.map SubscribeRequest.key = [req.key]
      rw [oneRow req rfl]
      rfl
    · rw [spec.names]
      exact spec.active
    · rw [spec.names]
      exact spec.others
  | unsubscribe unsub => exact Or.inl ⟨rfl, rfl, fun key id active => (get?_unsubscribe.mp active).1⟩
  | ping => exact Or.inl ⟨rfl, rfl, fun _ _ => id⟩
  | subscriptions => exact Or.inl ⟨rfl, rfl, fun _ _ => id⟩

end Server

/-- Unsubscribing a key leaves the others, with their ids, unless their id is the one handed back. -/
theorem resolveUnsubscribe_keeps {mgr : SubscriptionManager} {target key id : String}
    (stored : key ∈ mgr.subscriptions) (found : mgr.ids.byKey.get? key = some id)
    (other : (mgr.resolveUnsubscribe target).1 ≠ some id) :
    key ∈ (mgr.resolveUnsubscribe target).2.subscriptions ∧
      (mgr.resolveUnsubscribe target).2.ids.byKey.get? key = some id := by
  have resolution := mgr.resolveUnsubscribe_cases target
  generalize mgr.resolveUnsubscribe target = result at other resolution
  have keeps (keys : List String) (outside : key ∉ keys) :
      key ∈ (mgr.removeKeys keys).subscriptions ∧
        (mgr.removeKeys keys).ids.byKey.get? key = some id := by
    refine ⟨SubscriptionManager.mem_removeKeys.mpr ⟨outside, stored⟩, ?_⟩
    rw [SubscriptionManager.get?_removeKeys, if_neg outside, found]
  cases resolution with
  | byKey here =>
    refine keeps [target] fun member => ?_
    rw [List.mem_singleton.mp member] at found
    exact other (here.symm.trans found)
  | byId _ _ =>
    refine keeps _ fun member => ?_
    exact other ((SubscriptionManager.mem_keysOf.mp member).symm.trans found)
  | pending absent _ _ =>
    refine ⟨IndexMap.mem_shiftRemove.mpr ⟨fun same => ?_, stored⟩, found⟩
    cases (same ▸ absent).symm.trans found
  | unknown => exact ⟨stored, found⟩

/-! ### The invariant -/

/-- The invariant. Every frame is about one key and every ack has one entry; an active key has the id
of the last ack under way for it; and a key the server has nothing to ack for is active, once the
queue is read, only while it is stored and recorded under its id. -/
structure Link.Clean (ids : IdSource) (link : Link) : Prop where
  single : ∀ ack ∈ link.toClient, ∃ entry, ack = [entry]
  oneRow : ∀ frame ∈ link.toServer, ∀ req, frame = .subscribe req → req.expand = [req]
  last : ∀ key id acked, link.server.active.get? key = some id →
    lastAck link.toClient.flatten key = some acked → acked = id
  clean : ∀ key id, ¬ Outstanding link.toClient link.toServer key →
    (link.drained ids).active.get? key = some id →
    key ∈ link.manager.subscriptions ∧ link.manager.ids.byKey.get? key = some id

theorem Outstanding.mono {acks more : List (List AckEntry)} {frames others : List WebSocketRequest}
    {key : String} (acksKept : ∀ entry ∈ acks.flatten, entry ∈ more.flatten)
    (framesKept : ∀ frame ∈ frames, frame ∈ others) (outstanding : Outstanding acks frames key) :
    Outstanding more others key := by
  rcases outstanding with acked | ⟨frame, member, subscribes⟩
  · obtain ⟨entry, member, same⟩ := List.mem_map.mp acked
    exact Or.inl (List.mem_map.mpr ⟨entry, acksKept entry member, same⟩)
  · exact Or.inr ⟨frame, framesKept frame member, subscribes⟩

namespace Link

variable {ids : IdSource} {link : Link}

/-- What a frame does not subscribe was active before it was queued, under an id it does not name. -/
theorem drained_concat_others {server : Server} {frames : List WebSocketRequest}
    {frame : WebSocketRequest} {key id : String} (absent : key ∉ frame.subscribes)
    (active : (server.readAll ids (frames ++ [frame])).active.get? key = some id) :
    (server.readAll ids frames).active.get? key = some id ∧ id ∉ frame.unsubscribes := by
  rw [Server.readAll_concat] at active
  exact Server.read_others absent active

theorem Clean.subscribe (clean : link.Clean ids) {row : SubscribeRequest}
    (isRow : row.isRow = true) : (link.startSubscribe row).queueHeld.Clean ids where
  single := clean.single
  oneRow := by
    intro frame member req same
    rcases List.mem_append.mp member with before | now
    · exact clean.oneRow frame before req same
    · rw [List.mem_singleton.mp now] at same
      cases same
      exact (isNamed_of_isRow isRow).1
  last := clean.last
  clean := by
    intro key id settled active
    have absent : key ∉ (WebSocketRequest.subscribe row).subscribes := fun member =>
      settled (Or.inr ⟨_, List.mem_append_right _ List.mem_cons_self, member⟩)
    obtain ⟨before, -⟩ := drained_concat_others absent active
    have quiet : ¬ Outstanding link.toClient link.toServer key := fun outstanding =>
      settled (outstanding.mono (fun _ member => member) fun _ member => List.mem_append_left _ member)
    obtain ⟨stored, recorded⟩ := clean.clean key id quiet before
    refine ⟨mem_storeRows.mpr (Or.inr stored), ?_⟩
    show (storeRows link.manager row.expand).ids.byKey.get? key = some id
    rw [byKey_storeRows]
    exact recorded

theorem Clean.unsubscribe (clean : link.Clean ids) (target : String) :
    (link.startUnsubscribe [target]).queueHeld.Clean ids := by
  have handed : (unsubscribeWireIds link.manager [target]).1 =
      (link.manager.resolveUnsubscribe target).1.toList := by
    show dedupeInPlace ((link.manager.resolveUnsubscribe target).1.toList ++ []) = _
    cases (link.manager.resolveUnsubscribe target).1 <;> rfl
  have held : (link.startUnsubscribe [target]).held =
      if (unsubscribeWireIds link.manager [target]).1 = [] then none
      else some (frameUnsubscribe (unsubscribeWireIds link.manager [target]).1) := rfl
  have toServer : (link.startUnsubscribe [target]).queueHeld.toServer =
      link.toServer ++ (link.startUnsubscribe [target]).held.toList := rfl
  have before (key id : String)
      (active : ((link.startUnsubscribe [target]).queueHeld.drained ids).active.get? key = some id) :
      (link.drained ids).active.get? key = some id ∧
        (link.manager.resolveUnsubscribe target).1 ≠ some id := by
    unfold Link.drained at active
    rw [toServer, held, handed] at active
    cases answer : (link.manager.resolveUnsubscribe target).1 with
    | none =>
      rw [answer, Option.toList_none, if_pos rfl, Option.toList_none, List.append_nil] at active
      exact ⟨active, fun same => by cases same⟩
    | some sent =>
      rw [answer] at active
      obtain ⟨earlier, other⟩ := drained_concat_others List.not_mem_nil active
      refine ⟨earlier, fun same => other ?_⟩
      rw [Option.some.inj same]
      exact List.mem_cons_self
  exact
    { single := clean.single
      oneRow := by
        intro frame member req same
        rcases List.mem_append.mp member with earlier | now
        · exact clean.oneRow frame earlier req same
        · rw [Option.mem_toList, held] at now
          split at now
          · cases now
          · cases now
            unfold frameUnsubscribe at same
            split at same <;> cases same
      last := clean.last
      clean := by
        intro key id settled active
        obtain ⟨earlier, other⟩ := before key id active
        have quiet : ¬ Outstanding link.toClient link.toServer key := fun outstanding =>
          settled (outstanding.mono (fun _ member => member) fun _ member =>
            List.mem_append_left _ member)
        obtain ⟨stored, recorded⟩ := clean.clean key id quiet earlier
        exact resolveUnsubscribe_keeps stored recorded other }

theorem drained_sendCancels {key id : String}
    (active : (link.sendCancels.drained ids).active.get? key = some id) :
    (link.drained ids).active.get? key = some id ∧ id ∉ link.cancels := by
  unfold Link.sendCancels at active
  split at active
  · rename_i nothing
    rw [nothing]
    exact ⟨active, List.not_mem_nil⟩
  · have absent : key ∉ (frameUnsubscribe link.cancels).subscribes := by
      rw [subscribes_frameUnsubscribe]
      exact List.not_mem_nil
    have before := drained_concat_others absent active
    rw [unsubscribes_frameUnsubscribe] at before
    exact before

theorem sendCancels_kept (link : Link) : link.sendCancels.manager = link.manager ∧
    link.sendCancels.toClient = link.toClient ∧ link.sendCancels.server = link.server ∧
    ∃ more, link.sendCancels.toServer = link.toServer ++ more ∧
      ∀ frame ∈ more, ∀ req, frame ≠ .subscribe req := by
  unfold Link.sendCancels
  split
  · exact ⟨rfl, rfl, rfl, [], (List.append_nil _).symm, fun _ member => by cases member⟩
  · refine ⟨rfl, rfl, rfl, [frameUnsubscribe link.cancels], rfl, fun frame member req => ?_⟩
    rw [List.mem_singleton.mp member]
    unfold frameUnsubscribe
    split <;> exact fun same => by cases same

/-- What recording one ack leaves: the cancel of a key that waited for it, or the key's new id. -/
theorem takeAck_single (link : Link) {entry : AckEntry} (isRow : entry.row.isRow = true)
    (rest : List (List AckEntry)) :
    (link.takeAck [entry] rest).manager = (link.manager.recordAck entry.row.key entry.id).2 ∧
      (link.takeAck [entry] rest).cancels =
        (link.manager.recordAck entry.row.key entry.id).1.toList := by
  have rows : ∀ other ∈ [entry], other.row.isRow = true := by
    intro other member
    rw [List.mem_singleton.mp member]
    exact isRow
  have handled := handleSubscribedEvent_ack link.manager rows
  constructor
  · show (handleSubscribedEvent link.manager (subscribedAck [entry])).2 = _
    rw [handled]
    rfl
  · show (handleSubscribedEvent link.manager (subscribedAck [entry])).1 = _
    rw [handled]
    show dedupeInPlace ((link.manager.recordAck entry.row.key entry.id).1.toList ++ []) = _
    cases (link.manager.recordAck entry.row.key entry.id).1 <;> rfl

theorem recordAck_keeps {mgr : SubscriptionManager} {key other id acked : String}
    (differs : other ≠ key) (found : mgr.ids.byKey.get? other = some id) :
    (mgr.recordAck key acked).2.ids.byKey.get? other = some id := by
  by_cases waits : key ∈ mgr.ids.pendingCancels
  · rw [SubscriptionManager.recordAck_pending acked waits]
    exact found
  · rw [SubscriptionManager.recordAck_recorded acked waits]
    exact (SubscriptionManager.get?_recordServerId mgr key acked other).trans ((if_neg differs).trans found)

theorem Clean.processAck (clean : link.Clean ids) {entry : AckEntry} {rest : List (List AckEntry)}
    (arrived : link.toClient = [entry] :: rest) (isRow : entry.row.isRow = true)
    (wanted : link.NoStaleRecord .processAck) : (link.takeAck [entry] rest).sendCancels.Clean ids := by
  obtain ⟨manager, cancels⟩ := takeAck_single link isRow rest
  obtain ⟨sameManager, sameClient, sameServer, more, toServer, unsubscribe⟩ :=
    sendCancels_kept (link.takeAck [entry] rest)
  have flat : link.toClient.flatten = entry :: rest.flatten := by
    rw [arrived]
    rfl
  refine ⟨?_, ?_, ?_, ?_⟩
  · rw [sameClient]
    exact fun ack member => clean.single ack (arrived ▸ List.mem_cons_of_mem _ member)
  · rw [toServer]
    intro frame member req same
    rcases List.mem_append.mp member with before | now
    · exact clean.oneRow frame before req same
    · exact absurd same (unsubscribe frame now req)
  · rw [sameClient, sameServer]
    intro key id acked active found
    refine clean.last key id acked active ?_
    rw [flat]
    exact lastAck_cons_of_some found
  · rw [sameManager, sameClient, manager]
    intro key id settled active
    obtain ⟨earlier, free⟩ := drained_sendCancels active
    have quiet : ¬ Outstanding rest link.toServer key := fun outstanding =>
      settled (outstanding.mono (fun _ member => member) fun _ member => by
        rw [toServer]
        exact List.mem_append_left _ member)
    by_cases here : key = entry.row.key
    · -- The last ack for the key: its id is the one the key is active under.
      subst here
      obtain ⟨now, unnamed⟩ := Server.readAll_others
        (fun frame member subscribes => quiet (Or.inr ⟨frame, member, subscribes⟩)) earlier
      have acked : entry.id = id := by
        refine clean.last _ id _ now ?_
        rw [flat]
        exact lastAck_cons_self fun later => quiet (Or.inl later)
      have noCancel : entry.row.key ∉ link.manager.ids.pendingCancels := by
        intro waits
        rw [cancels, SubscriptionManager.recordAck_pending entry.id waits, acked] at free
        exact free List.mem_cons_self
      rw [SubscriptionManager.recordAck_recorded entry.id noCancel]
      refine ⟨?_, ?_⟩
      · rcases wanted rfl [entry] rest arrived entry List.mem_cons_self with
          stored | waits | later | ⟨frame, member, names⟩
        · exact stored
        · exact absurd waits noCancel
        · exact absurd later quiet
        · exact absurd (acked ▸ names) (unnamed frame member)
      · rw [SubscriptionManager.get?_recordServerId, if_pos rfl, acked]
    · have before : ¬ Outstanding link.toClient link.toServer key := by
        rintro (acked | queued)
        · rw [flat, List.map_cons, List.mem_cons] at acked
          exact quiet (Or.inl (acked.resolve_left here))
        · exact quiet (Or.inr queued)
      obtain ⟨stored, recorded⟩ := clean.clean key id before earlier
      rw [SubscriptionManager.subscriptions_recordAck]
      exact ⟨stored, recordAck_keeps here recorded⟩

theorem Clean.serverRead (clean : link.Clean ids) {frame : WebSocketRequest}
    {rest : List WebSocketRequest} (arrived : link.toServer = frame :: rest) :
    (link.serverRead ids frame rest).Clean ids := by
  have drained : (link.serverRead ids frame rest).drained ids = link.drained ids := by
    unfold Link.drained
    rw [arrived]
    rfl
  have later (other : WebSocketRequest) (member : other ∈ rest) : other ∈ link.toServer :=
    arrived ▸ List.mem_cons_of_mem _ member
  rcases Server.read_single ids (clean.oneRow frame (arrived ▸ List.mem_cons_self))
    link.server with ⟨silent, nothing, fewer⟩ | ⟨entry, acked, subscribes, active, others⟩
  · have toClient : (link.serverRead ids frame rest).toClient = link.toClient := by
      show link.toClient ++ (link.server.read ids frame).1.toList = _
      rw [silent]
      exact List.append_nil _
    refine ⟨?_, fun other member => clean.oneRow other (later other member), ?_, ?_⟩
    · rw [toClient]
      exact clean.single
    · rw [toClient]
      exact fun key id last now => clean.last key id last (fewer key id now)
    · rw [toClient, drained]
      refine fun key id settled => clean.clean key id fun outstanding => settled ?_
      rcases outstanding with acked | ⟨other, member, named⟩
      · exact Or.inl acked
      · rw [arrived, List.mem_cons] at member
        rcases member with rfl | member
        · rw [nothing] at named
          cases named
        · exact Or.inr ⟨other, member, named⟩
  · have toClient : (link.serverRead ids frame rest).toClient = link.toClient ++ [[entry]] := by
      show link.toClient ++ (link.server.read ids frame).1.toList = _
      rw [acked]
      rfl
    have flat : (link.toClient ++ [[entry]]).flatten = link.toClient.flatten ++ [entry] := by
      rw [List.flatten_append, List.flatten_singleton]
    refine ⟨?_, fun other member => clean.oneRow other (later other member), ?_, ?_⟩
    · rw [toClient]
      intro ack member
      rcases List.mem_append.mp member with before | now
      · exact clean.single ack before
      · exact ⟨entry, List.mem_singleton.mp now⟩
    · rw [toClient, flat]
      intro key id last now found
      rw [lastAck_concat] at found
      by_cases here : key = entry.row.key
      · rw [if_pos here, Option.some.injEq] at found
        rw [here] at now
        rw [← found]
        exact Option.some.inj (active.symm.trans now)
      · rw [if_neg here] at found
        exact clean.last key id last ((others key here).symm.trans now) found
    · rw [toClient, drained]
      refine fun key id settled => clean.clean key id fun outstanding => settled ?_
      rcases outstanding with before | ⟨other, member, named⟩
      · left
        rw [flat, List.map_append]
        exact List.mem_append_left _ before
      · rw [arrived, List.mem_cons] at member
        rcases member with rfl | member
        · left
          rw [subscribes, List.mem_singleton] at named
          rw [flat, List.map_append, named]
          exact List.mem_append_right _ List.mem_cons_self
        · exact Or.inr ⟨other, member, named⟩

theorem atomicStep_clean {next : Link} {call : AtomicCall} (inv : link.Inv ids)
    (clean : link.Clean ids) (stepped : link.atomicStep ids call = some next)
    (wanted : link.NoStaleRecord call) : next.Clean ids := by
  cases call with
  | subscribe row =>
    simp only [atomicStep, Option.ite_none_right_eq_some, Option.some.injEq] at stepped
    obtain ⟨isRow, rfl⟩ := stepped
    exact clean.subscribe isRow
  | unsubscribe row =>
    simp only [atomicStep, Option.ite_none_right_eq_some, Option.some.injEq] at stepped
    obtain ⟨-, rfl⟩ := stepped
    exact clean.unsubscribe row.key
  | processAck =>
    simp only [atomicStep] at stepped
    split at stepped
    · rename_i ack rest arrived
      cases stepped
      have member : ack ∈ link.toClient := arrived ▸ List.mem_cons_self
      obtain ⟨entry, rfl⟩ := clean.single ack member
      have isRow := (inv.acked [entry] member entry List.mem_cons_self).1
      exact clean.processAck arrived isRow wanted
    · cases stepped
  | serverReads =>
    simp only [atomicStep] at stepped
    split at stepped
    · rename_i arrived
      cases stepped
      exact clean.serverRead arrived
    · cases stepped

end Link

/-! ### Every run -/

/-- **No leaked server subscription, while no stale id is recorded.** In every run in which each ack
is processed for a key that is stored or cancelled, or with more to come for it, once nothing is in
flight the keys active on the server are those stored in the manager. -/
theorem active_iff_stored (ids : IdSource) {link : Link}
    (reached : (atomicLinkRuns ids).ReachableUnder (fun link call _ => link.NoStaleRecord call) link)
    (quiet : link.Quiet) (key : String) :
    key ∈ link.server.active ↔ key ∈ link.manager.subscriptions := by
  have known (current : Link)
      (before : (atomicLinkRuns ids).ReachableUnder (fun link call _ => link.NoStaleRecord call)
        current) : current.Inv ids :=
    Link.reachable_inv ((atomicLink_refines ids _).reachable before)
  have base (first : Link) (starts : (atomicLinkRuns ids).start first) : first.Clean ids := by
    cases starts
    exact
      { single := fun _ member => by cases member
        oneRow := fun _ member => by cases member
        last := fun _ _ _ active => by cases active
        clean := fun _ _ _ active => by cases active }
  have clean : link.Clean ids := by
    refine reached.invariant_with known base fun current call next inv clean stepped wanted => ?_
    exact Link.atomicStep_clean inv clean stepped wanted
  constructor
  · intro member
    obtain ⟨id, active⟩ := IndexMap.mem_iff_get?.mp member
    obtain ⟨-, -, noFrame, noAck⟩ := quiet
    refine (clean.clean key id ?_ ?_).1
    · rw [noFrame, noAck]
      rintro (acked | ⟨frame, queued, -⟩)
      · cases acked
      · cases queued
    · rw [Link.drained, noFrame]
      exact active
  · exact (known link reached).active_of_stored quiet

theorem active_iff_stored_cancelled :
    ∃ link, (atomicLinkRuns markIds).run {} [.subscribe trades2330, .serverReads,
        .unsubscribe trades2330, .subscribe trades2317, .processAck, .serverReads, .serverReads,
        .processAck] = some link ∧
      "trades:2330" ∉ link.server.active ∧ "trades:2317" ∈ link.server.active := by
  refine ⟨_, rfl, ?_⟩
  have stored : (atomicLinkRuns markIds).ReachableUnder (fun link call _ => link.NoStaleRecord call) _ :=
    .step (a := .subscribe trades2330) (.start rfl) rfl fun same => by cases same
  have read := stored.step (a := .serverReads) rfl fun same => by cases same
  -- its ack has not come: the cancel is pending
  have pending := read.step (a := .unsubscribe trades2330) rfl fun same => by cases same
  have other := pending.step (a := .subscribe trades2317) rfl fun same => by cases same
  have cancelled := other.step (a := .processAck) rfl fun _ ack rest arrived entry member => by
    cases arrived
    rw [List.mem_singleton.mp member]
    exact Or.inr (Or.inl (by decide))
  have reads := (cancelled.step (a := .serverReads) rfl fun same => by cases same).step
    (a := .serverReads) rfl fun same => by cases same
  have acked := reads.step (a := .processAck) rfl fun _ ack rest arrived entry member => by
    cases arrived
    rw [List.mem_singleton.mp member]
    exact Or.inl (by decide)
  have active := active_iff_stored markIds acked ⟨rfl, rfl, rfl, rfl⟩
  exact ⟨mt (active "trades:2330").mp (by decide), (active "trades:2317").mpr (by decide)⟩

/-- The second ack of a key subscribed twice comes after the unsubscribe its first ack answered; its
id is recorded for nobody, and the next unsubscribe sends it in place of the new one. -/
def staleRecord : List AtomicCall :=
  [.subscribe trades2330, .subscribe trades2330, .serverReads, .serverReads, .processAck,
    .unsubscribe trades2330, .processAck, .serverReads, .subscribe trades2330,
    .unsubscribe trades2330, .serverReads, .serverReads, .processAck]

/-- In some run a key stays active on the server that nothing stores. -/
theorem staleRecord_leaks :
    ¬ ∀ (ids : IdSource) (link : Link), (atomicLinkRuns ids).Reachable link → link.Quiet →
      ∀ key, key ∈ link.server.active ↔ key ∈ link.manager.subscriptions := by
  intro always
  refine not_forall_reachable staleRecord (m := atomicLinkRuns markIds) rfl
    ⟨_, rfl, fun same => ?_⟩ (always markIds)
  exact absurd ((same ⟨rfl, rfl, rfl, rfl⟩ "trades:2330").mp (by decide)) (by decide)

end FugleMarketdata
