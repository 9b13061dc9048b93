/-
**Which events a section adds.** The critical sections of `stream_queue.rs`, as steps of the order of
events.

`Tells` says which events a push puts behind what is queued, messages and drop reports aside, as long
as none is refused. `Tracks` ties a client to the phase a consumer of its stream is in, and each
section of the connection's task, of the reconnect loop and of a closing caller moves it along
`Phase.next`.
-/

import FugleMarketdata.Websocket.EventOrder
import FugleMarketdata.Websocket.StreamRun

namespace FugleMarketdata

variable (sh : Shared)

/-! ### The pushes -/

/-- `result` is `work` with items at the end of the queue that tell of exactly `events`, unless an
event is refused. -/
def Tells (work result : State × Outcome) (events : List ConnectionEvent) : Prop :=
  ∃ new, Pushes work result new ∧
    (result.2.droppedEvent = none → work.1.receiverAlive = true → lifecycle new = events)

theorem Tells.refl (work : State × Outcome) : Tells work work [] :=
  ⟨[], Pushes.refl work, fun _ _ => rfl⟩

theorem Tells.trans {work middle result : State × Outcome} {first second : List ConnectionEvent}
    (left : Tells work middle first) (right : Tells middle result second) :
    Tells work result (first ++ second) := by
  obtain ⟨new, pushes, told⟩ := left
  obtain ⟨more, pushesMore, toldMore⟩ := right
  refine ⟨new ++ more, pushes.trans pushesMore, fun clean alive => ?_⟩
  have stillAlive : middle.1.receiverAlive = true := pushes.alive.trans alive
  rw [lifecycle_append, told (pushesMore.dropped clean) alive, toldMore clean stillAlive]

theorem Tells.of_silent {work result : State × Outcome} {new : List StreamItem}
    (pushes : Pushes work result new) (silent : lifecycle new = []) : Tells work result [] :=
  ⟨new, pushes, fun _ _ => silent⟩

namespace State

theorem pushEvent_tells {event : ConnectionEvent}
    (telling : StreamItem.lifecycle (.event event) = some event) (work : State × Outcome) :
    Tells work (pushEvent sh event work) [event] := by
  obtain ⟨new, pushes, -, delivered⟩ := pushEvent_pushes sh event work
  refine ⟨new, pushes, fun clean alive => ?_⟩
  rw [delivered clean alive]
  simp [lifecycle, telling]

theorem pushFrames_tells (frames : List WebSocketMessage) (work : State × Outcome) :
    Tells work (pushFrames sh frames work) [] := by
  obtain ⟨new, pushes, silent⟩ := pushFrames_pushes sh frames work
  exact .of_silent pushes silent

theorem pushDisconnected_tells (now : Nat) (disconnect : Disconnect) (work : State × Outcome) :
    Tells ({ work.1 with
          disconnectClaimed := true
          closeReported := work.1.closeReported || !disconnect.willReconnect
          open_ := false }, work.2)
      (pushDisconnected sh now disconnect work) [disconnect.event] := by
  obtain ⟨reports, last, pushes, silent, -, delivered⟩ := pushDisconnected_pushes sh now disconnect work
  refine ⟨reports ++ last, pushes, fun clean alive => ?_⟩
  rw [delivered clean alive, lifecycle_append, silent]
  rfl

theorem openConnection_tells (data : Value) (frames : List WebSocketMessage) (work : State × Outcome) :
    Tells ({ work.1 with disconnectClaimed := false, closeReported := false, open_ := true }, work.2)
      (openConnection sh data frames work) [.authenticated data (authFrame sh frames)] :=
  (pushEvent_tells sh rfl _).trans (pushFrames_tells sh frames _)

theorem pushRejection_tells (message : String) (data : Value) (frames : List WebSocketMessage)
    (work : State × Outcome) :
    Tells work (pushRejection sh message data frames work)
      [.unauthenticated message data (authFrame sh frames)] :=
  (pushEvent_tells sh rfl _).trans (pushFrames_tells sh frames _)

end State

theorem queuedBy_trans {before middle after : State} {first second : List StreamItem}
    (left : middle.items = before.items ++ first) (right : after.items = middle.items ++ second) :
    queuedBy before middle ++ queuedBy middle after = queuedBy before after := by
  have whole : after.items = before.items ++ (first ++ second) := by
    rw [right, left, List.append_assoc]
  rw [queuedBy_eq left, queuedBy_eq right, queuedBy_eq whole]

/-- Claiming a `Disconnected` only adds items, and an event dropped before stays on record. -/
theorem Client.loseConnection_appends (now : Nat) (disconnect : Disconnect) (client : Client)
    (work : State × Outcome)
    (clean : (client.loseConnection sh now disconnect work).2.droppedEvent = none) :
    work.2.droppedEvent = none ∧
      ∃ new, (client.loseConnection sh now disconnect work).1.stream.items = work.1.items ++ new := by
  unfold loseConnection at clean ⊢
  by_cases taken : work.1.disconnectClaimed = true
  · rw [if_pos taken] at clean ⊢
    exact ⟨clean, [], (List.append_nil _).symm⟩
  · rw [if_neg taken] at clean ⊢
    obtain ⟨new, pushes, -⟩ := State.pushDisconnected_tells sh now disconnect work
    exact ⟨pushes.dropped clean, new, pushes.items⟩

/-! ### The phase a client is in -/

/-- The items queued so far bring a consumer to `phase`: nothing follows exactly when the close is
reported, and the connection's `Disconnected` is not claimed before it is queued. -/
structure Tracks (maxAttempts : Nat) (client : Client) (queued : List StreamItem) (phase : Phase) :
    Prop where
  alive : client.stream.receiverAlive = true
  followed : Phase.up.follow maxAttempts (lifecycle queued) = some phase
  reported : client.stream.closeReported = phase.isFinal
  unclaimed : phase = .up → client.stream.disconnectClaimed = false
  claimed : phase = .closed → client.stream.disconnectClaimed = true

/-- The items queued before a section and by it. -/
def queuedAfter (queued : List StreamItem) (before after : Client) : List StreamItem :=
  queued ++ queuedBy before.stream after.stream

theorem queuedAfter_self (queued : List StreamItem) (client : Client) :
    queuedAfter queued client client = queued := by
  rw [queuedAfter, queuedBy_self, List.append_nil]

namespace Tracks

variable {maxAttempts : Nat} {client : Client} {queued : List StreamItem} {phase : Phase}

/-- A section that pushes `events` moves the phase along them. -/
theorem tells {after : Client} {outcome : Outcome} {work : State × Outcome}
    {events : List ConnectionEvent} {next : Phase} (tracks : Tracks maxAttempts client queued phase)
    (told : Tells work (after.stream, outcome) events) (clean : outcome.droppedEvent = none)
    (items : work.1.items = client.stream.items)
    (alive : work.1.receiverAlive = client.stream.receiverAlive)
    (moved : phase.follow maxAttempts events = some next)
    (reported : work.1.closeReported = next.isFinal)
    (unclaimed : next = .up → work.1.disconnectClaimed = false)
    (claimed : next = .closed → work.1.disconnectClaimed = true) :
    Tracks maxAttempts after (queuedAfter queued client after) next := by
  obtain ⟨new, pushes, telling⟩ := told
  have receiving : work.1.receiverAlive = true := alive.trans tracks.alive
  have appended : queuedBy client.stream after.stream = new :=
    queuedBy_eq (pushes.items.trans (by rw [items]))
  refine ⟨pushes.alive.trans receiving, ?_, pushes.reported.trans reported,
    fun up => pushes.claimed.trans (unclaimed up), fun closed => pushes.claimed.trans (claimed closed)⟩
  rw [queuedAfter, appended, lifecycle_append, telling clean receiving, Phase.follow_append,
    tracks.followed]
  exact moved

/-- A section that pushes nothing about the connection leaves the phase. -/
theorem tells_nil {after : Client} {outcome : Outcome}
    (tracks : Tracks maxAttempts client queued phase)
    (told : Tells (client.stream, {}) (after.stream, outcome) [])
    (clean : outcome.droppedEvent = none) :
    Tracks maxAttempts after (queuedAfter queued client after) phase :=
  tracks.tells told clean rfl rfl rfl tracks.reported tracks.unclaimed tracks.claimed

/-- Pushing an event that ends no reconnect moves the phase along it. -/
theorem tells_event {next : Phase} {event : ConnectionEvent} {after : Client} {outcome : Outcome}
    (tracks : Tracks maxAttempts client queued phase)
    (told : Tells (client.stream, {}) (after.stream, outcome) [event])
    (clean : outcome.droppedEvent = none)
    (moved : phase.next maxAttempts event = some next) (going : event.endsReconnect = false) :
    Tracks maxAttempts after (queuedAfter queued client after) next := by
  obtain ⟨goes, up⟩ := Phase.next_stays moved going
  have open_ : phase.isFinal = false := by
    rw [← Bool.not_eq_true]
    intro final
    rw [Phase.next_final final] at moved
    cases moved
  have followed : phase.follow maxAttempts [event] = some next := by
    rw [Phase.follow_cons, moved]
    rfl
  refine tracks.tells told clean rfl rfl followed ?_ (fun isUp => tracks.unclaimed (up isUp)) ?_
  · rw [goes, ← open_]
    exact tracks.reported
  · intro closed
    rw [closed] at goes
    cases goes

/-! ### The connection's task -/

theorem pushMessage (tracks : Tracks maxAttempts client queued phase) (now : Nat)
    (message : WebSocketMessage)
    (clean : (client.pushMessage sh now message).2.droppedEvent = none) :
    Tracks maxAttempts (client.pushMessage sh now message).1
      (queuedAfter queued client (client.pushMessage sh now message).1) phase := by
  unfold Client.pushMessage at clean ⊢
  by_cases shut : (!client.stream.open_) = true
  · rw [if_pos shut, queuedAfter_self]
    exact tracks
  rw [if_neg shut] at clean ⊢
  obtain ⟨first, pushes, silent⟩ := State.pushMessageLocked_pushes sh message (client.stream, {})
  obtain ⟨second, pushesReport, silentReport⟩ := State.pushReport_pushes sh now false
    (State.pushMessageLocked sh message (client.stream, {}))
  have told := (Tells.of_silent pushes silent).trans (.of_silent pushesReport silentReport)
  exact tracks.tells_nil told clean

/-- Claiming a connected client's `Disconnected`. -/
theorem loseConnection {work : State × Outcome} (now : Nat) (disconnect : Disconnect)
    (tracks : Tracks maxAttempts { client with stream := work.1 } queued .up)
    (clean : (client.loseConnection sh now disconnect work).2.droppedEvent = none) :
    Tracks maxAttempts (client.loseConnection sh now disconnect work).1
      (queued ++ queuedBy work.1 (client.loseConnection sh now disconnect work).1.stream)
      (if disconnect.willReconnect then .lost 0 else .closed) := by
  have free : ¬ work.1.disconnectClaimed = true := by
    rw [tracks.unclaimed rfl]
    exact Bool.false_ne_true
  have fresh : work.1.closeReported = false := tracks.reported
  unfold Client.loseConnection at clean ⊢
  rw [if_neg free] at clean ⊢
  have told := State.pushDisconnected_tells sh now disconnect work
  refine tracks.tells told clean rfl rfl rfl ?_ ?_ fun _ => rfl
  · show (work.1.closeReported || !disconnect.willReconnect) = _
    rw [fresh]
    cases disconnect.willReconnect <;> rfl
  · cases disconnect.willReconnect <;> exact nofun

/-- A connection lost: the `Disconnected` is queued, unless the client was closed before. -/
theorem connectionLost (tracks : Tracks maxAttempts client queued phase)
    (up : phase = .up ∨ phase = .closed) (now : Nat)
    (code : Option Nat) (reason : String) (intent : DisconnectIntent) (willReconnect : Bool)
    (clean : (client.connectionLost sh now code reason intent willReconnect).2.droppedEvent = none) :
    Tracks maxAttempts (client.connectionLost sh now code reason intent willReconnect).1
      (queuedAfter queued client (client.connectionLost sh now code reason intent willReconnect).1)
      (if phase = .up ∧ willReconnect = true then .lost 0 else .closed) := by
  rcases up with rfl | rfl
  · have lost := tracks.loseConnection sh now { code, reason, intent, willReconnect } clean
    cases willReconnect <;> exact lost
  · have kept : client.connectionLost sh now code reason intent willReconnect = (client, {}) := by
      unfold Client.connectionLost Client.loseConnection
      rw [if_pos (tracks.claimed rfl)]
    rw [kept, queuedAfter_self]
    exact tracks

/-- A connection that failed: its event, then its `Disconnected`, unless the client was closed. -/
theorem connectionFailed (tracks : Tracks maxAttempts client queued phase)
    (up : phase = .up ∨ phase = .closed) (now : Nat)
    {event : ConnectionEvent} (reason : String) (willReconnect : Bool)
    (telling : StreamItem.lifecycle (.event event) = some event)
    (stays : Phase.up.next maxAttempts event = some .up) (going : event.endsReconnect = false)
    (clean : (client.connectionFailed sh now event reason willReconnect).2.2.droppedEvent = none) :
    Tracks maxAttempts (client.connectionFailed sh now event reason willReconnect).2.1
      (queuedAfter queued client (client.connectionFailed sh now event reason willReconnect).2.1)
      (if phase = .up ∧ willReconnect = true then .lost 0 else .closed) := by
  rcases up with rfl | rfl
  · have fresh : ¬ client.stream.closeReported = true := by
      rw [tracks.reported]
      exact Bool.false_ne_true
    unfold Client.connectionFailed Client.unlessClosed at clean ⊢
    rw [if_neg fresh] at clean ⊢
    have told := State.pushEvent_tells sh telling (client.stream, {})
    obtain ⟨new, pushes, -⟩ := State.pushEvent_tells sh telling (client.stream, {})
    obtain ⟨cleanEvent, more, appended⟩ := client.loseConnection_appends sh now
      { code := none, reason, intent := .network, willReconnect }
      (State.pushEvent sh event (client.stream, {})) clean
    have pushed : Tracks maxAttempts
        { client with stream := (State.pushEvent sh event (client.stream, {})).1 } _ .up :=
      tracks.tells_event told cleanEvent stays going
    have lost := pushed.loseConnection sh now _ clean
    rw [queuedAfter, ← queuedBy_trans pushes.items appended, ← List.append_assoc]
    cases willReconnect <;> exact lost
  · have kept : client.connectionFailed sh now event reason willReconnect = (false, client, {}) := by
      unfold Client.connectionFailed Client.unlessClosed
      exact if_pos tracks.reported
    rw [kept, queuedAfter_self]
    exact tracks

end Tracks

/-! ### The reconnect loop and the callers that close the client -/

/-- What a section of the reconnect loop does: it is refused, because the close is reported, or moves
the phase to one with `goal`. -/
def Loops (maxAttempts : Nat) (client : Client) (queued : List StreamItem)
    (result : Bool × Client × Outcome) (goal : Phase → Prop) : Prop :=
  (client.stream.closeReported = true ∧ result = (false, client, {})) ∨
    (client.stream.closeReported = false ∧ result.1 = true ∧ ∃ next, goal next ∧
      Tracks maxAttempts result.2.1 (queuedAfter queued client result.2.1) next)

namespace Tracks

variable {maxAttempts : Nat} {client : Client} {queued : List StreamItem} {phase : Phase}
  {goal : Phase → Prop}

/-- A section behind the gate needs to be looked at only where the gate is open. -/
theorem unlessClosed {report : Client → Client × Outcome}
    (tracks : Tracks maxAttempts client queued phase)
    (clean : (client.unlessClosed report).2.2.droppedEvent = none)
    (moves : phase.isFinal = false → (report client).2.droppedEvent = none → ∃ next, goal next ∧
      Tracks maxAttempts (report client).1 (queuedAfter queued client (report client).1) next) :
    Loops maxAttempts client queued (client.unlessClosed report) goal := by
  unfold Client.unlessClosed at clean ⊢
  by_cases closed : client.stream.closeReported = true
  · rw [if_pos closed]
    exact Or.inl ⟨closed, rfl⟩
  · rw [if_neg closed] at clean ⊢
    have open_ : client.stream.closeReported = false := Bool.eq_false_iff.mpr closed
    exact Or.inr ⟨open_, rfl, moves (tracks.reported ▸ open_) clean⟩

theorem emitUnlessClosed (tracks : Tracks maxAttempts client queued phase) {event : ConnectionEvent}
    (telling : StreamItem.lifecycle (.event event) = some event) (going : event.endsReconnect = false)
    (clean : (client.emitUnlessClosed sh event).2.2.droppedEvent = none)
    (moved : phase.isFinal = false → ∃ next, phase.next maxAttempts event = some next ∧ goal next) :
    Loops maxAttempts client queued (client.emitUnlessClosed sh event) goal := by
  refine tracks.unlessClosed clean fun open_ cleanEvent => ?_
  obtain ⟨next, stepped, reached⟩ := moved open_
  have told := State.pushEvent_tells sh telling (client.stream, {})
  exact ⟨next, reached, tracks.tells_event told cleanEvent stepped going⟩

theorem reconnectStep (tracks : Tracks maxAttempts client queued phase) {event : ConnectionEvent}
    (connection : ConnectionState)
    (telling : StreamItem.lifecycle (.event event) = some event) (going : event.endsReconnect = false)
    (clean : (client.reconnectStep sh connection (some event)).2.2.droppedEvent = none)
    (moved : phase.isFinal = false → ∃ next, phase.next maxAttempts event = some next ∧ goal next) :
    Loops maxAttempts client queued (client.reconnectStep sh connection (some event)) goal := by
  refine tracks.unlessClosed clean fun open_ cleanEvent => ?_
  obtain ⟨next, stepped, reached⟩ := moved open_
  have told := State.pushEvent_tells sh telling (client.stream, {})
  exact ⟨next, reached, tracks.tells_event told cleanEvent stepped going⟩

/-- A step that only sets the state. -/
theorem reconnectStep_state (tracks : Tracks maxAttempts client queued phase)
    (connection : ConnectionState) (reached : phase.isFinal = false → goal phase) :
    Loops maxAttempts client queued (client.reconnectStep sh connection none) goal := by
  refine tracks.unlessClosed ?_ fun open_ _ => ⟨phase, reached open_, ?_⟩
  · unfold Client.unlessClosed
    split <;> rfl
  · exact tracks.tells_nil (Tells.refl (client.stream, {})) rfl

theorem startConnection (tracks : Tracks maxAttempts client queued phase) :
    Tracks maxAttempts client.startConnection (queuedAfter queued client client.startConnection)
      phase :=
  tracks.tells (Tells.refl (client.startConnection.stream, {})) rfl rfl rfl rfl tracks.reported
    tracks.unclaimed tracks.claimed

theorem reconnectRejected (tracks : Tracks maxAttempts client queued phase) (message : String)
    (data : Value) (frames : List WebSocketMessage)
    (clean : (client.reconnectRejected sh message data frames).2.2.droppedEvent = none)
    (moved : phase.isFinal = false →
      ∃ attempt, phase = .trying attempt .connected ∧ goal (.refused attempt)) :
    Loops maxAttempts client queued (client.reconnectRejected sh message data frames) goal := by
  refine tracks.unlessClosed clean fun open_ cleanEvent => ?_
  obtain ⟨attempt, rfl, reached⟩ := moved open_
  have told := State.pushRejection_tells sh message data frames (client.stream, {})
  exact ⟨_, reached, tracks.tells_event told cleanEvent rfl rfl⟩

theorem reconnectAuthenticated (tracks : Tracks maxAttempts client queued phase) (now : Nat)
    (data : Value) (frames : List WebSocketMessage)
    (clean : (client.reconnectAuthenticated sh now data frames).2.2.droppedEvent = none)
    (moved : phase.isFinal = false → (∃ attempt, phase = .trying attempt .connected) ∧ goal .up) :
    Loops maxAttempts client queued (client.reconnectAuthenticated sh now data frames) goal := by
  refine tracks.unlessClosed clean fun open_ cleanEvent => ?_
  obtain ⟨⟨attempt, rfl⟩, reached⟩ := moved open_
  have told := State.openConnection_tells sh data frames
    ({ client.stream with reconnectedAt := some now }, {})
  exact ⟨_, reached, tracks.tells told cleanEvent rfl rfl rfl rfl (fun _ => rfl) nofun⟩

/-- Giving up ends the stream. -/
theorem reconnectFailed (tracks : Tracks maxAttempts client queued phase) (code : Option Nat)
    {attempts : Nat} (reason : String) (intent : DisconnectIntent)
    (clean : (client.reconnectFailed sh code attempts reason intent).2.droppedEvent = none)
    (moved : phase.isFinal = false →
      phase.next maxAttempts (.reconnectFailed attempts) = some .gaveUp) :
    ∃ next, next.isFinal = true ∧
      Tracks maxAttempts (client.reconnectFailed sh code attempts reason intent).1
        (queuedAfter queued client (client.reconnectFailed sh code attempts reason intent).1) next := by
  unfold Client.reconnectFailed at clean ⊢
  by_cases closed : client.stream.closeReported = true
  · rw [if_pos closed, queuedAfter_self]
    exact ⟨phase, tracks.reported ▸ closed, tracks⟩
  rw [if_neg closed] at clean ⊢
  have open_ : phase.isFinal = false := tracks.reported ▸ Bool.eq_false_iff.mpr closed
  have told : Tells _ _ [.reconnectFailed attempts] := State.pushEvent_tells sh rfl
    ({ client.stream with closeReported := true }, {})
  have followed : phase.follow maxAttempts [.reconnectFailed attempts] = some .gaveUp := by
    rw [Phase.follow_cons, moved open_]
    rfl
  exact ⟨_, rfl, tracks.tells told clean rfl rfl followed rfl nofun nofun⟩

/-- A closing caller ends the stream, unless it has ended. -/
theorem clientClosed (tracks : Tracks maxAttempts client queued phase) (now code : Nat)
    (reason : String) (clean : (client.clientClosed sh now code reason).2.droppedEvent = none) :
    Tracks maxAttempts (client.clientClosed sh now code reason).1
      (queuedAfter queued client (client.clientClosed sh now code reason).1)
      (if phase.isFinal then phase else .closed) := by
  by_cases closed : client.stream.closeReported = true
  · have stands : (client.clientClosed sh now code reason).1.stream = client.stream := by
      cases shut : client.connection.isClosed <;> simp [Client.clientClosed, closed, shut]
    rw [if_pos (tracks.reported ▸ closed), queuedAfter, stands, queuedBy_self, List.append_nil]
    exact ⟨stands ▸ tracks.alive, tracks.followed, stands ▸ tracks.reported,
      stands ▸ tracks.unclaimed, stands ▸ tracks.claimed⟩
  · have fresh : client.stream.closeReported = false := Bool.eq_false_iff.mpr closed
    have open_ : phase.isFinal = false := tracks.reported ▸ fresh
    unfold Client.clientClosed at clean ⊢
    simp only [fresh, Bool.false_and, Bool.false_eq_true, if_false, Bool.not_false, if_true] at clean ⊢
    have told := State.pushDisconnected_tells sh now
      { code := some code, reason, intent := .client, willReconnect := false } (client.stream, {})
    have followed : phase.follow maxAttempts [.disconnected (some code) reason .client false] =
        some .closed := by
      rw [Phase.follow_cons, Phase.next_close open_]
      rfl
    rw [open_]
    exact tracks.tells told clean rfl rfl followed (Bool.or_true _) nofun fun _ => rfl

end Tracks

end FugleMarketdata
