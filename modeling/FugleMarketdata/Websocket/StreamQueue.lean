/-
**The client's ordered stream.** `core/src/websocket/stream_queue.rs`, with the throttle of
`report_throttle.rs` and the drop counters of `metrics_compat.rs`.

Everything a client reports goes through one queue under one lock. Each function below is one
critical section: it takes what the lock guards, the connection state written under it and the
reconnect-conflict record (`Client`), and returns them with the `Outcome` the section leaves to log
and to wake the consumer with. A section that is refused because the client's close has been
reported returns `false` and changes nothing.

Instants are numbers of nanoseconds and are arguments, so a run chooses its clock readings. What
`serde_json` and the formatter make of a value are fields of `Shared`.
-/

import FugleMarketdata.Websocket.Reconnection

namespace FugleMarketdata

/-! ### Throttled reports and drop counters -/

/-- Minimum spacing between two throttled reports. -/
def REPORT_INTERVAL : Nat := 1000000000

/-- How soon after an automatic reconnect a caller's close, and after that a `connect()`, are warned
about. -/
def RECONNECT_CONFLICT_WINDOW : Nat := 30000000000

/-- Counts occurrences and decides when they are due to be reported. -/
structure ReportThrottle where
  pending : Nat := 0
  lastReport : Option Nat := none
  deriving DecidableEq, Repr

namespace ReportThrottle

/-- Count one occurrence. -/
def count (throttle : ReportThrottle) : ReportThrottle :=
  { throttle with pending := min (throttle.pending + 1) U64_MAX }

/-- The pending count, if anything is pending and a report is due: none made yet, the interval
since the last one, or `force`. The count restarts and a new interval starts at `now`. -/
def takeDue (throttle : ReportThrottle) (now : Nat) (force : Bool) : Option Nat × ReportThrottle :=
  if throttle.pending = 0 then (none, throttle)
  else
    let throttled := throttle.lastReport.any fun last => decide (now - last < REPORT_INTERVAL)
    if throttled && !force then (none, throttle)
    else (some throttle.pending, { pending := 0, lastReport := some now })

/-- Forget the pending count and the last report. -/
def reset (_ : ReportThrottle) : ReportThrottle := {}

end ReportThrottle

/-- `DropCounter::bump` on an `AtomicU64`. -/
def bump (counter : Nat) : Nat := (counter + 1) % 2 ^ 64

/-! ### What the lock guards -/

/-- A caller's close soon after an automatic reconnect, `elapsed` after it and when, and whether the
warning has been given. -/
structure ConflictRecord where
  closed : Option (Nat × Nat) := none
  warned : Bool := false
  deriving DecidableEq, Repr

/-- The state of the queue; wakers and sender counts, which decide nothing about items, are left
out. -/
structure State where
  items : List StreamItem := []
  messages : Nat := 0
  events : Nat := 0
  receiverAlive : Bool := true
  /-- Messages are accepted: the connection has authenticated and is not reported closed. -/
  open_ : Bool := false
  /-- The current connection's `Disconnected` has been reported. -/
  disconnectClaimed : Bool := false
  /-- The client's close has been reported: a final event is queued. -/
  closeReported : Bool := false
  reconnectedAt : Option Nat := none
  dropReports : ReportThrottle := {}
  messagesDropped : Nat := 0
  eventsDropped : Nat := 0

/-- The fixed part: the allowances (`none` is unbounded), and the two renderings taken from outside,
`serde_json::to_string` of a message and `{:.1}` of a duration in seconds. -/
structure Shared where
  messageCapacity : Option Nat
  eventCapacity : Nat
  toJson : WebSocketMessage → String
  seconds : Nat → String

/-- What a push did besides queueing. -/
structure Outcome where
  queued : Bool := false
  droppedEvent : Option ConnectionEvent := none
  report : Option (Nat × Nat) := none

/-- What a critical section works on. -/
structure Client where
  stream : State := {}
  connection : ConnectionState := .disconnected
  conflict : ConflictRecord := {}

/-- A connection's `Disconnected`, before it is queued. -/
structure Disconnect where
  code : Option Nat
  reason : String
  intent : DisconnectIntent
  willReconnect : Bool

namespace Disconnect

/-- The state a consumer handling the event reads. -/
def state (disconnect : Disconnect) : ConnectionState :=
  if disconnect.willReconnect then .disconnected
  else .closed disconnect.code disconnect.reason disconnect.intent

def event (disconnect : Disconnect) : ConnectionEvent :=
  .disconnected disconnect.code disconnect.reason disconnect.intent disconnect.willReconnect

end Disconnect

/-- The frame that decided a handshake: the last one read, as the server sent it. -/
def authFrame (sh : Shared) (frames : List WebSocketMessage) : String :=
  match frames.getLast? with
  | some frame => if frame.raw ≠ "" then frame.raw else sh.toJson frame
  | none => ""

/-- The `Closed` reason when the attempts ran out. -/
def MAX_ATTEMPTS_REASON : String := "Max reconnection attempts reached"

/-- The `Closed` reason when an attempt's credentials were rejected. -/
def rejectedReason (message : String) : String := "Credentials rejected: " ++ message

/-! ### Pushes under the lock -/

namespace State

variable (sh : Shared)

def pushEvent (event : ConnectionEvent) (work : State × Outcome) : State × Outcome :=
  let (state, outcome) := work
  if !state.receiverAlive then (state, outcome)
  else if state.events ≥ sh.eventCapacity then
    ({ state with eventsDropped := bump state.eventsDropped },
      { outcome with droppedEvent := some event })
  else
    ({ state with events := state.events + 1, items := state.items ++ [.event event] },
      { outcome with queued := true })

def pushMessageLocked (message : WebSocketMessage) (work : State × Outcome) : State × Outcome :=
  let (state, outcome) := work
  if !state.receiverAlive then (state, outcome)
  else if sh.messageCapacity.any fun capacity => decide (state.messages ≥ capacity) then
    ({ state with
        dropReports := state.dropReports.count
        messagesDropped := bump state.messagesDropped }, outcome)
  else
    ({ state with messages := state.messages + 1, items := state.items ++ [.message message] },
      { outcome with queued := true })

/-- The frames a handshake read, in order. -/
def pushFrames (frames : List WebSocketMessage) (work : State × Outcome) : State × Outcome :=
  frames.foldl (fun work frame => pushMessageLocked sh frame work) work

/-- A `MessagesDropped` for the unreported drops, if one is due. -/
def pushReport (now : Nat) (force : Bool) (work : State × Outcome) : State × Outcome :=
  let (state, outcome) := work
  match state.dropReports.takeDue now force with
  | (none, _) => (state, outcome)
  | (some dropped, reports) =>
    let total := state.messagesDropped
    pushEvent sh (.messagesDropped dropped total)
      ({ state with dropReports := reports }, { outcome with report := some (dropped, total) })

/-- Claim the connection's `Disconnected` and queue it, unreported drops first. -/
def pushDisconnected (now : Nat) (disconnect : Disconnect) (work : State × Outcome) :
    State × Outcome :=
  let (state, outcome) := work
  pushEvent sh disconnect.event
    (pushReport sh now true
      ({ state with
          disconnectClaimed := true
          closeReported := state.closeReported || !disconnect.willReconnect
          open_ := false }, outcome))

def openConnection (data : Value) (frames : List WebSocketMessage) (work : State × Outcome) :
    State × Outcome :=
  let (state, outcome) := work
  pushFrames sh frames
    (pushEvent sh (.authenticated data (authFrame sh frames))
      ({ state with disconnectClaimed := false, closeReported := false, open_ := true }, outcome))

def pushRejection (message : String) (data : Value) (frames : List WebSocketMessage)
    (work : State × Outcome) : State × Outcome :=
  pushFrames sh frames (pushEvent sh (.unauthenticated message data (authFrame sh frames)) work)

/-- `QueueReceiver::pop`. -/
def pop (state : State) : Option (StreamItem × State) :=
  match state.items with
  | [] => none
  | .message msg :: rest =>
    some (.message msg, { state with items := rest, messages := state.messages - 1 })
  | .event ev :: rest => some (.event ev, { state with items := rest, events := state.events - 1 })

/-- `Drop for QueueReceiver`. -/
def dropReceiver (state : State) : State :=
  { state with receiverAlive := false, messages := 0, events := 0, items := [] }

end State

/-! ### Critical sections -/

namespace Client

variable (sh : Shared)

/-- Run a section on the stream alone. -/
def onStream (work : State × Outcome → State × Outcome) (client : Client) : Client × Outcome :=
  let (stream, outcome) := work (client.stream, {})
  ({ client with stream }, outcome)

/-- Run a section unless the client's close has been reported; `false` if it has. -/
def unlessClosed (client : Client) (report : Client → Client × Outcome) : Bool × Client × Outcome :=
  if client.stream.closeReported then (false, client, {}) else (true, report client)

/-- Queue an event, whatever has been reported. -/
def emit (event : ConnectionEvent) (client : Client) : Client × Outcome :=
  client.onStream (State.pushEvent sh event)

/-- Queue a message of the open connection and a due drop report; outside the connection's window
the message is discarded uncounted. -/
def pushMessage (now : Nat) (message : WebSocketMessage) (client : Client) : Client × Outcome :=
  if !client.stream.open_ then (client, {})
  else client.onStream fun work =>
    State.pushReport sh now false (State.pushMessageLocked sh message work)

/-- Start a connection attempt: the drop count restarts and messages of whatever connection came
before are no longer accepted. -/
def startConnection (client : Client) : Client :=
  { client with
    stream :=
      { client.stream with
        open_ := false
        messagesDropped := 0
        dropReports := client.stream.dropReports.reset } }

/-- A caller's `connect()` is opening a connection: the recorded close is used up, and warned about
when both windows hold and no warning was given. -/
def callerConnecting (now : Nat) (client : Client) : Client × Outcome :=
  match client.conflict.closed with
  | none => (client, {})
  | some (elapsed, closedAt) =>
    let taken := { client.conflict with closed := none }
    if client.conflict.warned ∨ now - closedAt ≥ RECONNECT_CONFLICT_WINDOW then
      ({ client with conflict := taken }, {})
    else
      { client with conflict := { taken with warned := true } }.onStream
        (State.pushEvent sh (.reconnectConflict (sh.seconds elapsed)))

/-- Report the connection authenticated, then the frames the handshake read, and start accepting its
messages. -/
def authenticated (data : Value) (frames : List WebSocketMessage) (client : Client) :
    Client × Outcome :=
  { client with stream := { client.stream with reconnectedAt := none } }.onStream
    (State.openConnection sh data frames)

/-- Report the credentials rejected, then the frames the handshake read. -/
def unauthenticated (message : String) (data : Value) (frames : List WebSocketMessage)
    (client : Client) : Client × Outcome :=
  client.onStream (State.pushRejection sh message data frames)

/-- A step of the reconnect loop: set the state and queue the event, unless the close has been
reported. -/
def reconnectStep (next : ConnectionState) (event : Option ConnectionEvent) (client : Client) :
    Bool × Client × Outcome :=
  client.unlessClosed fun client =>
    { client with connection := next }.onStream fun work =>
      match event with
      | some event => State.pushEvent sh event work
      | none => work

/-- Queue an event unless the client's close has been reported. -/
def emitUnlessClosed (event : ConnectionEvent) (client : Client) : Bool × Client × Outcome :=
  client.unlessClosed fun client => client.onStream (State.pushEvent sh event)

/-- `authenticated` for the reconnect loop, the state `Connected` first. -/
def reconnectAuthenticated (now : Nat) (data : Value) (frames : List WebSocketMessage)
    (client : Client) : Bool × Client × Outcome :=
  client.unlessClosed fun client =>
    { client with
      connection := .connected
      stream := { client.stream with reconnectedAt := some now } }.onStream
        (State.openConnection sh data frames)

/-- `unauthenticated` for the reconnect loop. -/
def reconnectRejected (message : String) (data : Value) (frames : List WebSocketMessage)
    (client : Client) : Bool × Client × Outcome :=
  client.unlessClosed fun client => client.onStream (State.pushRejection sh message data frames)

/-- Claim the connection's `Disconnected`, set the state to what it reports and queue it, unless it
is claimed already. -/
def loseConnection (now : Nat) (disconnect : Disconnect) (client : Client)
    (work : State × Outcome) : Client × Outcome :=
  if work.1.disconnectClaimed then ({ client with stream := work.1 }, work.2)
  else
    let (stream, outcome) := State.pushDisconnected sh now disconnect work
    ({ client with stream, connection := disconnect.state }, outcome)

/-- The `Disconnected` of a connection lost without the caller asking. -/
def connectionLost (now : Nat) (code : Option Nat) (reason : String) (intent : DisconnectIntent)
    (willReconnect : Bool) (client : Client) : Client × Outcome :=
  loseConnection sh now { code, reason, intent, willReconnect } client (client.stream, {})

/-- `connectionLost` for a connection that failed: its `Error` or `HeartbeatTimeout` first, under
the same lock, unless the client's close has been reported. -/
def connectionFailed (now : Nat) (event : ConnectionEvent) (reason : String) (willReconnect : Bool)
    (client : Client) : Bool × Client × Outcome :=
  client.unlessClosed fun client =>
    loseConnection sh now { code := none, reason, intent := .network, willReconnect } client
      (State.pushEvent sh event (client.stream, {}))

/-- Close the client on the caller's request. A close reported already stands, with the `Closed`
state it recorded; closing an open connection an automatic reconnect restored not long ago is
recorded for the conflict warning. -/
def clientClosed (now : Nat) (code : Nat) (reason : String) (client : Client) : Client × Outcome :=
  let keep := client.stream.closeReported && client.connection.isClosed
  let client := if keep then client
    else { client with connection := .closed (some code) reason .client }
  if !client.stream.closeReported then
    let elapsed := client.stream.reconnectedAt.map fun at_ => now - at_
    let conflict := elapsed.filter fun elapsed =>
      client.stream.open_ && decide (elapsed < RECONNECT_CONFLICT_WINDOW)
    { client with
      conflict := { client.conflict with closed := conflict.map fun elapsed => (elapsed, now) } }.onStream
        (State.pushDisconnected sh now
          { code := some code, reason, intent := .client, willReconnect := false })
  else (client, {})

/-- The reconnect loop gives up: the state `Closed`, then `ReconnectFailed`, unless the close has
been reported. -/
def reconnectFailed (code : Option Nat) (attempts : Nat) (reason : String)
    (intent : DisconnectIntent) (client : Client) : Client × Outcome :=
  if client.stream.closeReported then (client, {})
  else
    { client with
      connection := .closed code reason intent
      stream := { client.stream with closeReported := true } }.onStream
        (State.pushEvent sh (.reconnectFailed attempts))

end Client

/-! ### What the pushes add -/

/-- `result` is `work` with the items `new` at the end of the queue: what has been reported and what
is accepted stays, and an event dropped before is still on record. -/
structure Pushes (work result : State × Outcome) (new : List StreamItem) : Prop where
  items : result.1.items = work.1.items ++ new
  opened : result.1.open_ = work.1.open_
  claimed : result.1.disconnectClaimed = work.1.disconnectClaimed
  reported : result.1.closeReported = work.1.closeReported
  alive : result.1.receiverAlive = work.1.receiverAlive
  dropped : result.2.droppedEvent = none → work.2.droppedEvent = none

/-- Items that do not report how a connection ended. -/
def Quiet (new : List StreamItem) : Prop := ∀ item ∈ new, item.reportsEnd = false

theorem quiet_nil : Quiet [] := fun _ member => by cases member

theorem quiet_append {first second : List StreamItem} (left : Quiet first) (right : Quiet second) :
    Quiet (first ++ second) := by
  intro item member
  rcases List.mem_append.mp member with member | member
  · exact left item member
  · exact right item member

/-- Items that say nothing about the connection report no end. -/
theorem quiet_of_lifecycle {new : List StreamItem} (silent : lifecycle new = []) : Quiet new := by
  intro item member
  have silentItem : item.lifecycle = none := List.filterMap_eq_nil_iff.mp silent item member
  cases item with
  | message msg => rfl
  | event ev =>
    cases ev with
    | messagesDropped dropped total => rfl
    | _ => cases silentItem

theorem Quiet.not_isFinal {new : List StreamItem} (quiet : Quiet new) {item : StreamItem}
    (member : item ∈ new) : item.isFinal = false := by
  have silent := quiet item member
  cases item with
  | message msg => rfl
  | event ev =>
    rw [← Bool.not_eq_true]
    intro final
    have reports : ev.reportsEnd = true := ConnectionEvent.reportsEnd_of_isFinal final
    exact absurd reports (Bool.not_eq_true _ ▸ silent)

namespace Pushes

theorem refl (work : State × Outcome) : Pushes work work [] where
  items := (List.append_nil _).symm
  opened := rfl
  claimed := rfl
  reported := rfl
  alive := rfl
  dropped := id

theorem trans {work middle result : State × Outcome} {first second : List StreamItem}
    (left : Pushes work middle first) (right : Pushes middle result second) :
    Pushes work result (first ++ second) where
  items := by rw [right.items, left.items, List.append_assoc]
  opened := right.opened.trans left.opened
  claimed := right.claimed.trans left.claimed
  reported := right.reported.trans left.reported
  alive := right.alive.trans left.alive
  dropped := fun none => left.dropped (right.dropped none)

end Pushes

namespace State

variable (sh : Shared)

/-- An event is queued or nothing is, and where nothing is the receiver is gone or the event is on
record as dropped. -/
theorem pushEvent_pushes (event : ConnectionEvent) (work : State × Outcome) :
    ∃ new, Pushes work (pushEvent sh event work) new ∧ (new = [] ∨ new = [.event event]) ∧
      ((pushEvent sh event work).2.droppedEvent = none → work.1.receiverAlive = true →
        new = [.event event]) := by
  obtain ⟨state, outcome⟩ := work
  by_cases gone : (!state.receiverAlive) = true
  · have kept : pushEvent sh event (state, outcome) = (state, outcome) := if_pos gone
    rw [kept]
    refine ⟨[], Pushes.refl _, Or.inl rfl, fun _ alive => ?_⟩
    rw [alive] at gone
    cases gone
  by_cases full : state.events ≥ sh.eventCapacity
  · have refused : pushEvent sh event (state, outcome) =
        ({ state with eventsDropped := bump state.eventsDropped },
          { outcome with droppedEvent := some event }) := by
      simp only [pushEvent, if_neg gone, if_pos full]
    rw [refused]
    refine ⟨[], ⟨(List.append_nil _).symm, rfl, rfl, rfl, rfl, fun none => ?_⟩, Or.inl rfl,
      fun none => ?_⟩ <;> cases none
  · have queued : pushEvent sh event (state, outcome) =
        ({ state with events := state.events + 1, items := state.items ++ [.event event] },
          { outcome with queued := true }) := by
      simp only [pushEvent, if_neg gone, if_neg full]
    rw [queued]
    exact ⟨[.event event], ⟨rfl, rfl, rfl, rfl, rfl, id⟩, Or.inr rfl, fun _ _ => rfl⟩

/-- An event that does not report an end is pushed quietly. -/
theorem pushEvent_quiet (event : ConnectionEvent) (silent : event.reportsEnd = false)
    (work : State × Outcome) : ∃ new, Pushes work (pushEvent sh event work) new ∧ Quiet new := by
  obtain ⟨new, pushes, either, -⟩ := pushEvent_pushes sh event work
  refine ⟨new, pushes, ?_⟩
  rcases either with rfl | rfl
  · exact quiet_nil
  · intro item member
    rw [List.mem_singleton.mp member]
    exact silent

/-- A message is pushed or dropped, and neither says anything about the connection. -/
theorem pushMessageLocked_pushes (message : WebSocketMessage) (work : State × Outcome) :
    ∃ new, Pushes work (pushMessageLocked sh message work) new ∧ lifecycle new = [] := by
  obtain ⟨state, outcome⟩ := work
  simp only [pushMessageLocked]
  split
  · exact ⟨[], Pushes.refl _, rfl⟩
  split
  · exact ⟨[], ⟨(List.append_nil _).symm, rfl, rfl, rfl, rfl, id⟩, rfl⟩
  · exact ⟨[.message message], ⟨rfl, rfl, rfl, rfl, rfl, id⟩, rfl⟩

theorem pushFrames_pushes (frames : List WebSocketMessage) (work : State × Outcome) :
    ∃ new, Pushes work (pushFrames sh frames work) new ∧ lifecycle new = [] := by
  induction frames generalizing work with
  | nil => exact ⟨[], Pushes.refl work, rfl⟩
  | cons frame rest ih =>
    obtain ⟨first, pushes, silent⟩ := pushMessageLocked_pushes sh frame work
    obtain ⟨second, pushesRest, silentRest⟩ := ih (pushMessageLocked sh frame work)
    refine ⟨first ++ second, pushes.trans pushesRest, ?_⟩
    rw [lifecycle_append, silent, silentRest]
    rfl

theorem pushReport_pushes (now : Nat) (force : Bool) (work : State × Outcome) :
    ∃ new, Pushes work (pushReport sh now force work) new ∧ lifecycle new = [] := by
  obtain ⟨state, outcome⟩ := work
  simp only [pushReport]
  split
  · exact ⟨[], Pushes.refl _, rfl⟩
  · rename_i dropped reports _
    obtain ⟨new, pushes, either, -⟩ := pushEvent_pushes sh
      (.messagesDropped dropped state.messagesDropped)
      ({ state with dropReports := reports },
        { outcome with report := some (dropped, state.messagesDropped) })
    refine ⟨new, ⟨pushes.items, pushes.opened, pushes.claimed, pushes.reported, pushes.alive,
      pushes.dropped⟩, ?_⟩
    rcases either with rfl | rfl <;> rfl

theorem pushRejection_quiet (message : String) (data : Value) (frames : List WebSocketMessage)
    (work : State × Outcome) :
    ∃ new, Pushes work (pushRejection sh message data frames work) new ∧ Quiet new := by
  obtain ⟨first, pushes, quiet⟩ := pushEvent_quiet sh
    (.unauthenticated message data (authFrame sh frames)) rfl work
  obtain ⟨second, pushesFrames, silent⟩ := pushFrames_pushes sh frames _
  exact ⟨first ++ second, pushes.trans pushesFrames,
    quiet_append quiet (quiet_of_lifecycle silent)⟩

/-- Opening a connection clears both flags and queues nothing that reports an end. -/
theorem openConnection_quiet (data : Value) (frames : List WebSocketMessage)
    (work : State × Outcome) : ∃ new,
    Pushes ({ work.1 with disconnectClaimed := false, closeReported := false, open_ := true },
      work.2) (openConnection sh data frames work) new ∧ Quiet new := by
  obtain ⟨first, pushes, quiet⟩ := pushEvent_quiet sh
    (.authenticated data (authFrame sh frames)) rfl
    ({ work.1 with disconnectClaimed := false, closeReported := false, open_ := true }, work.2)
  obtain ⟨second, pushesFrames, silent⟩ := pushFrames_pushes sh frames _
  exact ⟨first ++ second, pushes.trans pushesFrames,
    quiet_append quiet (quiet_of_lifecycle silent)⟩

/-- Claiming the `Disconnected` sets the flags, then queues quiet items and the event last. -/
theorem pushDisconnected_pushes (now : Nat) (disconnect : Disconnect) (work : State × Outcome) :
    ∃ reports last, Pushes ({ work.1 with
          disconnectClaimed := true
          closeReported := work.1.closeReported || !disconnect.willReconnect
          open_ := false }, work.2)
        (pushDisconnected sh now disconnect work) (reports ++ last) ∧
      lifecycle reports = [] ∧ (last = [] ∨ last = [.event disconnect.event]) ∧
      ((pushDisconnected sh now disconnect work).2.droppedEvent = none →
        work.1.receiverAlive = true → last = [.event disconnect.event]) := by
  obtain ⟨reports, pushes, silent⟩ := pushReport_pushes sh now true
    ({ work.1 with
        disconnectClaimed := true
        closeReported := work.1.closeReported || !disconnect.willReconnect
        open_ := false }, work.2)
  obtain ⟨last, pushesLast, either, delivered⟩ := pushEvent_pushes sh disconnect.event
    (pushReport sh now true _)
  refine ⟨reports, last, pushes.trans pushesLast, silent, either, fun none alive => ?_⟩
  exact delivered none (pushes.alive.trans alive)

end State

end FugleMarketdata
