/-
**What the two clients make of a connection's frames.** The frame arms of `owner_loop` in
`sync/owner_thread.rs` and of `dispatch_messages` in `aio/dispatch.rs`, each as its source has them, on an
authenticated connection that no caller stops, that does not fall silent and whose writes succeed.

* `SyncRead.onFrame`, `AioRead.onFrame` — one frame: the state after it, and the close the loop returns
  if it ends there, with the `will_reconnect` it reported;
* `SyncRead.onRead`, `AioRead.onRead` — the same for an `Io` error of the kinds a read that timed out has,
  which the sync loop takes for its own read timeout;
* `reads_agree` — over every sequence of frames both leave the same state and return the same, the
  wording of errors and reasons aside; the sync loop passes over those errors.
-/

import FugleMarketdata.Websocket.Latency
import FugleMarketdata.Websocket.Login
import FugleMarketdata.Websocket.Protocol

namespace FugleMarketdata

/-- The fixed part: the queue's, what is taken from outside, and the reconnect policy. -/
structure Reading where
  sh : Shared
  wire : Wire
  reconnection : ReconnectionManager

/-- What the loop works on; `cancels` are the unsubscribe frames it handed to the writer, for
subscriptions unsubscribed before their ack arrived. -/
structure ReadState where
  client : Client
  subscriptions : SubscriptionManager
  latency : LatencyWaiters
  lastErrorCode : Option Int := none
  cancels : List WebSocketRequest := []

/-- The clock readings of a frame: its arrival, and the push of what it leads to. -/
structure ReadClock where
  arrived : Nat
  pushed : Nat

/-- The end of a loop: the close it returns and the `will_reconnect` it reported. -/
structure ReadEnd where
  close : ConnectionClose
  willReconnect : Bool
  deriving DecidableEq, Repr

/-- The kinds of `io::Error` that a read with a timeout fails with when it runs out: which of them depends
on the platform. The kernel gives them for reasons of its own too, such as `ETIMEDOUT`. -/
inductive TimeoutKind where
  | wouldBlock | timedOut
  deriving DecidableEq, Repr

/-- What a read returns: a frame, the end of the stream or an error, among them an `Io` error of such a
kind that no read timeout of the client's caused. -/
inductive ReadResult where
  | inbound (inbound : Inbound)
  | timeout (kind : TimeoutKind) (text : String)

/-- The close the loop returns when no Close frame carried a code. -/
def noCode (lastErrorCode : Option Int) : ConnectionClose := { code := none, lastErrorCode }

namespace SyncRead

variable (reading : Reading)

/-- The `will_reconnect` for a close observed by the owner thread. -/
def willReconnect (intent : DisconnectIntent) (close : ConnectionClose) : Bool :=
  willReconnectAfter reading.reconnection intent close false

/-- Queue the unsubscribe frame for `cancels`. -/
def queueCancels (state : ReadState) (cancels : List String) : ReadState :=
  if cancels.isEmpty then state
  else { state with cancels := state.cancels ++ [frameUnsubscribe cancels] }

/-- The arms of a data frame, parsed. -/
def onParsed (binary : Bool) (clock : ReadClock) (parsed : Except ErrorInfo WebSocketMessage)
    (state : ReadState) : ReadState :=
  match parsed with
  | .ok msg =>
    let (intercepted, latency) := state.latency.interceptPong msg clock.arrived
    if intercepted then { state with latency }
    else
      let state := match msg.errorCode with
        | some code => { state with latency, lastErrorCode := some code }
        | none => { state with latency }
      let (cancels, subscriptions) := handleSubscribedEvent state.subscriptions msg
      let state := queueCancels { state with subscriptions } cancels
      { state with client := (state.client.pushMessage reading.sh clock.pushed msg).1 }
  | .error info =>
    { state with client := (state.client.emitUnlessClosed reading.sh (unparsed binary info)).2.1 }

/-- One result of `ws.read()`. -/
def onFrame (clock : ReadClock) (state : ReadState) : Inbound → ReadState × Option ReadEnd
  | .text text => (onParsed reading false clock (reading.wire.parseTextFrame text) state, none)
  | .binary data => (onParsed reading true clock (reading.wire.parseBinaryFrame data) state, none)
  | .ping _ => (state, none)
  | .pong _ => (state, none)
  | .close frame =>
    let code := frame.map CloseFrame.code
    let close : ConnectionClose := { code, lastErrorCode := state.lastErrorCode }
    match peerCloseDisconnect code (frame.map CloseFrame.reason) false with
    | some (code, reason, intent) =>
      let will := willReconnect reading intent close
      ({ state with
          client := (state.client.connectionLost reading.sh clock.pushed code reason intent will).1 },
        some { close, willReconnect := will })
    | none => (state, some { close, willReconnect := false })
  | .ended =>
    let close := noCode state.lastErrorCode
    let will := willReconnect reading .network close
    ({ state with
        client := (state.client.connectionLost reading.sh clock.pushed none "Connection closed"
          .network will).1 },
      some { close, willReconnect := will })
  | .transportError error =>
    let close := noCode state.lastErrorCode
    let message := "WebSocket read error: " ++ error.text
    let will := willReconnect reading .network close
    ({ state with
        client := (state.client.connectionFailed reading.sh clock.pushed
          (.error { (LoginError.ofTransport error).info with message }) message will).2.1 },
      some { close, willReconnect := will })

/-- One result of `ws.read()`, any `Io` error: those of the kinds of a timeout count as the end of a
polling interval. -/
def onRead (clock : ReadClock) (state : ReadState) : ReadResult → ReadState × Option ReadEnd
  | .timeout _ _ => (state, none)
  | .inbound inbound => onFrame reading clock state inbound

/-- The loop over what `ws.read()` returns; leaving it fails the waiters. -/
def ownerLoop (state : ReadState) : List (ReadClock × ReadResult) → ReadState × Option ReadEnd
  | [] => (state, none)
  | (clock, result) :: rest =>
    match onRead reading clock state result with
    | (state, none) => ownerLoop state rest
    | (state, some ended) => ({ state with latency := state.latency.failAll }, some ended)

end SyncRead

namespace AioRead

variable (reading : Reading)

def willReconnect (intent : DisconnectIntent) (close : ConnectionClose) : Bool :=
  willReconnectAfter reading.reconnection intent close false

/-- Queue the unsubscribe frame for `cancels`; the connection has its writer. -/
def sendCancels (state : ReadState) (cancels : List String) : ReadState :=
  if cancels.isEmpty then state
  else { state with cancels := state.cancels ++ [frameUnsubscribe cancels] }

/-- The arms of a data frame, parsed. -/
def onParsed (binary : Bool) (clock : ReadClock) (parsed : Except ErrorInfo WebSocketMessage)
    (state : ReadState) : ReadState :=
  match parsed with
  | .ok msg =>
    let (intercepted, latency) := state.latency.interceptPong msg clock.arrived
    let state := { state with latency }
    if intercepted then state
    else
      let lastErrorCode := msg.errorCode.or state.lastErrorCode
      let (cancels, subscriptions) := handleSubscribedEvent state.subscriptions msg
      let state := sendCancels { state with lastErrorCode, subscriptions } cancels
      { state with client := (state.client.pushMessage reading.sh clock.pushed msg).1 }
  | .error info =>
    { state with client := (state.client.emitUnlessClosed reading.sh (unparsed binary info)).2.1 }

/-- One item of the read half: its end, a frame, or an error. -/
def onFrame (clock : ReadClock) (state : ReadState) : Inbound → ReadState × Option ReadEnd
  | .ended =>
    let will := willReconnect reading .network (noCode state.lastErrorCode)
    ({ state with
        client := (state.client.connectionLost reading.sh clock.pushed none "Connection closed"
          .network will).1 },
      some { close := noCode state.lastErrorCode, willReconnect := will })
  | .text text => (onParsed reading false clock (reading.wire.parseTextFrame text) state, none)
  | .binary data => (onParsed reading true clock (reading.wire.parseBinaryFrame data) state, none)
  | .pong _ => (state, none)
  | .close frame =>
    let code := frame.map CloseFrame.code
    let close : ConnectionClose := { code, lastErrorCode := state.lastErrorCode }
    match peerCloseDisconnect code (frame.map CloseFrame.reason) false with
    | some (code, reason, intent) =>
      let will := willReconnect reading intent close
      ({ state with
          client := (state.client.connectionLost reading.sh clock.pushed code reason intent will).1 },
        some { close, willReconnect := will })
    | none => (state, some { close, willReconnect := false })
  | .ping _ => (state, none)
  | .transportError error =>
    let errMsg := "WebSocket error: " ++ error.text
    let will := willReconnect reading .network (noCode state.lastErrorCode)
    ({ state with
        client := (state.client.connectionFailed reading.sh clock.pushed
          (.error { (LoginError.ofTransport error).info with message := errMsg }) errMsg will).2.1 },
      some { close := noCode state.lastErrorCode, willReconnect := will })

/-- One item of the read half, any `Io` error: all errors have one arm. -/
def onRead (clock : ReadClock) (state : ReadState) : ReadResult → ReadState × Option ReadEnd
  | .inbound inbound => onFrame reading clock state inbound
  | .timeout _ text => onFrame reading clock state (.transportError { kind := .io, text })

/-- The loop over what the read half yields; leaving it fails the waiters. -/
def dispatchMessages (state : ReadState) : List (ReadClock × ReadResult) → ReadState × Option ReadEnd
  | [] => (state, none)
  | (clock, result) :: rest =>
    match onRead reading clock state result with
    | (state, none) => dispatchMessages state rest
    | (state, some ended) => ({ state with latency := state.latency.failAll }, some ended)

end AioRead

/-! ### The ends -/

/-- What ends a connection, as its program sees it (`LoopAt.reading`). -/
def Inbound.ending : Inbound → Option Ending
  | close frame => some (.peerClose (frame.map CloseFrame.code) (frame.map CloseFrame.reason))
  | ended => some .eof
  | transportError error => some (.readFailed (LoginError.ofTransport error).info error.text)
  | _ => none

/-! ### The wording aside -/

/-- An event without the wording of its error or reason. -/
def ConnectionEvent.unworded : ConnectionEvent → ConnectionEvent
  | error info => error { info with message := "" }
  | disconnected code _ intent willReconnect => disconnected code "" intent willReconnect
  | event => event

def StreamItem.unworded : StreamItem → StreamItem
  | message msg => .message msg
  | event ev => .event ev.unworded

def ConnectionState.unworded : ConnectionState → ConnectionState
  | closed code _ intent => closed code "" intent
  | state => state

def State.unworded (state : State) : State :=
  { state with items := state.items.map StreamItem.unworded }

/-- The client without the wording of what it queued and of its closed state. -/
def Client.unworded (client : Client) : Client :=
  { client with stream := client.stream.unworded, connection := client.connection.unworded }

def ReadState.unworded (state : ReadState) : ReadState := { state with client := state.client.unworded }

namespace State

variable (sh : Shared)

/-- What is queued decides nothing, and the wording of an event nothing else. -/
theorem pushEvent_unworded (event : ConnectionEvent) {work other : State × Outcome}
    (same : other.1 = work.1.unworded) :
    (pushEvent sh event work).1.unworded = (pushEvent sh event.unworded other).1 := by
  obtain ⟨state, outcome⟩ := work
  obtain ⟨_, outcomeOther⟩ := other
  obtain rfl := same
  have alive : state.unworded.receiverAlive = state.receiverAlive := rfl
  have events : state.unworded.events = state.events := rfl
  simp only [pushEvent, alive, events]
  by_cases gone : (!state.receiverAlive) = true
  · rw [if_pos gone, if_pos gone]
  rw [if_neg gone, if_neg gone]
  by_cases full : state.events ≥ sh.eventCapacity
  · rw [if_pos full, if_pos full]
    rfl
  · rw [if_neg full, if_neg full]
    simp [unworded, StreamItem.unworded]

theorem pushReport_unworded (now : Nat) (force : Bool) {work other : State × Outcome}
    (same : other.1 = work.1.unworded) :
    (pushReport sh now force work).1.unworded = (pushReport sh now force other).1 := by
  obtain ⟨state, outcome⟩ := work
  obtain ⟨_, outcomeOther⟩ := other
  obtain rfl := same
  have reports : state.unworded.dropReports = state.dropReports := rfl
  simp only [pushReport, reports]
  rcases state.dropReports.takeDue now force with ⟨_ | dropped, reports⟩
  · rfl
  · exact pushEvent_unworded sh _ rfl

theorem pushDisconnected_unworded (now : Nat) (disconnect : Disconnect) {work other : State × Outcome}
    (same : other.1 = work.1.unworded) :
    (pushDisconnected sh now disconnect work).1.unworded =
      (pushDisconnected sh now { disconnect with reason := "" } other).1 := by
  obtain ⟨state, outcome⟩ := work
  obtain ⟨_, outcomeOther⟩ := other
  obtain rfl := same
  let claimed (stream : State) : State :=
    { stream with
      disconnectClaimed := true
      closeReported := stream.closeReported || !disconnect.willReconnect
      open_ := false }
  have reported : (pushReport sh now true (claimed state, outcome)).1.unworded =
      (pushReport sh now true (claimed state.unworded, outcomeOther)).1 :=
    pushReport_unworded sh now true rfl
  exact pushEvent_unworded sh disconnect.event reported.symm

end State

namespace Client

variable (sh : Shared)

theorem loseConnection_unworded (now : Nat) (disconnect : Disconnect) (client : Client)
    {work other : State × Outcome} (same : other.1 = work.1.unworded) :
    (loseConnection sh now disconnect client work).1.unworded =
      (loseConnection sh now { disconnect with reason := "" } client.unworded other).1 := by
  have claimed : other.1.disconnectClaimed = work.1.disconnectClaimed := by
    rw [same]
    rfl
  simp only [loseConnection, claimed]
  by_cases free : work.1.disconnectClaimed = true
  · rw [if_pos free, if_pos free]
    simp [unworded, same]
  · rw [if_neg free, if_neg free]
    have pushed := State.pushDisconnected_unworded sh now disconnect same
    have state : disconnect.state.unworded = { disconnect with reason := "" : Disconnect }.state := by
      simp only [Disconnect.state]
      split <;> rfl
    simp [unworded, pushed, state]

/-- A failed connection is reported alike, whatever the wording. -/
theorem connectionFailed_unworded (now : Nat) (event : ConnectionEvent) (reason : String)
    (willReconnect : Bool) (client : Client) :
    (client.connectionFailed sh now event reason willReconnect).2.1.unworded =
      (client.unworded.connectionFailed sh now event.unworded "" willReconnect).2.1 := by
  have reported : client.unworded.stream.closeReported = client.stream.closeReported := rfl
  simp only [connectionFailed, unlessClosed, reported]
  by_cases closed : client.stream.closeReported = true
  · rw [if_pos closed, if_pos closed]
  · rw [if_neg closed, if_neg closed]
    exact loseConnection_unworded sh now { code := none, reason, intent := .network, willReconnect }
      client (State.pushEvent_unworded sh event rfl).symm

end Client

/-! ### One frame -/

variable (reading : Reading)

theorem readParsed_agree (binary : Bool) (clock : ReadClock)
    (parsed : Except ErrorInfo WebSocketMessage) (state : ReadState) :
    SyncRead.onParsed reading binary clock parsed state =
      AioRead.onParsed reading binary clock parsed state := by
  cases parsed with
  | error info => rfl
  | ok msg =>
    simp only [SyncRead.onParsed, AioRead.onParsed]
    rcases state.latency.interceptPong msg clock.arrived with ⟨_ | _, latency⟩
    · cases code : msg.errorCode <;> rfl
    · rfl

/-- While the loops go on they go on alike; where they end, the wording may differ. -/
theorem readFrame_agree (clock : ReadClock) (state : ReadState) (inbound : Inbound) :
    (SyncRead.onFrame reading clock state inbound).2 = (AioRead.onFrame reading clock state inbound).2 ∧
      ((SyncRead.onFrame reading clock state inbound).2 = none →
        (SyncRead.onFrame reading clock state inbound).1 =
          (AioRead.onFrame reading clock state inbound).1) ∧
      (SyncRead.onFrame reading clock state inbound).1.unworded =
        (AioRead.onFrame reading clock state inbound).1.unworded := by
  -- An arm that both loops have alike.
  have equal (same : SyncRead.onFrame reading clock state inbound =
      AioRead.onFrame reading clock state inbound) :
      (SyncRead.onFrame reading clock state inbound).2 =
          (AioRead.onFrame reading clock state inbound).2 ∧
        ((SyncRead.onFrame reading clock state inbound).2 = none →
          (SyncRead.onFrame reading clock state inbound).1 =
            (AioRead.onFrame reading clock state inbound).1) ∧
        (SyncRead.onFrame reading clock state inbound).1.unworded =
          (AioRead.onFrame reading clock state inbound).1.unworded := by
    rw [same]
    exact ⟨rfl, fun _ => rfl, rfl⟩
  cases inbound with
  | text text =>
    exact equal (congrArg (fun after => (after, none)) (readParsed_agree reading false clock _ state))
  | binary data =>
    exact equal (congrArg (fun after => (after, none)) (readParsed_agree reading true clock _ state))
  | ping payload => exact equal rfl
  | pong payload => exact equal rfl
  | close frame => exact equal rfl
  | ended => exact equal rfl
  | transportError error =>
    refine ⟨rfl, fun goesOn => ?_, ?_⟩
    · exact absurd goesOn (Option.some_ne_none _)
    · simp only [ReadState.unworded, SyncRead.onFrame, AioRead.onFrame,
        Client.connectionFailed_unworded]
      rfl

/-! ### The loops -/

/-- A frame, the end of the stream, or an error of another kind than a timeout's. -/
def ReadResult.isInbound : ReadResult → Bool
  | inbound _ => true
  | timeout _ _ => false

/-- The loops end alike: in the same state and with the same return, the wording aside. -/
def ReadsAlike (sync aio : ReadState × Option ReadEnd) : Prop :=
  sync.1.unworded = aio.1.unworded ∧ sync.2 = aio.2

/-- The sync loop passes over the errors it takes for its read timeout. -/
theorem ownerLoop_filter (state : ReadState) (input : List (ReadClock × ReadResult)) :
    SyncRead.ownerLoop reading state input =
      SyncRead.ownerLoop reading state (input.filter fun entry => entry.2.isInbound) := by
  induction input generalizing state with
  | nil => rfl
  | cons entry rest ih =>
    obtain ⟨clock, result⟩ := entry
    cases result with
    | timeout kind text =>
      rw [List.filter_cons_of_neg (by exact Bool.false_ne_true)]
      exact ih state
    | inbound inbound =>
      rw [List.filter_cons_of_pos (by rfl)]
      unfold SyncRead.ownerLoop
      rcases SyncRead.onRead reading clock state (.inbound inbound) with ⟨after, _ | ended⟩
      · exact ih after
      · rfl

/-- Both loops read a sequence without such errors alike. -/
theorem inbounds_agree (state : ReadState) (input : List (ReadClock × Inbound)) :
    ReadsAlike
      (SyncRead.ownerLoop reading state (input.map fun entry => (entry.1, .inbound entry.2)))
      (AioRead.dispatchMessages reading state (input.map fun entry => (entry.1, .inbound entry.2))) := by
  induction input generalizing state with
  | nil => exact ⟨rfl, rfl⟩
  | cons entry rest ih =>
    obtain ⟨clock, inbound⟩ := entry
    obtain ⟨ends, goesOn, alike⟩ := readFrame_agree reading clock state inbound
    simp only [List.map_cons, SyncRead.ownerLoop, AioRead.dispatchMessages, SyncRead.onRead, AioRead.onRead]
    rcases sync : SyncRead.onFrame reading clock state inbound with ⟨after, _ | ended⟩ <;>
      rcases aio : AioRead.onFrame reading clock state inbound with ⟨afterAio, _ | endedAio⟩ <;>
      rw [sync, aio] at ends goesOn alike
    · obtain rfl : after = afterAio := goesOn rfl
      exact ih after
    · cases ends
    · cases ends
    · refine ⟨?_, ends⟩
      simp only [ReadState.unworded, ReadState.mk.injEq] at alike ⊢
      exact ⟨alike.1, alike.2.1, congrArg LatencyWaiters.failAll alike.2.2.1, alike.2.2.2⟩

/-- **Both clients deliver the same stream.** From the same queue, subscriptions, latency calls and policy,
every sequence of frames leaves both loops with the same queue, subscriptions, latency calls and
unsubscribe frames, and both return the same close, with the same `will_reconnect`, or neither; the
wording of errors and reasons aside. An `Io` error of the kinds of a timeout the sync loop takes for its
own read timeout: with such errors among them, it does what it does without them. -/
theorem reads_agree (state : ReadState) :
    (∀ input : List (ReadClock × Inbound), ReadsAlike
      (SyncRead.ownerLoop reading state (input.map fun entry => (entry.1, .inbound entry.2)))
      (AioRead.dispatchMessages reading state (input.map fun entry => (entry.1, .inbound entry.2)))) ∧
    ∀ input : List (ReadClock × ReadResult), SyncRead.ownerLoop reading state input =
      SyncRead.ownerLoop reading state (input.filter fun entry => entry.2.isInbound) :=
  ⟨inbounds_agree reading state, ownerLoop_filter reading state⟩

/-- A client with nothing queued, connected. -/
def ReadState.connected : ReadState where
  client := (({} : Client).authenticated smallStream .null []).1
  subscriptions := {}
  latency := {}

/-- A reading with a queue of a few events, of frames that are only their event. -/
def eventReading : Reading where
  sh := smallStream
  wire := eventWire
  reconnection := .new .default

/-- **The sync loop reads on after `ETIMEDOUT`**, where the async loop reports the error and ends. -/
theorem timedOut_passedOver : ¬ ∀ (reading : Reading) (state : ReadState)
    (input : List (ReadClock × ReadResult)),
    ReadsAlike (SyncRead.ownerLoop reading state input) (AioRead.dispatchMessages reading state input) := by
  intro alike
  obtain ⟨-, ends⟩ := alike eventReading .connected
    [({ arrived := 0, pushed := 0 }, .timeout .timedOut "IO error: Connection timed out (os error 110)")]
  cases ends

end FugleMarketdata
