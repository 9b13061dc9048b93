/-
**A connection's task and its reconnect loop.** What `owner_loop` and `run_supervisor` of
`core/src/websocket/sync/owner_thread.rs` share with `dispatch_messages`, `try_reconnect` and
`try_connect` of `core/src/websocket/aio/`.

Both clients run the same program on their own thread or task: read the connection until it ends,
decide whether a reconnect follows and report the end, then make attempts until one succeeds. A step
is one access to what other threads touch (a critical section of the stream, or a read of the stop
flag) with the local work before it; what the network does at a step is its `Input`. Callers closing
the client run beside it. Where the two clients differ, the step is left to them (`Supervisor`,
`DispatchTask`).

`LoopRun.Inv` says which phase the stream is in at each point of the program.
-/

import FugleMarketdata.Lib.StepMachine
import FugleMarketdata.Websocket.Tracking

namespace FugleMarketdata

/-! ### How a connection ends -/

/-- Which client runs the program. -/
inductive ClientKind where
  | sync | aio
  deriving DecidableEq, Repr

/-- What a read failure's message begins with. -/
def ClientKind.readErrorText : ClientKind → String
  | sync => "WebSocket read error: "
  | aio => "WebSocket error: "

/-- What ends a connection: the peer's Close frame, the end of the stream, a read or a write that
failed (with the error's own text, and what it is reported as), or silence past the liveness window. -/
inductive Ending where
  | peerClose (code : Option Nat) (reason : Option String)
  | eof
  | readFailed (info : ErrorInfo) (text : String)
  | writeFailed (info : ErrorInfo) (text : String)
  | silent (elapsed : Nat)

namespace Ending

/-- The close the policy is asked about: only a Close frame carries a code. -/
def close (lastErrorCode : Option Int) : Ending → ConnectionClose
  | peerClose code _ => { code, lastErrorCode }
  | _ => { lastErrorCode }

def intent : Ending → DisconnectIntent
  | peerClose _ _ => .server
  | _ => .network

variable (sh : Shared)

/-- Report the end, where the stop flag was not set when it was seen. -/
def report (kind : ClientKind) (now : Nat) (willReconnect : Bool) (client : Client) :
    Ending → Client × Outcome
  | peerClose code reason =>
    match peerCloseDisconnect code reason false with
    | some (code, reason, intent) => client.connectionLost sh now code reason intent willReconnect
    | none => (client, {})
  | eof => client.connectionLost sh now none "Connection closed" .network willReconnect
  | readFailed info text =>
    let message := kind.readErrorText ++ text
    (client.connectionFailed sh now (.error { info with message }) message willReconnect).2
  | writeFailed info text =>
    let message := "WebSocket write error: " ++ text
    (client.connectionFailed sh now (.error { info with message }) message willReconnect).2
  | silent elapsed =>
    let elapsedMs := elapsed / 1000000 % 2 ^ 64
    (client.connectionFailed sh now (.heartbeatTimeout elapsed)
      ("Heartbeat timeout after " ++ toString elapsedMs ++ "ms") willReconnect).2

end Ending

/-- The outcome of an auth handshake. -/
inductive AuthHandshake where
  | authenticated (data : Value) (frames : List WebSocketMessage)
  | rejected (message : String) (data : Value) (frames : List WebSocketMessage)
  | failed (info : ErrorInfo)

/-- A subscription frame that could not be replayed: its label and why. -/
structure ResubscribeFailure where
  label : String
  info : ErrorInfo

/-- `ConnectionEvent::resubscribe_failed`. -/
def ResubscribeFailure.event (failure : ResubscribeFailure) : ConnectionEvent :=
  .error { failure.info with
    message := "Failed to resubscribe " ++ failure.label ++ ": " ++ failure.info.message }

/-- What a frame fails with where the writer has stopped. -/
def WRITER_GONE : ErrorInfo :=
  { code := 2001, sourceKind := .network, message := "Connection error: Writer task is not running" }

/-- The `Error` for a frame that could not be parsed. -/
def unparsed (binary : Bool) (info : ErrorInfo) : ConnectionEvent :=
  .error { info with
    message := (if binary then "Failed to deserialize binary message: "
      else "Failed to deserialize message: ") ++ info.message }

/-! ### The program and the callers that close the client -/

/-- Where the program is, named by what comes next. -/
inductive LoopAt where
  -- the connection's task
  | reading (lastErrorCode : Option Int)
  | deciding (lastErrorCode : Option Int) (ending : Ending)
  | reporting (lastErrorCode : Option Int) (ending : Ending) (willReconnect : Bool)
  | returned (close : ConnectionClose)
  -- between attempts
  | loopTop (close : ConnectionClose)
  | exhausted (close : ConnectionClose)
  | announcing (close : ConnectionClose) (attempt : Nat)
  | sleeping (close : ConnectionClose)
  -- an attempt
  | connecting (close : ConnectionClose)
  | dialing (close : ConnectionClose)
  | dialed (close : ConnectionClose)
  | starting (close : ConnectionClose)
  | handshaking (close : ConnectionClose)
  -- an attempt that succeeded
  | accepted (data : Value) (frames : List WebSocketMessage)
  | opening (data : Value) (frames : List WebSocketMessage) (failures : List ResubscribeFailure)
  | opened
  | replaying (failures : List ResubscribeFailure)
  -- rejected credentials
  | rejecting (close : ConnectionClose) (message : String) (data : Value)
      (frames : List WebSocketMessage)
  | unauthenticating (close : ConnectionClose) (message : String) (data : Value)
      (frames : List WebSocketMessage)
  | rejected (close : ConnectionClose) (message : String)
  | givingUp (close : ConnectionClose) (message : String)
  -- an attempt that failed
  | failing (close : ConnectionClose) (info : ErrorInfo)
  | failed (close : ConnectionClose) (info : ErrorInfo)
  | diagnosing (close : ConnectionClose) (info : ErrorInfo)
  -- the end: stopped by a caller, done, or dropped with a writer that may still report
  | shuttingDown
  | ended
  | dropped

/-- What the network, the clock and the random source do at a step. -/
inductive Input where
  | tick (now : Nat)
  | message (now : Nat) (message : WebSocketMessage)
  | badFrame (binary : Bool) (info : ErrorInfo)
  | ending (ending : Ending)
  | hash (hash : Nat)
  | dialed (failure : Option ErrorInfo)
  | verdict (handshake : AuthHandshake)
  | unsent (failures : List ResubscribeFailure)

/-- How far a caller of `disconnect()` or `force_close()` has come. -/
inductive CloserAt where
  | idle
  | aborting
  | raised (forced : Bool)
  | cleared (forced : Bool)
  | done
  deriving DecidableEq, Repr

/-- The call has begun and has not yet reported the close. -/
def CloserAt.isPending : CloserAt → Bool
  | idle | done => false
  | _ => true

/-- A run of the program: the client, its reconnect policy, what the closing callers have asked for,
where the program and each of them are, everything queued since the start and the events refused. -/
structure LoopRun where
  client : Client
  mgr : ReconnectionManager
  /-- `should_stop`, or `shutdown_requested`. -/
  stop : Bool := false
  /-- The sync client's `abort`. -/
  abort : Bool := false
  /-- The write slot holds the connection's sender. -/
  senderLive : Bool := true
  pc : LoopAt := .reading none
  closers : Nat → CloserAt := fun _ => .idle
  queued : List StreamItem := []
  refused : List ConnectionEvent := []

namespace LoopRun

/-- The run after a section. -/
def after (run : LoopRun) (result : Client × Outcome) (pc : LoopAt) : LoopRun :=
  { run with
    client := result.1
    pc
    queued := queuedAfter run.queued run.client result.1
    refused := run.refused ++ result.2.droppedEvent.toList }

/-- The run after a section that stops the program where it is refused. -/
def afterGate (run : LoopRun) (result : Bool × Client × Outcome) (pc : LoopAt) : LoopRun :=
  run.after result.2 (if result.1 then pc else .ended)

variable (sh : Shared)

/-- The steps both clients share. -/
def step (kind : ClientKind) (run : LoopRun) (input : Input) : Option LoopRun :=
  match run.pc, input with
  | .reading last, .message now message =>
    some (run.after (run.client.pushMessage sh now message) (.reading (message.errorCode.or last)))
  | .reading last, .badFrame binary info =>
    some (run.after (run.client.emitUnlessClosed sh (unparsed binary info)).2 (.reading last))
  -- a caller that asked to stop reports the close itself
  | .reading last, .ending ending =>
    some { run with
      pc := if run.stop then .returned (ending.close last) else .deciding last ending }
  | .deciding last ending, .tick _ =>
    some { run with
      pc := .reporting last ending
        (willReconnectAfter run.mgr ending.intent (ending.close last) run.stop) }
  | .reporting last ending willReconnect, .tick now =>
    some (run.after (ending.report sh kind now willReconnect run.client)
      (.returned (ending.close last)))
  | .loopTop close, .hash hash =>
    if run.stop then some { run with pc := .ended }
    else
      let (delay, mgr) := run.mgr.nextDelay hash
      match delay with
      | none => some { run with mgr, pc := .exhausted close }
      | some _ => some { run with mgr, pc := .announcing close mgr.currentAttempt }
  | .exhausted close, .tick _ =>
    some (run.after (run.client.reconnectFailed sh close.code run.mgr.currentAttempt
      MAX_ATTEMPTS_REASON .network) .ended)
  | .announcing close attempt, .tick _ =>
    some (run.afterGate (run.client.reconnectStep sh (.reconnecting attempt)
      (some (.reconnecting attempt))) (.sleeping close))
  | .sleeping close, .tick _ =>
    some { run with pc := if run.stop then .ended else .connecting close }
  | .connecting close, .tick _ =>
    some (run.afterGate (run.client.reconnectStep sh .connecting (some .connecting))
      (.dialing close))
  | .dialing close, .dialed none =>
    some { run with pc := if run.stop then .ended else .dialed close }
  | .dialing close, .dialed (some info) => some { run with pc := .failing close info }
  | .dialed close, .tick _ =>
    some (run.afterGate (run.client.reconnectStep sh .authenticating (some .connected))
      (.starting close))
  | .starting close, .tick _ => some (run.after (run.client.startConnection, {}) (.handshaking close))
  | .handshaking close, .verdict handshake =>
    if run.stop then some { run with pc := .ended }
    else match handshake with
      | .authenticated data frames => some { run with pc := .accepted data frames }
      | .rejected message data frames =>
        some { run with pc := .rejecting close message data frames }
      | .failed info => some { run with pc := .failing close info }
  | .replaying (failure :: rest), .tick _ =>
    some (run.after (run.client.emitUnlessClosed sh failure.event).2 (.replaying rest))
  | .rejecting close message data frames, .tick _ =>
    some (run.afterGate (run.client.reconnectStep sh .disconnected none)
      (.unauthenticating close message data frames))
  | .unauthenticating close message data frames, .tick _ =>
    some (run.afterGate (run.client.reconnectRejected sh message data frames)
      (.rejected close message))
  | .rejected close message, .tick _ =>
    some { run with pc := if run.stop then .ended else .givingUp close message }
  | .givingUp close message, .tick _ =>
    some (run.after (run.client.reconnectFailed sh close.code run.mgr.currentAttempt
      (rejectedReason message) .server) .ended)
  | .failing close info, .tick _ =>
    some (run.afterGate (run.client.reconnectStep sh .disconnected none) (.failed close info))
  | .failed close info, .tick _ =>
    some { run with pc := if run.stop then .ended else .diagnosing close info }
  | .diagnosing close info, .tick _ =>
    some (run.afterGate (run.client.emitUnlessClosed sh (.error info)) (.loopTop close))
  | _, _ => none

/-- A closing caller sets the stop flag. -/
def raise (caller : Nat) (forced : Bool) (run : LoopRun) : LoopRun :=
  { run with stop := true, closers := Function.update run.closers caller (.raised forced) }

/-- A closing caller drops the sender from the write slot. -/
def clear (caller : Nat) (forced : Bool) (run : LoopRun) : LoopRun :=
  { run with senderLive := false, closers := Function.update run.closers caller (.cleared forced) }

/-- A closing caller reports the close. -/
def reportClose (now caller : Nat) (forced : Bool) (run : LoopRun) : LoopRun :=
  let result :=
    if forced then run.client.clientClosed sh now 1006 "Force closed"
    else run.client.clientClosed sh now 1000 "Normal closure"
  { run.after result run.pc with closers := Function.update run.closers caller .done }

/-- The consumer reads an item. -/
def pop (run : LoopRun) : Option LoopRun :=
  run.client.stream.pop.map fun read =>
    { run with client := { run.client with stream := read.2 } }

/-- Some call has begun closing the client and has not yet reported it. -/
def Closing (run : LoopRun) : Prop := ∃ caller, (run.closers caller).isPending = true

/-- Some caller has asked the program to stop. -/
def asked (run : LoopRun) : Bool := run.stop || run.abort || !run.senderLive

/-- The program is over and nobody is still closing the client. -/
def Finished (run : LoopRun) : Prop := (run.pc = .ended ∨ run.pc = .dropped) ∧ ¬ run.Closing

end LoopRun

/-! ### Where the stream is at each point of the program -/

/-- `made` attempts have been made and the next may be announced. -/
def Phase.Waits (phase : Phase) (made : Nat) : Prop := phase = .lost made ∨ (phase = .up ∧ made = 0)

/-- The counter is at the current attempt, which is at `stage`. -/
def ReconnectionManager.Tries (mgr : ReconnectionManager) (phase : Phase) (stage : Stage) : Prop :=
  ∃ attempt, phase = .trying attempt stage ∧ 1 ≤ attempt ∧
    mgr.currentAttempt = attemptNumber attempt

/-- The phase of a stream that has not ended, and the attempt counter, at each point. The loop's
counter starts at zero, since a connection that succeeded has reset it; where the program stops
without a report, some caller is closing the client and will make one. -/
def LoopAt.Fits (mgr : ReconnectionManager) (closing : Prop) : LoopAt → Phase → Prop
  | .reading _, phase => phase = .up ∧ mgr.currentAttempt = 0
  | .deciding _ _, phase => phase = .up ∧ mgr.currentAttempt = 0
  | .reporting last ending willReconnect, phase => phase = .up ∧ mgr.currentAttempt = 0 ∧
      (willReconnect = true →
        mgr.shouldReconnect (ending.close last).code (ending.close last).lastErrorCode = true)
  | .returned close, phase => mgr.currentAttempt = 0 ∧ ((phase = .up ∧ closing) ∨
      (phase = .lost 0 ∧ mgr.shouldReconnect close.code close.lastErrorCode = true))
  | .loopTop _, phase => ∃ made, phase.Waits made ∧ mgr.currentAttempt = attemptNumber made
  | .exhausted _, phase => ∃ made, phase = .lost made ∧ 1 ≤ made ∧
      mgr.currentAttempt = attemptNumber made
  | .announcing _ attempt, phase => ∃ made, phase.Waits made ∧ attempt = attemptNumber (made + 1) ∧
      mgr.currentAttempt = attemptNumber (made + 1) ∧
      (mgr.config.maxAttempts = 0 ∨ made + 1 ≤ mgr.config.maxAttempts)
  | .sleeping _, phase => mgr.Tries phase .announced
  | .connecting _, phase => mgr.Tries phase .announced
  | .dialing _, phase => mgr.Tries phase .connecting
  | .dialed _, phase => mgr.Tries phase .connecting
  | .starting _, phase => mgr.Tries phase .connected
  | .handshaking _, phase => mgr.Tries phase .connected
  | .accepted _ _, phase => mgr.Tries phase .connected
  | .opening _ _ _, phase => (∃ attempt, phase = .trying attempt .connected) ∧ mgr.currentAttempt = 0
  | .opened, phase => phase = .up
  | .replaying _, phase => phase = .up ∧ mgr.currentAttempt = 0
  | .rejecting _ _ _ _, phase => mgr.Tries phase .connected
  | .unauthenticating _ _ _ _, phase => mgr.Tries phase .connected
  | .rejected _ _, phase => ∃ made, phase = .refused made ∧ 1 ≤ made ∧
      mgr.currentAttempt = attemptNumber made
  | .givingUp _ _, phase => ∃ made, phase = .refused made ∧ 1 ≤ made ∧
      mgr.currentAttempt = attemptNumber made
  | .failing _ _, phase => mgr.Tries phase .connecting ∨ mgr.Tries phase .connected
  | .failed _ _, phase => mgr.Tries phase .connecting ∨ mgr.Tries phase .connected
  | .diagnosing _ _, phase => mgr.Tries phase .connecting ∨ mgr.Tries phase .connected
  | .shuttingDown, _ => closing
  | .ended, _ => closing
  | .dropped, phase => closing ∧ phase = .up

/-- The program is at rest. -/
def LoopAt.isOver : LoopAt → Bool
  | .ended | .dropped => true
  | _ => false

/-- What a program point requires is kept while a caller is closing the client. -/
theorem LoopAt.Fits.mono {mgr : ReconnectionManager} {closing still : Prop} {pc : LoopAt}
    {phase : Phase} (implied : closing → still) (fits : pc.Fits mgr closing phase) :
    pc.Fits mgr still phase := by
  cases pc with
  | returned close => exact ⟨fits.1, fits.2.imp_left fun up => ⟨up.1, implied up.2⟩⟩
  | shuttingDown | ended => exact implied fits
  | dropped => exact ⟨implied fits.1, fits.2⟩
  | _ => exact fits

/-- What is known where the stream is in `phase`: it tracks the client; while it has not ended, the
program fits it and what is asked of it some caller asks; and a reconnect that gave up ended the program. -/
structure LoopRun.InPhase (run : LoopRun) (phase : Phase) : Prop where
  tracks : Tracks run.mgr.config.maxAttempts run.client run.queued phase
  asked : phase.isFinal = false → run.asked = true → run.Closing
  fits : phase.isFinal = false → run.pc.Fits run.mgr run.Closing phase
  gaveUp : phase = .gaveUp → run.pc.isOver = true

/-- The invariant of a run, as long as no event is refused. -/
structure LoopRun.Inv (config : ReconnectionConfig) (run : LoopRun) : Prop where
  config : run.mgr.config = config
  phase : run.refused = [] → ∃ phase, run.InPhase phase

namespace LoopRun

variable {run : LoopRun}

/-- A section's outcome is clean where no event was refused. -/
theorem after_refused {result : Client × Outcome} {pc : LoopAt}
    (clean : (run.after result pc).refused = []) :
    run.refused = [] ∧ result.2.droppedEvent = none := by
  obtain ⟨before, dropped⟩ := List.append_eq_nil_iff.mp clean
  exact ⟨before, Option.toList_eq_nil_iff.mp dropped⟩

theorem asked_of_stop (stop : run.stop = true) : run.asked = true := by
  rw [asked, stop]
  rfl

/-- A reconnect that gave up has ended the program. -/
theorem InPhase.not_gaveUp {phase : Phase} (here : run.InPhase phase) (going : run.pc.isOver = false) :
    phase ≠ .gaveUp := by
  intro gave
  have atRest := here.gaveUp gave
  rw [going] at atRest
  cases atRest

/-- A step within the program that touches no stream. -/
theorem InPhase.goto {phase : Phase} (here : run.InPhase phase) {mgr : ReconnectionManager}
    {pc : LoopAt} (config : mgr.config = run.mgr.config) (going : run.pc.isOver = false)
    (fits : phase.isFinal = false → run.pc.Fits run.mgr run.Closing phase →
      (run.asked = true → run.Closing) → pc.Fits mgr run.Closing phase) :
    InPhase { run with mgr, pc } phase where
  tracks := by
    show Tracks mgr.config.maxAttempts run.client run.queued phase
    rw [config]
    exact here.tracks
  asked := here.asked
  fits := fun open_ => fits open_ (here.fits open_) (here.asked open_)
  gaveUp := fun gave => (here.not_gaveUp going gave).elim

/-- A step that installs the sender of a new connection. -/
theorem InPhase.install {phase : Phase} (here : run.InPhase phase) {mgr : ReconnectionManager}
    {pc : LoopAt} (config : mgr.config = run.mgr.config) (going : run.pc.isOver = false)
    (fits : phase.isFinal = false → run.pc.Fits run.mgr run.Closing phase →
      pc.Fits mgr run.Closing phase) :
    InPhase { run with senderLive := true, mgr, pc } phase where
  tracks := by
    show Tracks mgr.config.maxAttempts run.client run.queued phase
    rw [config]
    exact here.tracks
  asked := fun open_ asked => by
    have before : run.asked = true := by
      have either : (run.stop || run.abort || !true) = true := asked
      rw [Bool.not_true, Bool.or_false] at either
      rw [LoopRun.asked, either]
      rfl
    exact here.asked open_ before
  fits := fun open_ => fits open_ (here.fits open_)
  gaveUp := fun gave => (here.not_gaveUp going gave).elim

/-- A step that only reads the stop flag. -/
theorem InPhase.checkStop {phase : Phase} (here : run.InPhase phase) {next : LoopAt}
    (going : run.pc.isOver = false)
    (fits : phase.isFinal = false → next.Fits run.mgr run.Closing phase) :
    InPhase { run with pc := if run.stop then .ended else next } phase := by
  refine here.goto rfl going fun open_ _ asked => ?_
  cases stop : run.stop with
  | true => exact asked (asked_of_stop stop)
  | false => exact fits open_

/-- A section of the connection's task. -/
theorem InPhase.after {phase next : Phase} (here : run.InPhase phase) {result : Client × Outcome}
    {pc : LoopAt}
    (tracks : Tracks run.mgr.config.maxAttempts result.1
      (queuedAfter run.queued run.client result.1) next)
    (opened : next.isFinal = false → phase.isFinal = false)
    (fits : next.isFinal = false → pc.Fits run.mgr run.Closing next)
    (gaveUp : next = .gaveUp → pc.isOver = true) : (run.after result pc).InPhase next where
  tracks := tracks
  asked := fun open_ => here.asked (opened open_)
  fits := fits
  gaveUp := gaveUp

/-- A section behind the gate. -/
theorem InPhase.afterGate {phase : Phase} (here : run.InPhase phase)
    {result : Bool × Client × Outcome} {pc : LoopAt}
    (loops : Loops run.mgr.config.maxAttempts run.client run.queued result
      fun next => next.isFinal = false ∧ pc.Fits run.mgr run.Closing next) :
    ∃ next, (run.afterGate result pc).InPhase next := by
  rcases loops with ⟨closed, rfl⟩ | ⟨fresh, passed, next, ⟨goes, fits⟩, tracks⟩
  · have final : phase.isFinal = true := here.tracks.reported ▸ closed
    refine ⟨phase, ⟨?_, fun open_ => ?_, fun open_ => ?_, fun _ => rfl⟩⟩
    · show Tracks _ run.client (queuedAfter run.queued run.client run.client) phase
      rw [queuedAfter_self]
      exact here.tracks
    · rw [final] at open_
      cases open_
    · rw [final] at open_
      cases open_
  · have open_ : phase.isFinal = false := here.tracks.reported ▸ fresh
    refine ⟨next, here.after tracks (fun _ => open_) (fun _ => ?_) fun gave => ?_⟩
    · rw [passed]
      exact fits
    · rw [gave] at goes
      cases goes

end LoopRun

/-! ### Each step keeps the invariant -/

variable (sh : Shared)

/-- Reporting the end of a connection, unless the client was closed before. -/
theorem Ending.report_tracks {maxAttempts : Nat} {client : Client} {queued : List StreamItem}
    {phase : Phase} (kind : ClientKind) (now : Nat) (willReconnect : Bool) (ending : Ending)
    (tracks : Tracks maxAttempts client queued phase) (up : phase = .up ∨ phase = .closed)
    (clean : (ending.report sh kind now willReconnect client).2.droppedEvent = none) :
    Tracks maxAttempts (ending.report sh kind now willReconnect client).1
      (queuedAfter queued client (ending.report sh kind now willReconnect client).1)
      (if phase = .up ∧ willReconnect = true then .lost 0 else .closed) := by
  cases ending with
  | peerClose code reason => exact tracks.connectionLost sh up now _ _ _ _ clean
  | eof => exact tracks.connectionLost sh up now _ _ _ _ clean
  | readFailed info text => exact tracks.connectionFailed sh up now _ _ rfl rfl rfl clean
  | writeFailed info text => exact tracks.connectionFailed sh up now _ _ rfl rfl rfl clean
  | silent elapsed => exact tracks.connectionFailed sh up now _ _ rfl rfl rfl clean

/-- A `will_reconnect` that is set is what the policy says of the close. -/
theorem shouldReconnect_of_willReconnectAfter {mgr : ReconnectionManager}
    {intent : DisconnectIntent} {close : ConnectionClose} {stop : Bool}
    (promised : willReconnectAfter mgr intent close stop = true) :
    mgr.shouldReconnect close.code close.lastErrorCode = true := by
  unfold willReconnectAfter at promised
  split at promised
  · cases promised
  · exact promised

@[simp] theorem attemptNumber_zero : attemptNumber 0 = 0 := rfl

/-- The counter after one more attempt. -/
theorem attemptNumber_succ (made : Nat) :
    min (attemptNumber made + 1) U32_MAX = attemptNumber (made + 1) := by
  unfold attemptNumber
  omega

/-- Below the limit the counter has not stopped. -/
theorem lt_of_attemptNumber_lt {made maxAttempts : Nat} (limit : maxAttempts ≤ U32_MAX)
    (below : attemptNumber made < maxAttempts) : made < maxAttempts := by
  unfold attemptNumber at below
  omega

theorem Phase.Waits.next {phase : Phase} {made maxAttempts : Nat} (waits : phase.Waits made)
    (allowed : maxAttempts = 0 ∨ made + 1 ≤ maxAttempts) :
    phase.next maxAttempts (.reconnecting (attemptNumber (made + 1))) =
      some (.trying (made + 1) .announced) := by
  have announced : Phase.announce maxAttempts made (attemptNumber (made + 1)) =
      some (.trying (made + 1) .announced) := if_pos ⟨rfl, allowed⟩
  rcases waits with rfl | ⟨rfl, rfl⟩
  · exact announced
  · exact announced

theorem Phase.giveUp_self {made : Nat} (some_ : 1 ≤ made) :
    Phase.giveUp made (attemptNumber made) = some .gaveUp := if_pos ⟨rfl, some_⟩

namespace LoopRun

variable {run : LoopRun} {phase : Phase}

/-- While the program runs, a stream that has ended was closed by a caller. -/
theorem InPhase.closed (here : run.InPhase phase) (going : run.pc.isOver = false)
    (final : phase.isFinal = true) : phase = .closed := by
  cases phase with
  | closed => rfl
  | gaveUp => exact (here.not_gaveUp going rfl).elim
  | up | lost made | trying attempt stage | refused attempt => cases final

/-- `will_reconnect` is carried out: the connection's end is reported with what the policy says. -/
theorem InPhase.reporting {last : Option Int} {ending : Ending} {willReconnect : Bool}
    (kind : ClientKind) (now : Nat) (here : run.InPhase phase)
    (pc : run.pc = .reporting last ending willReconnect)
    (clean : (ending.report sh kind now willReconnect run.client).2.droppedEvent = none) :
    ∃ next, (run.after (ending.report sh kind now willReconnect run.client)
      (.returned (ending.close last))).InPhase next := by
  by_cases final : phase.isFinal = true
  · obtain rfl : phase = .closed := here.closed (by rw [pc]; rfl) final
    have tracks := ending.report_tracks sh kind now willReconnect here.tracks (Or.inr rfl) clean
    exact ⟨_, here.after tracks nofun nofun nofun⟩
  · have open_ : phase.isFinal = false := Bool.eq_false_iff.mpr final
    have fits := here.fits open_
    rw [pc] at fits
    obtain ⟨rfl, zero, promised⟩ := fits
    have tracks := ending.report_tracks sh kind now willReconnect here.tracks (Or.inl rfl) clean
    cases willReconnect with
    | false => exact ⟨_, here.after tracks nofun nofun nofun⟩
    | true => exact ⟨_, here.after tracks (fun _ => rfl) (fun _ => ⟨zero, Or.inr ⟨rfl, promised rfl⟩⟩) nofun⟩

/-- Between attempts: a further one is counted, or the limit is used up. -/
theorem InPhase.loopTop {close : ConnectionClose} {next : LoopRun} (kind : ClientKind) (hash : Nat)
    (here : run.InPhase phase) (pc : run.pc = .loopTop close)
    (stepped : run.step sh kind (.hash hash) = some next) : next.InPhase phase := by
  have going : run.pc.isOver = false := by rw [pc]; rfl
  unfold LoopRun.step at stepped
  rw [pc] at stepped
  simp only at stepped
  split at stepped
  · rename_i stop
    cases stepped
    exact here.goto rfl going fun _ _ asked => asked (asked_of_stop stop)
  · split at stepped
    · rename_i used
      cases stepped
      obtain ⟨limited, reached, same⟩ := ReconnectionManager.nextDelay_none used
      refine here.goto (ReconnectionManager.nextDelay_config run.mgr hash) going fun _ fits _ => ?_
      rw [pc] at fits
      obtain ⟨made, waits, counted⟩ := fits
      rw [counted] at reached
      have some_ : 1 ≤ made := by
        rcases Nat.eq_zero_or_pos made with rfl | positive
        · exact absurd (Nat.le_zero.mp reached) limited
        · exact positive
      rcases waits with rfl | ⟨-, rfl⟩
      · refine ⟨made, rfl, some_, ?_⟩
        rw [same]
        exact counted
      · cases some_
    · rename_i delay given
      cases stepped
      obtain ⟨below, counts⟩ := ReconnectionManager.nextDelay_some given
      refine here.goto (ReconnectionManager.nextDelay_config run.mgr hash) going fun _ fits _ => ?_
      rw [pc] at fits
      obtain ⟨made, waits, counted⟩ := fits
      rw [counted] at below counts
      refine ⟨made, waits, counts.trans (attemptNumber_succ made), counts.trans (attemptNumber_succ made),
        ?_⟩
      rw [ReconnectionManager.nextDelay_config]
      rcases Nat.eq_zero_or_pos run.mgr.config.maxAttempts with unlimited | limited
      · exact Or.inl unlimited
      · right
        have bound := below (Nat.pos_iff_ne_zero.mp limited)
        exact lt_of_attemptNumber_lt run.mgr.config.maxAttempts_le bound

/-- A step of the program that announces where an attempt stands. -/
theorem InPhase.stage {event : ConnectionEvent} {connection : ConnectionState} {before stage : Stage}
    {next : LoopAt} (here : run.InPhase phase)
    (telling : StreamItem.lifecycle (.event event) = some event) (going : event.endsReconnect = false)
    (fits : phase.isFinal = false → run.mgr.Tries phase before)
    (moves : ∀ attempt, (Phase.trying attempt before).next run.mgr.config.maxAttempts event =
      some (.trying attempt stage))
    (after : ∀ phase, run.mgr.Tries phase stage → next.Fits run.mgr run.Closing phase)
    (clean : (run.client.reconnectStep sh connection (some event)).2.2.droppedEvent = none) :
    ∃ phase, (run.afterGate (run.client.reconnectStep sh connection (some event)) next).InPhase phase := by
  refine here.afterGate (here.tracks.reconnectStep sh connection telling going clean fun open_ => ?_)
  obtain ⟨attempt, rfl, some_, counted⟩ := fits open_
  exact ⟨_, moves attempt, rfl, after _ ⟨attempt, rfl, some_, counted⟩⟩

/-- A step of the program that only sets the state. -/
theorem InPhase.setState {connection : ConnectionState} {next : LoopAt} (here : run.InPhase phase)
    (after : phase.isFinal = false → next.Fits run.mgr run.Closing phase) :
    ∃ phase, (run.afterGate (run.client.reconnectStep sh connection none) next).InPhase phase :=
  here.afterGate (here.tracks.reconnectStep_state sh connection fun open_ => ⟨open_, after open_⟩)

/-- A connected client's diagnostic. -/
theorem InPhase.diagnostic {info : ErrorInfo} {next : LoopAt} (here : run.InPhase phase)
    (up : phase.isFinal = false → phase = .up)
    (fits : phase.isFinal = false → next.Fits run.mgr run.Closing phase)
    (gaveUp : phase = .gaveUp → next.isOver = true)
    (clean : (run.client.emitUnlessClosed sh (.error info)).2.2.droppedEvent = none) :
    (run.after (run.client.emitUnlessClosed sh (.error info)).2 next).InPhase phase := by
  have stays : Loops run.mgr.config.maxAttempts run.client run.queued
      (run.client.emitUnlessClosed sh (.error info)) (· = phase) := by
    refine here.tracks.emitUnlessClosed sh rfl rfl clean fun open_ => ⟨.up, ?_, (up open_).symm⟩
    rw [up open_]
    rfl
  refine here.after ?_ id fits gaveUp
  rcases stays with ⟨-, refused⟩ | ⟨-, -, next, rfl, tracks⟩
  · rw [refused, queuedAfter_self]
    exact here.tracks
  · exact tracks

/-- The reconnect gives up, unless the close is reported. -/
theorem InPhase.gives {code : Option Nat} {reason : String} {intent : DisconnectIntent}
    (here : run.InPhase phase)
    (moves : phase.isFinal = false →
      phase.next run.mgr.config.maxAttempts (.reconnectFailed run.mgr.currentAttempt) = some .gaveUp)
    (clean : (run.client.reconnectFailed sh code run.mgr.currentAttempt reason intent).2.droppedEvent =
      none) :
    ∃ phase, (run.after (run.client.reconnectFailed sh code run.mgr.currentAttempt reason intent)
      .ended).InPhase phase := by
  obtain ⟨next, final, tracks⟩ :=
    here.tracks.reconnectFailed sh code reason intent clean moves
  refine ⟨next, here.after tracks (fun open_ => ?_) (fun open_ => ?_) fun _ => rfl⟩ <;>
    · rw [final] at open_
      cases open_

/-- **Every step of the program keeps the invariant.** -/
theorem InPhase.step {kind : ClientKind} {input : Input} {next : LoopRun}
    (here : run.InPhase phase) (stepped : run.step sh kind input = some next)
    (clean : next.refused = []) : ∃ phase, next.InPhase phase := by
  have fits := here.fits
  unfold LoopRun.step at stepped
  split at stepped
  -- a message
  · rename_i last now message pc
    rw [pc] at fits
    cases stepped
    have tracks := here.tracks.pushMessage sh now message (after_refused clean).2
    exact ⟨phase, here.after tracks id fits fun gave => (here.not_gaveUp (by rw [pc]; rfl) gave).elim⟩
  -- a frame that could not be parsed
  · rename_i last binary info pc
    rw [pc] at fits
    cases stepped
    have going : run.pc.isOver = false := by rw [pc]; rfl
    exact ⟨phase, here.diagnostic sh (fun open_ => (fits open_).1) fits
      (fun gave => (here.not_gaveUp going gave).elim) (after_refused clean).2⟩
  -- the end of the connection
  · rename_i last ending pc
    rw [pc] at fits
    cases stepped
    refine ⟨phase, here.goto rfl (by rw [pc]; rfl) fun open_ _ asked => ?_⟩
    obtain ⟨up, zero⟩ := fits open_
    cases stop : run.stop with
    | true => exact ⟨zero, Or.inl ⟨up, asked (asked_of_stop stop)⟩⟩
    | false => exact ⟨up, zero⟩
  -- will_reconnect
  · rename_i last ending now pc
    rw [pc] at fits
    cases stepped
    refine ⟨phase, here.goto rfl (by rw [pc]; rfl) fun open_ _ _ => ?_⟩
    obtain ⟨up, zero⟩ := fits open_
    exact ⟨up, zero, shouldReconnect_of_willReconnectAfter⟩
  -- the report
  · rename_i last ending willReconnect now pc
    cases stepped
    exact here.reporting sh kind now pc (after_refused clean).2
  -- the top of the loop
  · rename_i close hash pc
    have again : run.step sh kind (.hash hash) = some next := by
      unfold LoopRun.step
      rw [pc]
      exact stepped
    exact ⟨phase, here.loopTop sh kind hash pc again⟩
  -- the attempts are used up
  · rename_i close now pc
    rw [pc] at fits
    cases stepped
    refine here.gives sh (fun open_ => ?_) (after_refused clean).2
    obtain ⟨made, rfl, some_, counted⟩ := fits open_
    rw [counted]
    exact Phase.giveUp_self some_
  -- Reconnecting
  · rename_i close attempt now pc
    rw [pc] at fits
    cases stepped
    refine here.afterGate (here.tracks.reconnectStep sh _ rfl rfl (after_refused clean).2 fun open_ => ?_)
    obtain ⟨made, waits, rfl, counted, allowed⟩ := fits open_
    exact ⟨_, waits.next allowed, rfl, made + 1, rfl, Nat.le_add_left 1 made, counted⟩
  -- the backoff is over
  · rename_i close now pc
    rw [pc] at fits
    cases stepped
    exact ⟨phase, here.checkStop (by rw [pc]; rfl) fits⟩
  -- Connecting
  · rename_i close now pc
    rw [pc] at fits
    cases stepped
    exact here.stage sh rfl rfl fits (fun _ => rfl) (fun _ tries => tries) (after_refused clean).2
  -- the transport is up
  · rename_i close pc
    rw [pc] at fits
    cases stepped
    exact ⟨phase, here.checkStop (by rw [pc]; rfl) fits⟩
  -- the transport failed
  · rename_i close info pc
    rw [pc] at fits
    cases stepped
    exact ⟨phase, here.goto rfl (by rw [pc]; rfl) fun open_ _ _ => Or.inl (fits open_)⟩
  -- Connected
  · rename_i close now pc
    rw [pc] at fits
    cases stepped
    exact here.stage sh rfl rfl fits (fun _ => rfl) (fun _ tries => tries) (after_refused clean).2
  -- the drop count restarts
  · rename_i close now pc
    rw [pc] at fits
    cases stepped
    exact ⟨phase, here.after here.tracks.startConnection id fits fun gave =>
      (here.not_gaveUp (by rw [pc]; rfl) gave).elim⟩
  -- the verdict
  · rename_i close handshake pc
    rw [pc] at fits
    split at stepped
    · rename_i stop
      cases stepped
      exact ⟨phase, here.goto rfl (by rw [pc]; rfl) fun _ _ asked => asked (asked_of_stop stop)⟩
    cases handshake with
    | authenticated data frames =>
      cases stepped
      exact ⟨phase, here.goto rfl (by rw [pc]; rfl) fun open_ _ _ => fits open_⟩
    | rejected message data frames =>
      cases stepped
      exact ⟨phase, here.goto rfl (by rw [pc]; rfl) fun open_ _ _ => fits open_⟩
    | failed info =>
      cases stepped
      exact ⟨phase, here.goto rfl (by rw [pc]; rfl) fun open_ _ _ => Or.inr (fits open_)⟩
  -- a subscription that was not replayed
  · rename_i failure rest now pc
    rw [pc] at fits
    cases stepped
    have going : run.pc.isOver = false := by rw [pc]; rfl
    exact ⟨phase, here.diagnostic sh (fun open_ => (fits open_).1) fits
      (fun gave => (here.not_gaveUp going gave).elim) (after_refused clean).2⟩
  -- rejected credentials
  · rename_i close message data frames now pc
    rw [pc] at fits
    cases stepped
    exact here.setState sh fits
  · rename_i close message data frames now pc
    rw [pc] at fits
    cases stepped
    refine here.afterGate (here.tracks.reconnectRejected sh message data frames (after_refused clean).2
      fun open_ => ?_)
    obtain ⟨attempt, rfl, some_, counted⟩ := fits open_
    exact ⟨attempt, rfl, rfl, attempt, rfl, some_, counted⟩
  · rename_i close message now pc
    rw [pc] at fits
    cases stepped
    exact ⟨phase, here.checkStop (by rw [pc]; rfl) fits⟩
  · rename_i close message now pc
    rw [pc] at fits
    cases stepped
    refine here.gives sh (fun open_ => ?_) (after_refused clean).2
    obtain ⟨made, rfl, some_, counted⟩ := fits open_
    rw [counted]
    exact Phase.giveUp_self some_
  -- an attempt that failed
  · rename_i close info now pc
    rw [pc] at fits
    cases stepped
    exact here.setState sh fits
  · rename_i close info now pc
    rw [pc] at fits
    cases stepped
    exact ⟨phase, here.checkStop (by rw [pc]; rfl) fits⟩
  · rename_i close info now pc
    rw [pc] at fits
    cases stepped
    refine here.afterGate (here.tracks.emitUnlessClosed sh rfl rfl (after_refused clean).2 fun open_ => ?_)
    rcases fits open_ with ⟨attempt, rfl, some_, counted⟩ | ⟨attempt, rfl, some_, counted⟩
    · exact ⟨_, rfl, rfl, attempt, Or.inl rfl, counted⟩
    · exact ⟨_, rfl, rfl, attempt, Or.inl rfl, counted⟩
  · cases stepped

/-- What a step leaves alone: the policy, the callers, and the record of refused events. -/
theorem step_frame {kind : ClientKind} {input : Input} {next : LoopRun}
    (stepped : run.step sh kind input = some next) :
    next.mgr.config = run.mgr.config ∧ (next.refused = [] → run.refused = []) := by
  have untouched {mgr : ReconnectionManager} {pc : LoopAt} (config : mgr.config = run.mgr.config)
      (moved : some { run with mgr, pc } = some next) :
      next.mgr.config = run.mgr.config ∧ (next.refused = [] → run.refused = []) := by
    cases moved
    exact ⟨config, id⟩
  have sectioned {result : Client × Outcome} {pc : LoopAt} (moved : some (run.after result pc) = some next) :
      next.mgr.config = run.mgr.config ∧ (next.refused = [] → run.refused = []) := by
    cases moved
    exact ⟨rfl, fun clean => (after_refused clean).1⟩
  unfold LoopRun.step at stepped
  split at stepped
  case h_6 close hash pc =>
    simp only at stepped
    split at stepped
    · exact untouched rfl stepped
    · split at stepped <;> exact untouched (ReconnectionManager.nextDelay_config _ _) stepped
  case h_15 close handshake pc =>
    split at stepped
    · exact untouched rfl stepped
    · cases handshake <;> exact untouched rfl stepped
  case h_24 => cases stepped
  all_goals first | exact untouched rfl stepped | exact sectioned stepped

/-! ### The callers and the consumer -/

/-- A caller moves on to a point where its call is pending, whatever it has asked for. -/
theorem Inv.moveCaller {config : ReconnectionConfig} {caller : Nat} {next : CloserAt}
    (inv : run.Inv config) (pending : next.isPending = true) (stop abort senderLive : Bool) :
    Inv config { run with
      stop, abort, senderLive, closers := Function.update run.closers caller next } where
  config := inv.config
  phase := fun clean => by
    obtain ⟨phase, here⟩ := inv.phase clean
    have closing : ∃ other, (Function.update run.closers caller next other).isPending = true := by
      refine ⟨caller, ?_⟩
      rw [Function.update_self]
      exact pending
    exact ⟨phase, here.tracks, fun _ _ => closing,
      fun open_ => (here.fits open_).mono fun _ => closing, here.gaveUp⟩

theorem Inv.raise {config : ReconnectionConfig} (inv : run.Inv config) (caller : Nat)
    (forced : Bool) : (run.raise caller forced).Inv config :=
  inv.moveCaller rfl true run.abort run.senderLive

theorem Inv.clear {config : ReconnectionConfig} (inv : run.Inv config) (caller : Nat)
    (forced : Bool) : (run.clear caller forced).Inv config :=
  inv.moveCaller rfl run.stop run.abort false

/-- Reporting the close ends the stream. -/
theorem Inv.reportClose {config : ReconnectionConfig} (inv : run.Inv config) (now caller : Nat)
    (forced : Bool) : (run.reportClose sh now caller forced).Inv config where
  config := inv.config
  phase := fun clean => by
    have cleanAfter : (run.after _ run.pc).refused = [] := clean
    obtain ⟨before, cleanReport⟩ := after_refused cleanAfter
    obtain ⟨phase, here⟩ := inv.phase before
    have final : (if phase.isFinal then phase else Phase.closed).isFinal = true := by
      cases known : phase.isFinal with
      | true => exact known
      | false => rfl
    refine ⟨if phase.isFinal then phase else .closed, ⟨?_, ?_, ?_, ?_⟩⟩
    · cases forced with
      | true => exact here.tracks.clientClosed sh now _ _ cleanReport
      | false => exact here.tracks.clientClosed sh now _ _ cleanReport
    · rw [final]
      exact nofun
    · rw [final]
      exact nofun
    · intro gave
      cases known : phase.isFinal with
      | true =>
        rw [known] at gave
        exact here.gaveUp gave
      | false =>
        rw [known] at gave
        cases gave

/-- The consumer's reads change nothing that is tracked. -/
theorem Inv.pop {config : ReconnectionConfig} {next : LoopRun} (inv : run.Inv config)
    (popped : run.pop = some next) : next.Inv config := by
  obtain ⟨⟨item, stream⟩, read, rfl⟩ := Option.map_eq_some_iff.mp popped
  refine ⟨inv.config, fun clean => ?_⟩
  obtain ⟨phase, here⟩ := inv.phase clean
  have same : stream.receiverAlive = run.client.stream.receiverAlive ∧
      stream.closeReported = run.client.stream.closeReported ∧
      stream.disconnectClaimed = run.client.stream.disconnectClaimed := by
    unfold State.pop at read
    split at read <;> cases read <;> exact ⟨rfl, rfl, rfl⟩
  obtain ⟨alive, reported, claimed⟩ := same
  refine ⟨phase, ⟨⟨alive.trans here.tracks.alive, here.tracks.followed, ?_, ?_, ?_⟩, here.asked,
    here.fits, here.gaveUp⟩⟩
  · exact reported.trans here.tracks.reported
  · exact fun up => claimed.trans (here.tracks.unclaimed up)
  · exact fun closed => claimed.trans (here.tracks.claimed closed)

/-- A connection a caller has just authenticated, nothing queued behind it yet. -/
theorem Inv.start (config : ReconnectionConfig) {client : Client} (data : Value)
    (frames : List WebSocketMessage) (alive : client.stream.receiverAlive = true) :
    Inv config
      { client := (client.authenticated sh data frames).1, mgr := .new config } where
  config := rfl
  phase := fun _ => by
    obtain ⟨new, pushes, -⟩ := State.openConnection_tells sh data frames
      ({ client.stream with reconnectedAt := none }, {})
    refine ⟨.up, ⟨⟨pushes.alive.trans alive, rfl, pushes.reported, fun _ => pushes.claimed, nofun⟩,
      nofun, fun _ => ⟨rfl, rfl⟩, nofun⟩⟩

/-- **The promise, for every run that keeps the invariant.** -/
theorem Inv.truthful {config : ReconnectionConfig} (inv : run.Inv config) (clean : run.refused = []) :
    WillReconnectTruthful attemptNumber config.maxAttempts run.Finished run.queued := by
  obtain ⟨phase, here⟩ := inv.phase clean
  have tracks := here.tracks
  rw [inv.config] at tracks
  refine Phase.follow_truthful tracks.followed fun finished => ?_
  rw [← Bool.not_eq_false]
  intro open_
  have fits := here.fits open_
  rcases finished with ⟨ended | dropped, done⟩
  · rw [ended] at fits
    exact done fits
  · rw [dropped] at fits
    exact done fits.1

end LoopRun

end FugleMarketdata
