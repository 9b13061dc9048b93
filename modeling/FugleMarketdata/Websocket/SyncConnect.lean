/-
**The sync client's `connect()` beside a call that closes the client.** `connect`,
`shutdown_with_timeout` and `force_close` of `core/src/websocket/sync/client.rs`, with the supervisor
threads the connects leave behind.

`connect()` looks at the state once, at its start, and then changes the state, the stream, the write
slot and the supervisor's handle in many steps; the closing call changes the same fields in steps of
its own. `should_stop` is never taken back.

* `ClientRun.connectStep`, `ClientRun.closeStep` — the two calls, step by step;
* `clientRuns` — one thread calling `connect`, one thread closing the client, the supervisors and the
  consumer, in every order, from the client's construction.
-/

import FugleMarketdata.Websocket.SupervisorStop

namespace FugleMarketdata

open StepMachines StepMachine

/-! ### The calls -/

/-- Where the thread in `connect` is, named by what comes next. -/
inductive ConnectAt where
  | idle
  | checked
  | admitted
  | announcing
  | dialing
  | dialed
  | connected
  | starting
  | handshaking
  | failing (info : ErrorInfo)
  | failed (info : ErrorInfo)
  | rejecting (message : String) (data : Value) (frames : List WebSocketMessage)
  | unauthenticating (message : String) (data : Value) (frames : List WebSocketMessage)
  | accepted (data : Value) (frames : List WebSocketMessage)
  | installed (data : Value) (frames : List WebSocketMessage)
  | authenticating (data : Value) (frames : List WebSocketMessage)
  | spawning
  | storing
  | handing

/-- The call has found the client not closed and may still report. -/
def ConnectAt.opens : ConnectAt → Bool
  | .idle | .spawning | .storing | .handing => false
  | _ => true

/-- The call has found no supervisor and has not spawned its own. -/
def ConnectAt.unspawned : ConnectAt → Bool
  | .idle | .checked | .storing | .handing => false
  | _ => true

/-- What the caller, the network and the operating system do at a step of `connect`. -/
inductive ConnectInput where
  | begin (valid : Bool)
  | go
  | dialed (failure : Option ErrorInfo)
  | verdict (handshake : AuthHandshake)
  | spawned (ok : Bool)

/-- Where the closing thread is, named by the last step that is done. -/
inductive CloseAt where
  | idle
  | aborting
  | raised (forced : Bool)
  | cleared (forced : Bool)
  | waited (signaled : Bool)
  | joining (supervisor : Option Nat)
  | dropped
  | reporting (forced : Bool)
  deriving DecidableEq, Repr

/-- The call has set `should_stop`. -/
def CloseAt.asks : CloseAt → Bool
  | .idle | .aborting => false
  | _ => true

/-- What the caller, the clock and the supervisor's exit signal do at a step of a closing call. -/
inductive CloseInput where
  | shutdown
  | force
  | go
  | signal (signaled : Bool)
  | report (now : Nat)
  deriving DecidableEq, Repr

/-- The client: stream and state, reconnect policy, the two flags, the connection whose sender the
write slot holds, the supervisor whose handle and exit signal are stored, every supervisor spawned,
the two threads, and whether a closing call has reported the close. Connections are numbered as their
supervisors are. -/
structure ClientRun where
  client : Client := {}
  mgr : ReconnectionManager
  shouldStop : Bool := false
  abort : Bool := false
  writeTxSlot : Option Nat := none
  supervisorHandle : Option Nat := none
  supervisorExitRx : Option Nat := none
  supervisors : List LoopAt := []
  connect : ConnectAt := .idle
  closer : CloseAt := .idle
  closed : Bool := false

namespace ClientRun

/-- `set_state`. -/
def setState (run : ClientRun) (connection : ConnectionState) (connect : ConnectAt) : ClientRun :=
  { run with client := { run.client with connection }, connect }

/-- A section `connect` runs on the stream. -/
def report (run : ClientRun) (result : Client × Outcome) (connect : ConnectAt) : ClientRun :=
  { run with client := result.1, connect }

variable (sh : Shared)

/-- A step of `connect`. Credentials that are not `valid` are refused with nothing changed, as a closed
client is; the gate is free, since only one thread connects. -/
def connectStep (run : ClientRun) (input : ConnectInput) : Option ClientRun :=
  match run.connect, input with
  | .idle, .begin valid =>
    some { run with connect := if run.client.connection.isClosed || !valid then .idle else .checked }
  | .checked, .go =>
    some { run with connect := if run.supervisorHandle.isSome then .idle else .admitted }
  | .admitted, .go => some (run.setState .connecting .announcing)
  | .announcing, .go => some (run.report (run.client.emit sh .connecting) .dialing)
  | .dialing, .dialed none => some { run with connect := .dialed }
  | .dialing, .dialed (some info) => some { run with connect := .failing info }
  | .dialed, .go => some (run.report (run.client.emit sh .connected) .connected)
  | .connected, .go => some (run.setState .authenticating .starting)
  | .starting, .go => some (run.report (run.client.startConnection, {}) .handshaking)
  | .handshaking, .verdict (.authenticated data frames) =>
    some { run with connect := .accepted data frames }
  | .handshaking, .verdict (.rejected message data frames) =>
    some { run with connect := .rejecting message data frames }
  | .handshaking, .verdict (.failed info) => some { run with connect := .failing info }
  | .failing info, .go => some (run.setState .disconnected (.failed info))
  | .failed info, .go => some (run.report (run.client.emit sh (.error info)) .idle)
  | .rejecting message data frames, .go =>
    some (run.setState .disconnected (.unauthenticating message data frames))
  | .unauthenticating message data frames, .go =>
    some (run.report (run.client.unauthenticated sh message data frames) .idle)
  | .accepted data frames, .go =>
    some { run with
      writeTxSlot := some run.supervisors.length, connect := .installed data frames }
  | .installed data frames, .go => some (run.setState .connected (.authenticating data frames))
  | .authenticating data frames, .go =>
    some (run.report (run.client.authenticated sh data frames) .spawning)
  | .spawning, .spawned true =>
    some { run with supervisors := run.supervisors ++ [.reading none], connect := .storing }
  | .spawning, .spawned false => some { run with connect := .idle }
  | .storing, .go =>
    some { run with supervisorHandle := some (run.supervisors.length - 1), connect := .handing }
  | .handing, .go =>
    some { run with supervisorExitRx := some (run.supervisors.length - 1), connect := .idle }
  | _, _ => none

/-- The supervisor has exited. -/
def exited (run : ClientRun) (supervisor : Nat) : Bool :=
  match run.supervisors[supervisor]? with
  | some .ended => true
  | _ => false

/-- A step of `shutdown_with_timeout` or of `force_close`. The exit signal comes from a supervisor
that has exited, or the wait for it times out; with no signal to wait for the call goes on. -/
def closeStep (run : ClientRun) (input : CloseInput) : Option ClientRun :=
  match run.closer, input with
  | .idle, .shutdown => some { run with shouldStop := true, closer := .raised false }
  | .idle, .force => some { run with abort := true, closer := .aborting }
  | .aborting, .go => some { run with shouldStop := true, closer := .raised true }
  | .raised forced, .go => some { run with writeTxSlot := none, closer := .cleared forced }
  | .cleared false, .signal signaled =>
    if run.supervisorExitRx.all (fun supervisor => !signaled || run.exited supervisor) ∧
        (run.supervisorExitRx = none → signaled) then
      some { run with supervisorExitRx := none, closer := .waited signaled }
    else none
  | .waited signaled, .go =>
    some { run with
      supervisorHandle := none
      closer := .joining (if signaled then run.supervisorHandle else none) }
  | .joining supervisor, .go =>
    if supervisor.all run.exited then some { run with closer := .reporting false } else none
  | .cleared true, .go => some { run with supervisorHandle := none, closer := .dropped }
  | .dropped, .go => some { run with supervisorExitRx := none, closer := .reporting true }
  | .reporting forced, .report now =>
    let result :=
      if forced then run.client.clientClosed sh now 1006 "Force closed"
      else run.client.clientClosed sh now 1000 "Normal closure"
    some { run with client := result.1, closer := .idle, closed := true }
  | _, _ => none

/-- What the supervisor of a connection works on. -/
def loop (run : ClientRun) (connection : Nat) (pc : LoopAt) : LoopRun where
  client := run.client
  mgr := run.mgr
  stop := run.shouldStop
  abort := run.abort
  senderLive := run.writeTxSlot = some connection
  pc := pc

/-- The run after the supervisor of a connection moved. -/
def supervised (run : ClientRun) (connection : Nat) (loop : LoopRun) : ClientRun :=
  { run with
    client := loop.client
    mgr := loop.mgr
    writeTxSlot := if loop.senderLive then some connection else run.writeTxSlot
    supervisors := run.supervisors.set connection loop.pc }

@[simp] theorem supervised_supervisors (run : ClientRun) (connection : Nat) (loop : LoopRun) :
    (run.supervised connection loop).supervisors = run.supervisors.set connection loop.pc := rfl

@[simp] theorem supervised_shouldStop (run : ClientRun) (connection : Nat) (loop : LoopRun) :
    (run.supervised connection loop).shouldStop = run.shouldStop := rfl

/-- A step of the supervisor of a connection. -/
def superviseStep (run : ClientRun) (connection : Nat) (call : SupervisorCall) : Option ClientRun :=
  match run.supervisors[connection]? with
  | some pc =>
    if call.ofThread then
      ((run.loop connection pc).supervisorStep sh call).map (run.supervised connection)
    else none
  | none => none

end ClientRun

/-- A step of the thread that connects, of the one that closes, of a supervisor or of the consumer. -/
inductive ClientCall where
  | connect (input : ConnectInput)
  | close (input : CloseInput)
  | supervise (connection : Nat) (call : SupervisorCall)
  | pop

def ClientRun.step (sh : Shared) (run : ClientRun) : ClientCall → Option ClientRun
  | .connect input => run.connectStep sh input
  | .close input => run.closeStep sh input
  | .supervise connection call => run.superviseStep sh connection call
  | .pop => run.client.stream.pop.map fun read =>
    { run with client := { run.client with stream := read.2 } }

/-- A client just built, in every order of steps. -/
def clientRuns (sh : Shared) (config : ReconnectionConfig) : StepMachine ClientRun ClientCall where
  start := fun run => run = { mgr := .new config }
  step := ClientRun.step sh

end FugleMarketdata
