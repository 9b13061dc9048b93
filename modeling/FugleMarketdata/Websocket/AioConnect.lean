/-
**The async client's `connect()` beside a call that closes the client.** `connect`,
`spawn_dispatch_task`, `shutdown_with_timeout` and `force_close` of `core/src/websocket/aio/client.rs`,
with the dispatch task, the writers and the callers that send.

`connecting` is locked by `connect()` from its first look at `shutdown_requested` until it returns, and
the closing call waits for it once it has set the flag. What comes before that lock, `connect()` does
beside the closing call.

* `AioRun.connectStep`, `AioRun.closeStep`, `AioRun.taskStep` — the two calls and the dispatch task, cut
  at every await and wherever another party may look;
* `aioRuns` — one caller of `connect`, one closing call, the dispatch task, the writers, the callers that
  send and the consumer, in every order, from the client's construction.
-/

import FugleMarketdata.Websocket.DispatchTask
import FugleMarketdata.Websocket.StartWriter

namespace FugleMarketdata

open StepMachines StepMachine

/-! ### The calls -/

/-- Where `connect` is, named by what comes next. It has the lock of `connecting` from `entered` on. -/
inductive AioConnectAt where
  | idle
  | joining
  | claimed
  | conflict
  | locking
  | entered
  | admitted
  | announcing
  | dialing
  | dialed
  | connected
  | starting
  | handshaking
  | failing (info : ErrorInfo)
  | failed (info : ErrorInfo)
  | rejecting (message : String) (data : Value) (frames : List WebSocketMessage)
  | unauthenticating (message : String) (data : Value) (frames : List WebSocketMessage)
  | accepted (data : Value) (frames : List WebSocketMessage)
  | installing (data : Value) (frames : List WebSocketMessage)
  | installed (connection : Nat) (data : Value) (frames : List WebSocketMessage)
  | authenticating (connection : Nat) (data : Value) (frames : List WebSocketMessage)
  | spawning (connection : Nat)
  | storing (handle : Nat)

namespace AioConnectAt

/-- The call has found the client not stopping, and has not returned. -/
def opens : AioConnectAt → Bool
  | idle | joining | claimed | conflict | locking | entered => false
  | _ => true

/-- The call has the lock of `connecting`. -/
def holds : AioConnectAt → Bool
  | entered => true
  | connect => connect.opens

/-- The call may still spawn a dispatch task. -/
def unspawned : AioConnectAt → Bool
  | storing _ => false
  | connect => connect.opens

/-- The connection whose failed write the call would receive. -/
def receives : AioConnectAt → Option Nat
  | installed connection _ _ | authenticating connection _ _ | spawning connection => some connection
  | _ => none

end AioConnectAt

/-- What the caller, the network and the shutdown wake-up do at a step of `connect`. -/
inductive AioConnectInput where
  | begin (valid : Bool)
  | go
  | conflict (now : Nat) (tls : Bool)
  | dialed (failure : Option ErrorInfo)
  | verdict (handshake : AuthHandshake)
  | woken

/-- Where the closing call is, named by the last step that is done, or by what it awaits. -/
inductive AioCloseAt where
  | idle
  | raised (forced : Bool)
  | waited (forced : Bool)
  | cleared (forced : Bool)
  -- `shutdown_with_timeout`
  | closingFrame
  | draining
  | awaitingWriter (connection : Nat)
  | writerDrained
  | awaitingDispatch
  | timedOut
  | awaitingAbortedWriter (connection : Nat)
  | writerGone
  | awaitingAbortedDispatch
  | drained
  -- `force_close`
  | dispatchAborted
  | retired
  | writerAborted
  | reporting (forced : Bool)
  | done (forced : Bool)
  deriving DecidableEq, Repr

namespace AioCloseAt

/-- The call has waited for a `connect` in progress. -/
def hasWaited : AioCloseAt → Bool
  | idle | raised _ => false
  | _ => true

/-- The call has dropped the sender from the write slot. -/
def hasCleared : AioCloseAt → Bool
  | idle | raised _ | waited _ | dispatchAborted | retired => false
  | _ => true

/-- The call has the lock of the dispatch task's handle while it awaits that task. -/
def locksDispatch : AioCloseAt → Bool
  | awaitingDispatch | awaitingAbortedDispatch => true
  | _ => false

end AioCloseAt

/-- What the caller and the clock do at a step of a closing call. -/
inductive AioCloseInput where
  | shutdown
  | force
  | go
  | timeout
  | report (now : Nat)
  deriving DecidableEq, Repr

/-- What a run of the dispatch task does at a step: a step of its loop, the failed write its writer
handed over, what it does with the writers, or being dropped. -/
inductive TaskInput where
  | go (input : Input)
  | writeFailed
  | retire
  | lock
  | start
  | installed (failures : List ResubscribeFailure)
  | woken
  | drop

/-- What was reported of a connection: a write that failed, or that it was lost; and that the client was
closed. -/
inductive Report where
  | writeFailed (connection : Nat)
  | lost (connection : Nat)
  | closed
  deriving DecidableEq, Repr

/-- The client: stream and state, reconnect policy, the flag, the slots of the writers, the two calls,
and the dispatch task with the connection it reads, the one `start_writer` has just given it, whether it
has retired its writer and whether it was aborted. Dispatch tasks are numbered; `task` is the last one
spawned, each was over when the next was spawned, and the stored handle is some task's. -/
structure AioRun where
  client : Client := {}
  mgr : ReconnectionManager
  shutdownRequested : Bool := false
  outbox : Outbox := {}
  connect : AioConnectAt := .idle
  closer : AioCloseAt := .idle
  task : LoopAt := .ended
  taskConnection : Nat := 0
  incoming : Option Nat := none
  retired : Bool := false
  taskAborted : Bool := false
  spawned : Nat := 0
  dispatchHandle : Option Nat := none
  reports : List Report := []

namespace AioRun

/-- `set_state`. -/
def setState (run : AioRun) (connection : ConnectionState) (connect : AioConnectAt) : AioRun :=
  { run with client := { run.client with connection }, connect }

/-- A section `connect` runs on the stream. -/
def report (run : AioRun) (result : Client × Outcome) (connect : AioConnectAt) : AioRun :=
  { run with client := result.1, connect }

/-- The task of a handle has not finished. -/
def taskRunning (run : AioRun) (handle : Nat) : Bool :=
  handle + 1 = run.spawned && !run.task.isOver

/-- Somebody would still receive the failed write of a connection. -/
def receives (run : AioRun) (connection : Nat) : Bool :=
  run.connect.receives = some connection ||
    !run.task.isOver && (run.taskConnection = connection || run.incoming = some connection)

variable (sh : Shared)

/-! ### `connect` -/

/-- A step of `connect`. Credentials that are not `valid` are refused with nothing changed, as a closed
client is; a call that finds a dispatch task running waits for it or is refused. The gate is free, since
only one caller connects. -/
def connectStep (run : AioRun) (input : AioConnectInput) : Option AioRun :=
  match run.connect, input with
  | .idle, .begin valid =>
    some { run with connect := if run.client.connection.isClosed || !valid then .idle else .joining }
  | .joining, .go =>
    if run.closer.locksDispatch then none
    else some { run with connect := if run.dispatchHandle.any run.taskRunning then .idle else .claimed }
  | .claimed, .go =>
    if run.closer.locksDispatch then none
    else some { run with connect := if run.dispatchHandle.any run.taskRunning then .idle else .conflict }
  | .conflict, .conflict now tls =>
    some (run.report (run.client.callerConnecting sh now) (if tls then .locking else .idle))
  | .locking, .go => some { run with connect := .entered }
  | .entered, .go => some { run with connect := if run.shutdownRequested then .idle else .admitted }
  | .admitted, .go => some (run.setState .connecting .announcing)
  | .announcing, .go => some (run.report (run.client.emit sh .connecting) .dialing)
  | .dialing, .dialed failure =>
    some { run with
      connect :=
        if run.shutdownRequested then .idle
        else match failure with
          | none => .dialed
          | some info => .failing info }
  | .dialing, .woken | .handshaking, .woken =>
    if run.shutdownRequested then some { run with connect := .idle } else none
  | .dialed, .go => some (run.report (run.client.emit sh .connected) .connected)
  | .connected, .go => some (run.setState .authenticating .starting)
  | .starting, .go => some (run.report (run.client.startConnection, {}) .handshaking)
  | .handshaking, .verdict handshake =>
    some { run with
      connect :=
        if run.shutdownRequested then .idle
        else match handshake with
          | .authenticated data frames => .accepted data frames
          | .rejected message data frames => .rejecting message data frames
          | .failed info => .failing info }
  | .failing info, .go => some (run.setState .disconnected (.failed info))
  | .failed info, .go => some (run.report (run.client.emit sh (.error info)) .idle)
  | .rejecting message data frames, .go =>
    some (run.setState .disconnected (.unauthenticating message data frames))
  | .unauthenticating message data frames, .go =>
    some (run.report (run.client.unauthenticated sh message data frames) .idle)
  | .accepted data frames, .go =>
    (run.outbox.lockWriteTx .connect).map fun outbox =>
      { run with outbox, connect := .installing data frames }
  | .installing data frames, .go =>
    run.outbox.advance.map fun outbox =>
      { run with
        outbox
        connect :=
          if outbox.starting = none then .installed run.outbox.opened data frames
          else .installing data frames }
  | .installed connection data frames, .go =>
    some (run.setState .connected (.authenticating connection data frames))
  | .authenticating connection data frames, .go =>
    some (run.report (run.client.authenticated sh data frames) (.spawning connection))
  | .spawning connection, .go =>
    some { run with
      task := .reading none
      taskConnection := connection
      incoming := none
      retired := false
      taskAborted := false
      spawned := run.spawned + 1
      connect := .storing run.spawned }
  | .storing handle, .go =>
    if run.closer.locksDispatch then none
    else some { run with dispatchHandle := some handle, connect := .idle }
  | _, _ => none

/-! ### The closing calls -/

/-- `abort` on a dispatch task's handle. -/
def abortTask (run : AioRun) (handle : Nat) : AioRun :=
  if handle + 1 = run.spawned then { run with taskAborted := true } else run

/-- A closing call takes the handle of the dispatch task and aborts it, and awaits it where it still
runs. -/
def takeDispatch (run : AioRun) (awaiting next : AioCloseAt) : AioRun :=
  match run.dispatchHandle with
  | some handle =>
    { run.abortTask handle with
      dispatchHandle := none, closer := if run.taskRunning handle then awaiting else next }
  | none => { run with closer := next }

/-- A closing call reports the close. -/
def reportClose (now : Nat) (forced : Bool) (run : AioRun) : AioRun :=
  let result :=
    if forced then run.client.clientClosed sh now 1006 "Force closed"
    else run.client.clientClosed sh now 1000 "Normal closure"
  { run with
    client := result.1
    closer := .done forced
    reports :=
      run.reports ++ if run.client.stream.closeReported then [] else [.closed] }

/-- A step of `shutdown_with_timeout` or of `force_close`. What the drain budget bounds ends in a
`timeout`; the handle it took by then is gone with it. -/
def closeStep (run : AioRun) (input : AioCloseInput) : Option AioRun :=
  match run.closer, input with
  | .idle, .shutdown => some { run with shutdownRequested := true, closer := .raised false }
  | .idle, .force => some { run with shutdownRequested := true, closer := .raised true }
  | .raised forced, .go =>
    if run.connect.holds then none else some { run with closer := .waited forced }
  -- the sender is dropped, and the Close frame sent where there is a sink
  | .waited false, .go =>
    run.outbox.clearWriteTx.map fun outbox => { run with outbox, closer := .cleared false }
  | .cleared false, .go =>
    if run.outbox.sinkHolder = none then
      match run.outbox.wsSink with
      | some _ =>
        some { run with
          outbox := { run.outbox with sinkHolder := some .closer }, closer := .closingFrame }
      | none => some { run with closer := .draining }
    else none
  | .closingFrame, .go =>
    some { run with outbox := { run.outbox with sinkHolder := none }, closer := .draining }
  -- both tasks are awaited, within the budget
  | .draining, .go =>
    some { run with
      outbox := { run.outbox with writerHandle := none }
      closer :=
        match run.outbox.writerHandle with
        | some connection => .awaitingWriter connection
        | none => .writerDrained }
  | .awaitingWriter connection, .go =>
    if (run.outbox.connections connection).writer.isFinished then
      some { run with closer := .writerDrained }
    else none
  | .writerDrained, .go =>
    some { run with
      dispatchHandle := none
      closer := if run.dispatchHandle.any run.taskRunning then .awaitingDispatch else .drained }
  | .awaitingDispatch, .go | .awaitingAbortedDispatch, .go =>
    if run.task.isOver then some { run with closer := .drained } else none
  | .draining, .timeout | .awaitingWriter _, .timeout | .writerDrained, .timeout
  | .awaitingDispatch, .timeout => some { run with closer := .timedOut }
  -- what is left is aborted and awaited
  | .timedOut, .go =>
    some (match run.outbox.writerHandle with
      | some connection =>
        { run with
          outbox := { run.outbox.abort connection with writerHandle := none }
          closer := .awaitingAbortedWriter connection }
      | none => { run with closer := .writerGone })
  | .awaitingAbortedWriter connection, .go =>
    if (run.outbox.connections connection).writer.isFinished then
      some { run with closer := .writerGone }
    else none
  | .writerGone, .go => some (run.takeDispatch .awaitingAbortedDispatch .drained)
  | .drained, .go =>
    run.outbox.clearSink.map fun outbox => { run with outbox, closer := .reporting false }
  -- nothing is awaited
  | .waited true, .go => some (run.takeDispatch .dispatchAborted .dispatchAborted)
  | .dispatchAborted, .go => some { run with outbox := run.outbox.retire, closer := .retired }
  | .retired, .go =>
    run.outbox.clearWriteTx.map fun outbox => { run with outbox, closer := .cleared true }
  | .cleared true, .go =>
    some (match run.outbox.writerHandle with
      | some connection =>
        { run with
          outbox := { run.outbox.abort connection with writerHandle := none }
          closer := .writerAborted }
      | none => { run with closer := .writerAborted })
  | .writerAborted, .go =>
    run.outbox.clearSink.map fun outbox => { run with outbox, closer := .reporting true }
  | .reporting forced, .report now => some (run.reportClose sh now forced)
  | _, _ => none

/-! ### The dispatch task and the writers -/

/-- What the dispatch task works on. -/
def loop (run : AioRun) : LoopRun where
  client := run.client
  mgr := run.mgr
  stop := run.shutdownRequested
  pc := run.task

/-- What reporting an end of the connection reports: nothing of a failed write once the close has been
reported, and no loss that was reported before. -/
def endReports (run : AioRun) (ending : Ending) : List Report :=
  let stream := run.client.stream
  let lost := if stream.disconnectClaimed then [] else [.lost run.taskConnection]
  match ending with
  | .peerClose _ _ | .eof => lost
  | .readFailed _ _ | .silent _ => if stream.closeReported then [] else lost
  | .writeFailed _ _ => if stream.closeReported then [] else .writeFailed run.taskConnection :: lost

/-- What a step of the dispatch task's loop reports. -/
def taskReports (run : AioRun) : List Report :=
  match run.task with
  | .reporting _ ending _ => run.endReports ending
  | _ => []

/-- A step of the dispatch task's loop that leaves the writers alone. -/
def taskLoop (run : AioRun) (input : Input) : Option AioRun :=
  (run.loop.dispatchStep sh (.task input)).map fun loop =>
    { run with
      client := loop.client
      mgr := loop.mgr
      task := loop.pc
      reports := run.reports ++ run.taskReports }

/-- A shutdown wakes the task here: it ends. -/
def wakes : LoopAt → Bool
  | .sleeping _ | .dialing _ | .handshaking _ => true
  | _ => false

/-- A step of the dispatch task. The frames a new connection's replay queues are put by a caller that
holds the sender `start_writer` returned, as the task's own probes and cancels are. -/
def taskStep (run : AioRun) (input : TaskInput) : Option AioRun :=
  match run.task, input with
  | .reading _, .writeFailed =>
    match (run.outbox.connections run.taskConnection).handed with
    | some failure => run.taskLoop sh (.ending (.writeFailed failure.error failure.text))
    | none => none
  | .reading _, .go (.ending (.writeFailed _ _)) => none
  -- the writer is retired while its failed write is still received
  | .returned _, .retire =>
    if run.retired then none else some { run with outbox := run.outbox.retire, retired := true }
  | .returned _, .go input => if run.retired then run.taskLoop sh input else none
  -- the writer of a new connection, unless shutdown was requested
  | .opened, .lock =>
    (run.outbox.lockWriteTx .dispatch).map fun outbox =>
      if run.shutdownRequested then { run with mgr := run.mgr.reset, task := .ended }
      else { run with outbox, mgr := run.mgr.reset }
  | .opened, .start =>
    if run.outbox.startAt = some .spawn then none
    else run.outbox.advance.map fun outbox => { run with outbox }
  | .opened, .installed failures =>
    if run.outbox.startAt = some .spawn then
      some { run with
        outbox := run.outbox.spawn
        incoming := some run.outbox.opened
        task := .replaying failures }
    else none
  | .opened, .go _ => none
  | .replaying [], .go (.tick _) =>
    match run.incoming with
    | some connection =>
      some (if run.shutdownRequested then { run with task := .dropped }
        else { run with
          task := .reading none, taskConnection := connection, incoming := none, retired := false })
    | none => none
  | _, .go input => run.taskLoop sh input
  | task, .woken =>
    if run.shutdownRequested ∧ wakes task then some { run with task := .ended } else none
  | task, .drop =>
    if run.taskAborted then
      task.cancelled.bind fun task =>
        match run.outbox.starting with
        | some (.dispatch, _) => run.outbox.abandon.map fun outbox => { run with outbox, task }
        | _ => some { run with task }
    else none
  | _, _ => none

/-- A step of a writer. -/
def writerStep (run : AioRun) (connection : Nat) (input : RunWriterInput) : Option AioRun :=
  match (run.outbox.connections connection).writer, input with
  | .failed failure, .go =>
    some { run with
      outbox := run.outbox.handOver connection failure (run.receives connection) }
  | .reporting failure, .go =>
    let (sent, client, _) := run.client.emitUnlessClosed sh
      (.error { failure.error with message := "WebSocket write error: " ++ failure.text })
    some { run with
      client
      outbox := run.outbox.finish connection
      reports := run.reports ++ if sent then [.writeFailed connection] else [] }
  | _, input => (run.outbox.writerStep connection input).map fun outbox => { run with outbox }

end AioRun

/-! ### The machine -/

/-- A step of the caller that connects, of the closing call, of the dispatch task, of a writer, of a
caller that sends or of the consumer. -/
inductive AioCall where
  | connect (input : AioConnectInput)
  | close (input : AioCloseInput)
  | task (input : TaskInput)
  | writer (connection : Nat) (input : RunWriterInput)
  | cloneSender
  | put (connection : Nat) (text : String)
  | dropSender (connection : Nat)
  | pop

def AioRun.step (sh : Shared) (run : AioRun) : AioCall → Option AioRun
  | .connect input => run.connectStep sh input
  | .close input => run.closeStep sh input
  | .task input => run.taskStep sh input
  | .writer connection input => run.writerStep sh connection input
  | .cloneSender => run.outbox.cloneSender.map fun outbox => { run with outbox }
  | .put connection text => (run.outbox.put connection text).map fun outbox => { run with outbox }
  | .dropSender connection =>
    (run.outbox.dropSender connection).map fun outbox => { run with outbox }
  | .pop => run.client.stream.pop.map fun read =>
    { run with client := { run.client with stream := read.2 } }

/-- A client just built, in every order of steps. -/
def aioRuns (sh : Shared) (config : ReconnectionConfig) : StepMachine AioRun AioCall where
  start := fun run => run = { mgr := .new config }
  step := AioRun.step sh

end FugleMarketdata
