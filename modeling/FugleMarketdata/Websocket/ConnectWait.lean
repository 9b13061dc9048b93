/-
**Waiting for a connection.** `core/src/websocket/aio/connect_wait.rs` and `wait_connected` of
`aio/client.rs`, beside the client of `AioConnect.lean`: what `connect()`, the dispatch task and a closing
call do to the flags and to the waiting callers, and the replay of a reconnected connection.

A wake-up reaches every caller registered by then. Each read of `wait_connected` is a step of its own.

* `ConnectWaiters` — the flags;
* `Waiter`, `WaitRun.waitStep` — a caller of `wait_connected`;
* `WaitRun.connectStep`, `WaitRun.taskStep`, `WaitRun.closeStep` — what the parties do besides;
* `waitRuns` — the client with any number of waiting callers, in every order, from its construction.
-/

import FugleMarketdata.Errors
import FugleMarketdata.Websocket.AioConnect
import FugleMarketdata.Websocket.Protocol

namespace FugleMarketdata

open StepMachines StepMachine

/-! ### The flags -/

/-- How an automatic reconnect ended without reconnecting. -/
inductive ReconnectEnd where
  | maxAttempts (attempts : Nat)
  | rejected (message : String)
  deriving DecidableEq, Repr

/-- The error a waiting `connect()` returns for this end. -/
def ReconnectEnd.intoError : ReconnectEnd → Errors.MarketDataError
  | maxAttempts attempts => .reconnectFailed attempts
  | rejected message => .authError message none

/-- Shared by the client and its dispatch task: whether an automatic reconnect is in progress, and how the
last one ended, if it gave up. -/
structure ConnectWaiters where
  reconnecting : Bool := false
  end_ : Option ReconnectEnd := none
  deriving DecidableEq, Repr

namespace ConnectWaiters

/-- The dispatch loop lost its connection: a reconnect may follow. -/
def reconnectStarted (_ : ConnectWaiters) : ConnectWaiters := { reconnecting := true, end_ := none }

/-- A fresh `connect()` is starting: no reconnect is in progress. -/
def freshConnect (_ : ConnectWaiters) : ConnectWaiters := { reconnecting := false, end_ := none }

/-- Record how the reconnect gave up. -/
def setEnd (waiters : ConnectWaiters) (ending : ReconnectEnd) : ConnectWaiters :=
  { waiters with end_ := some ending }

end ConnectWaiters

/-! ### The parties -/

/-- Where a caller of `wait_connected` is, named by what it reads next. -/
inductive WaitAt where
  | idle
  | stopping
  | state
  | reconnecting
  | ending
  | gate
  | task
  | waiting
  | returned (result : Except Errors.MarketDataError Unit)
  deriving DecidableEq

/-- A caller of `wait_connected`, and whether it has been woken since it registered. `settled` is a mark no
code reads: at some moment since it read the state, the connection was there and its replay over. -/
structure Waiter where
  pc : WaitAt := .idle
  notified : Bool := false
  settled : Bool := false

/-- Where the dispatch task is in `reconnect_finished` and its return, named by what comes next. -/
inductive FinishAt where
  | none
  | clearing
  | waking
  | returning
  deriving DecidableEq, Repr

/-- What a `connect()` that returns has yet to do: release the gate, then wake the waiters. -/
inductive LeaveAt where
  | none
  | gate
  | wake
  deriving DecidableEq, Repr

/-- What became of a frame of a replay: put on the writer's queue, or not, and whether that was reported. -/
inductive FrameOutcome where
  | queued (text : String)
  | failed (reported : Bool)
  deriving DecidableEq, Repr

/-- The replay of a reconnected connection: the frames dealt with and those left. -/
structure ReplayRecord where
  connection : Nat
  done : List (ResubscribeFrame × FrameOutcome) := []
  rest : List ResubscribeFrame

/-- `connect()` holds the gate. -/
def AioConnectAt.holdsGate : AioConnectAt → Bool
  | .idle | .joining => false
  | _ => true

/-- The connection the client has: the one `connect()` has installed, or the one the dispatch task reads. -/
def AioRun.current (run : AioRun) : Option Nat :=
  match run.connect with
  | .authenticating connection _ _ | .spawning connection => some connection
  | _ =>
    match run.task with
    | .reading _ | .deciding _ _ | .reporting _ _ _ => some run.taskConnection
    | _ => none

/-- The sink, the sender and the writer of a connection are in their slots. -/
def Outbox.installed (box : Outbox) (connection : Nat) : Bool :=
  box.wsSink = some connection && box.writeTx = some connection && box.writerHandle = some connection

/-- The client with the flags and those who wait: whether the dispatch task has begun the reconnect of the
connection it lost, what it and the `connect()` that returns have yet to do, the calls of `connect()` that
found it running and have not returned, whether a closing call has yet to wake the waiters, and the replay
of the last reconnect. -/
structure WaitRun where
  base : AioRun
  waiters : ConnectWaiters := {}
  begun : Bool := false
  finish : FinishAt := .none
  leaving : LeaveAt := .none
  joined : Nat := 0
  unwoken : Bool := false
  replay : Option ReplayRecord := none
  callers : Nat → Waiter := fun _ => {}

namespace WaitRun

/-- The task of a handle has not finished. -/
def taskRunning (run : WaitRun) (handle : Nat) : Bool :=
  handle + 1 = run.base.spawned && (!run.base.task.isOver || run.finish ≠ .none)

/-- `dispatch_task_running`. -/
def dispatchTaskRunning (run : WaitRun) : Bool := run.base.dispatchHandle.any run.taskRunning

/-- `is_busy`. -/
def gateBusy (run : WaitRun) : Bool := run.base.connect.holdsGate || run.leaving = .gate

/-- `notify_waiters`. -/
def wake (run : WaitRun) : WaitRun :=
  { run with callers := fun caller => { run.callers caller with notified := true } }

/-- The client has a connection whose writer is installed and whose replay, if it has one, is over. -/
def isSettled (run : WaitRun) : Bool :=
  run.base.current.any fun connection =>
    run.base.outbox.installed connection &&
      run.replay.all fun replay => replay.connection ≠ connection || replay.rest.isEmpty

/-- Every caller marks that the client is settled. -/
def mark (run : WaitRun) : WaitRun :=
  { run with callers := fun caller =>
      { run.callers caller with settled := (run.callers caller).settled || run.isSettled } }

/-! ### `wait_connected` -/

/-- A caller moves on. -/
def moveCaller (run : WaitRun) (caller : Nat) (waiter : Waiter) : WaitRun :=
  { run with callers := Function.update run.callers caller waiter }

/-- A step of a caller of `wait_connected`. The handle of the dispatch task is read under its lock. -/
def waitStep (run : WaitRun) (caller : Nat) : Option WaitRun :=
  let waiter := run.callers caller
  let goto (pc : WaitAt) : Option WaitRun := some (run.moveCaller caller { waiter with pc })
  match waiter.pc with
  | .idle => some (run.moveCaller caller { waiter with pc := .stopping, notified := false })
  | .stopping =>
    goto (if run.base.shutdownRequested then .returned (.error .connectionAborted) else .state)
  | .state =>
    let pc : WaitAt := match run.base.client.connection with
      | .connected => .reconnecting
      | .closed _ _ _ => .ending
      | _ => .gate
    some (run.moveCaller caller { waiter with pc, settled := false })
  | .reconnecting => goto (if run.waiters.reconnecting then .gate else .returned (.ok ()))
  | .ending =>
    goto (.returned (.error ((run.waiters.end_.map ReconnectEnd.intoError).getD .clientClosed)))
  | .gate => goto (if run.gateBusy then .waiting else .task)
  | .task =>
    if run.base.closer.locksDispatch then none
    else goto (if run.dispatchTaskRunning then .waiting
      else .returned (.error (.connectionError "Not connected; call connect() first")))
  | .waiting =>
    if waiter.notified then
      some (run.moveCaller caller { waiter with pc := .stopping, notified := false })
    else none
  | .returned _ => none

variable (sh : Shared) (frameRequest : WebSocketRequest → Except ErrorInfo String)

/-! ### `connect` -/

/-- A step of `connect`. A call that finds the dispatch task running has yet to return; the gate is held
from the claim until the call returns, and the waiters are woken last. -/
def connectStep (run : WaitRun) (input : AioConnectInput) : Option WaitRun :=
  if run.leaving ≠ .none then none
  else match run.base.connect, input with
  | .joining, .go | .claimed, .go =>
    if run.base.closer.locksDispatch = false ∧ run.dispatchTaskRunning then
      some { run with base := { run.base with connect := .idle }, joined := run.joined + 1 }
    else (run.base.connectStep sh input).map fun base => { run with base }
  | .conflict, input =>
    (run.base.connectStep sh input).map fun base =>
      { run with
        base
        waiters := run.waiters.freshConnect
        leaving := if base.connect.holdsGate then .none else .gate }
  | connect, input =>
    (run.base.connectStep sh input).map fun base =>
      { run with
        base
        leaving := if connect.holdsGate && !base.connect.holdsGate then .gate else .none }

/-- The call that returns releases the gate, then wakes the waiters. -/
def leaveStep (run : WaitRun) : Option WaitRun :=
  match run.leaving with
  | .none => none
  | .gate => some { run with leaving := .wake }
  | .wake => some { run.wake with leaving := .none }

/-- A call that found the dispatch task running returns. -/
def joinedStep (run : WaitRun) : Option WaitRun :=
  if 0 < run.joined then some { run.wake with joined := run.joined - 1 } else none

/-! ### The dispatch task -/

/-- What the task has yet to do after a step of its loop: the loop ended, or a reconnect is done. A task
that was dropped does nothing. -/
def finishAfter (task : LoopAt) (input : TaskInput) (base : AioRun) : FinishAt :=
  match task, input with
  | _, .drop => .none
  | .replaying [], _ => .clearing
  | _, _ => if base.task.isOver then .clearing else .none

/-- A step of the dispatch task's loop. -/
def loopStep (run : WaitRun) (input : TaskInput) : Option WaitRun :=
  (run.base.taskStep sh input).map fun base =>
    { run with base, begun := false, finish := finishAfter run.base.task input base }

/-- A step of the dispatch task. The end of a reconnect is recorded before the state is `Closed`. -/
def taskStep (run : WaitRun) (input : TaskInput) : Option WaitRun :=
  if run.finish ≠ .none then none
  else match run.base.task, input with
  | .returned _, .retire => run.loopStep sh input
  | .returned _, .go _ =>
    if run.begun || run.base.shutdownRequested then run.loopStep sh input else none
  | .exhausted _, .go _ =>
    { run with waiters := run.waiters.setEnd (.maxAttempts run.base.mgr.currentAttempt) }.loopStep sh input
  | .givingUp _ message, .go _ =>
    { run with waiters := run.waiters.setEnd (.rejected message) }.loopStep sh input
  | .opened, .installed _ => none
  | .replaying _, .go _ =>
    if run.replay.all fun replay => replay.rest.isEmpty then run.loopStep sh input else none
  | _, _ => run.loopStep sh input

/-- The connection is lost, its writer retired and no shutdown requested: the reconnect begins. -/
def beginStep (run : WaitRun) : Option WaitRun :=
  match run.base.task with
  | .returned _ =>
    if run.base.retired && !run.begun && !run.base.shutdownRequested && run.finish = .none then
      some { run with waiters := run.waiters.reconnectStarted, begun := true }
    else none
  | _ => none

/-- The writer of a reconnected connection is started, and the stored subscriptions are read. -/
def installStep (run : WaitRun) (frames : List ResubscribeFrame) : Option WaitRun :=
  match run.base.task with
  | .opened =>
    (run.base.taskStep sh (.installed [])).map fun base =>
      { run with base, replay := some { connection := run.base.outbox.opened, rest := frames } }
  | _ => none

/-- A frame of the replay could not be queued. -/
def frameFails (run : WaitRun) (replay : ReplayRecord) (frame : ResubscribeFrame)
    (rest : List ResubscribeFrame) (info : ErrorInfo) : WaitRun :=
  let (reported, client, _) := run.base.client.emitUnlessClosed sh
    (ResubscribeFailure.event { label := frame.label, info })
  { run with
    base := { run.base with client }
    replay := some { replay with done := replay.done ++ [(frame, .failed reported)], rest } }

/-- `replay_subscriptions`, one frame. A send waits while the queue is full. -/
def replayStep (run : WaitRun) : Option WaitRun :=
  match run.base.task, run.replay with
  | .replaying _, some replay =>
    match replay.rest with
    | [] => none
    | frame :: rest =>
      match frameRequest frame.frame with
      | .error info => some (run.frameFails sh replay frame rest info)
      | .ok text =>
        if (run.base.outbox.connections replay.connection).writer.isFinished then
          some (run.frameFails sh replay frame rest WRITER_GONE)
        else
          (run.base.outbox.put replay.connection text).map fun outbox =>
            { run with
              base := { run.base with outbox }
              replay := some { replay with done := replay.done ++ [(frame, .queued text)], rest } }
  | _, _ => none

/-- `reconnect_finished`, and the return of a task whose loop has ended. -/
def finishStep (run : WaitRun) : Option WaitRun :=
  match run.finish with
  | .none => none
  | .clearing =>
    some { run with waiters := { run.waiters with reconnecting := false }, finish := .waking }
  | .waking =>
    some { run.wake with finish := if run.base.task.isOver then .returning else .none }
  | .returning => some { run with finish := .none }

/-! ### The closing calls -/

/-- The call goes on where the dispatch task is done with what it does after its loop. -/
def awaitsFinish : AioCloseAt → Bool
  | .writerDrained | .writerGone | .awaitingDispatch | .awaitingAbortedDispatch => true
  | _ => false

/-- A step of a closing call. It wakes the waiters once it has set the flag. -/
def closeStep (run : WaitRun) (input : AioCloseInput) : Option WaitRun :=
  if run.unwoken then none
  else if input = .go ∧ awaitsFinish run.base.closer ∧ run.finish ≠ .none then none
  else (run.base.closeStep sh input).map fun base =>
    { run with base, unwoken := base.shutdownRequested && !run.base.shutdownRequested }

/-- `request_shutdown` wakes the waiters. -/
def wakeStep (run : WaitRun) : Option WaitRun :=
  if run.unwoken then some { run.wake with unwoken := false } else none

end WaitRun

/-! ### The machine -/

/-- A step of a waiting caller, of the parties of the client, or of what they do for the waiters. -/
inductive WaitCall where
  | wait (caller : Nat)
  | connect (input : AioConnectInput)
  | leave
  | joined
  | task (input : TaskInput)
  | begin
  | install (frames : List ResubscribeFrame)
  | replay
  | finish
  | close (input : AioCloseInput)
  | wake
  | writer (connection : Nat) (input : RunWriterInput)
  | cloneSender
  | put (connection : Nat) (text : String)
  | dropSender (connection : Nat)
  | pop

namespace WaitRun

variable (sh : Shared) (frameRequest : WebSocketRequest → Except ErrorInfo String)

/-- A step of somebody the flags are nothing to. -/
def besideStep (run : WaitRun) (call : AioCall) : Option WaitRun :=
  (run.base.step sh call).map fun base => { run with base }

def move (run : WaitRun) : WaitCall → Option WaitRun
  | .wait caller => run.waitStep caller
  | .connect input => run.connectStep sh input
  | .leave => run.leaveStep
  | .joined => run.joinedStep
  | .task input => run.taskStep sh input
  | .begin => run.beginStep
  | .install frames => run.installStep sh frames
  | .replay => run.replayStep sh frameRequest
  | .finish => run.finishStep
  | .close input => run.closeStep sh input
  | .wake => run.wakeStep
  | .writer connection input => run.besideStep sh (.writer connection input)
  | .cloneSender => run.besideStep sh .cloneSender
  | .put connection text => run.besideStep sh (.put connection text)
  | .dropSender connection => run.besideStep sh (.dropSender connection)
  | .pop => run.besideStep sh .pop

def step (run : WaitRun) (call : WaitCall) : Option WaitRun := (run.move sh frameRequest call).map mark

end WaitRun

end FugleMarketdata
