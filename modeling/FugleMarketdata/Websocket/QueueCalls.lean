/-
**The operations of the queue, in any order.** Each operation of `core/src/websocket/stream_queue.rs`
takes the lock once and does a few things under it, one after the other.

* `Act`, `QueueCall.acts` — what an operation does under the lock;
* `QueueCall.stream_apply` — the critical sections are these programs;
* `Tally` — what the acts of a run had accepted and refused, and the drop reports they made;
* `queueRuns` — the operations and the consumer's pops, in any order, from a new queue.
-/

import FugleMarketdata.Lib.StepMachine
import FugleMarketdata.Websocket.StreamQueue

namespace FugleMarketdata

open StepMachines StepMachine

/-! ### Acts under the lock -/

/-- One thing an operation does under the lock. -/
inductive Act where
  | event (event : ConnectionEvent)
  | message (message : WebSocketMessage)
  | report (now : Nat) (force : Bool)
  | claim (willReconnect : Bool)
  | opens
  | givesUp
  | restart
  | stamp (reconnectedAt : Option Nat)

namespace Act

variable (sh : Shared)

def apply : Act → State × Outcome → State × Outcome
  | .event queued, work => State.pushEvent sh queued work
  | .message queued, work => State.pushMessageLocked sh queued work
  | .report now force, work => State.pushReport sh now force work
  | .claim willReconnect, (state, outcome) =>
    ({ state with
        disconnectClaimed := true
        closeReported := state.closeReported || !willReconnect
        open_ := false }, outcome)
  | .opens, (state, outcome) =>
    ({ state with disconnectClaimed := false, closeReported := false, open_ := true }, outcome)
  | .givesUp, (state, outcome) => ({ state with closeReported := true }, outcome)
  | .restart, (state, outcome) =>
    ({ state with open_ := false, messagesDropped := 0, dropReports := state.dropReports.reset },
      outcome)
  | .stamp reconnectedAt, (state, outcome) => ({ state with reconnectedAt }, outcome)

/-- The acts of an operation, one after the other. -/
def applyAll (acts : List Act) (work : State × Outcome) : State × Outcome :=
  acts.foldl (fun work act => act.apply sh work) work

@[simp] theorem applyAll_nil (work : State × Outcome) : applyAll sh [] work = work := rfl

@[simp] theorem applyAll_cons (act : Act) (rest : List Act) (work : State × Outcome) :
    applyAll sh (act :: rest) work = applyAll sh rest (act.apply sh work) := rfl

theorem applyAll_messages (frames : List WebSocketMessage) (work : State × Outcome) :
    applyAll sh (frames.map .message) work = State.pushFrames sh frames work :=
  List.foldl_map

end Act

/-! ### The operations -/

/-- An operation with its arguments and the clock reading it makes. `setState` and `useHandle` are the
writes made beside the queue: `connect()` sets the state, and another client shares the conflict
record. -/
inductive QueueCall where
  | emit (event : ConnectionEvent)
  | pushMessage (now : Nat) (message : WebSocketMessage)
  | startConnection
  | callerConnecting (now : Nat)
  | authenticated (data : Value) (frames : List WebSocketMessage)
  | unauthenticated (message : String) (data : Value) (frames : List WebSocketMessage)
  | reconnectStep (next : ConnectionState) (event : Option ConnectionEvent)
  | emitUnlessClosed (event : ConnectionEvent)
  | reconnectAuthenticated (now : Nat) (data : Value) (frames : List WebSocketMessage)
  | reconnectRejected (message : String) (data : Value) (frames : List WebSocketMessage)
  | connectionLost (now : Nat) (code : Option Nat) (reason : String) (intent : DisconnectIntent)
      (willReconnect : Bool)
  | connectionFailed (now : Nat) (event : ConnectionEvent) (reason : String) (willReconnect : Bool)
  | clientClosed (now : Nat) (code : Nat) (reason : String)
  | reconnectFailed (code : Option Nat) (attempts : Nat) (reason : String)
      (intent : DisconnectIntent)
  | setState (next : ConnectionState)
  | useHandle (conflict : ConflictRecord)

namespace QueueCall

variable (sh : Shared)

/-- The client after the operation. -/
def apply (client : Client) : QueueCall → Client
  | emit event => (client.emit sh event).1
  | pushMessage now message => (client.pushMessage sh now message).1
  | startConnection => client.startConnection
  | callerConnecting now => (client.callerConnecting sh now).1
  | authenticated data frames => (client.authenticated sh data frames).1
  | unauthenticated message data frames => (client.unauthenticated sh message data frames).1
  | reconnectStep next event => (client.reconnectStep sh next event).2.1
  | emitUnlessClosed event => (client.emitUnlessClosed sh event).2.1
  | reconnectAuthenticated now data frames => (client.reconnectAuthenticated sh now data frames).2.1
  | reconnectRejected message data frames => (client.reconnectRejected sh message data frames).2.1
  | connectionLost now code reason intent willReconnect =>
    (client.connectionLost sh now code reason intent willReconnect).1
  | connectionFailed now event reason willReconnect =>
    (client.connectionFailed sh now event reason willReconnect).2.1
  | clientClosed now code reason => (client.clientClosed sh now code reason).1
  | reconnectFailed code attempts reason intent =>
    (client.reconnectFailed sh code attempts reason intent).1
  | setState next => { client with connection := next }
  | useHandle conflict => { client with conflict }

/-- `push_disconnected`. -/
def loseActs (now : Nat) (disconnect : Disconnect) : List Act :=
  [.claim disconnect.willReconnect, .report now true, .event disconnect.event]

/-- `open_connection`. -/
def openActs (data : Value) (frames : List WebSocketMessage) : List Act :=
  .opens :: .event (.authenticated data (authFrame sh frames)) :: frames.map .message

/-- `push_rejection`. -/
def rejectActs (message : String) (data : Value) (frames : List WebSocketMessage) : List Act :=
  .event (.unauthenticated message data (authFrame sh frames)) :: frames.map .message

/-- The recorded close `caller_connecting` warns about. -/
def warnsAbout (now : Nat) (conflict : ConflictRecord) : Option Nat :=
  match conflict.closed with
  | some (elapsed, closedAt) =>
    if conflict.warned ∨ now - closedAt ≥ RECONNECT_CONFLICT_WINDOW then none else some elapsed
  | none => none

/-- What the operation does under the lock. -/
def acts (client : Client) : QueueCall → List Act
  | emit event => [.event event]
  | pushMessage now message =>
    if client.stream.open_ then [.message message, .report now false] else []
  | startConnection => [.restart]
  | callerConnecting now =>
    match warnsAbout now client.conflict with
    | some elapsed => [.event (.reconnectConflict (sh.seconds elapsed))]
    | none => []
  | authenticated data frames => .stamp none :: openActs sh data frames
  | unauthenticated message data frames => rejectActs sh message data frames
  | reconnectStep _ event =>
    if client.stream.closeReported then [] else event.toList.map .event
  | emitUnlessClosed event => if client.stream.closeReported then [] else [.event event]
  | reconnectAuthenticated now data frames =>
    if client.stream.closeReported then [] else .stamp (some now) :: openActs sh data frames
  | reconnectRejected message data frames =>
    if client.stream.closeReported then [] else rejectActs sh message data frames
  | connectionLost now code reason intent willReconnect =>
    if client.stream.disconnectClaimed then []
    else loseActs now { code, reason, intent, willReconnect }
  | connectionFailed now event reason willReconnect =>
    if client.stream.closeReported then []
    else if client.stream.disconnectClaimed then [.event event]
    else .event event :: loseActs now { code := none, reason, intent := .network, willReconnect }
  | clientClosed now code reason =>
    if client.stream.closeReported then []
    else loseActs now { code := some code, reason, intent := .client, willReconnect := false }
  | reconnectFailed _ attempts _ _ =>
    if client.stream.closeReported then [] else [.givesUp, .event (.reconnectFailed attempts)]
  | setState _ => []
  | useHandle _ => []

/-- **The sections are their programs**, as far as the queue is concerned. -/
theorem stream_apply (client : Client) (call : QueueCall) :
    (call.apply sh client).stream = (Act.applyAll sh (call.acts sh client) (client.stream, {})).1 := by
  cases call with
  | emit event => rfl
  | startConnection => rfl
  | setState next => rfl
  | useHandle conflict => rfl
  | pushMessage now message =>
    simp only [apply, acts, Client.pushMessage]
    cases opened : client.stream.open_ <;> simp [Client.onStream, Act.apply]
  | callerConnecting now =>
    simp only [apply, acts, Client.callerConnecting, warnsAbout]
    cases closed : client.conflict.closed with
    | none => rfl
    | some close =>
      obtain ⟨elapsed, closedAt⟩ := close
      simp only
      split <;> simp [Client.onStream, Act.apply]
  | authenticated data frames =>
    simp [apply, acts, openActs, Client.authenticated, Client.onStream, Act.apply,
      Act.applyAll_messages, State.openConnection]
  | unauthenticated message data frames =>
    simp [apply, acts, rejectActs, Client.unauthenticated, Client.onStream, Act.apply,
      Act.applyAll_messages, State.pushRejection]
  | reconnectStep next event =>
    simp only [apply, acts, Client.reconnectStep, Client.unlessClosed]
    cases closed : client.stream.closeReported <;> cases event <;>
      simp [Client.onStream, Act.apply]
  | emitUnlessClosed event =>
    simp only [apply, acts, Client.emitUnlessClosed, Client.unlessClosed]
    cases closed : client.stream.closeReported <;> simp [Client.onStream, Act.apply]
  | reconnectAuthenticated now data frames =>
    simp only [apply, acts, Client.reconnectAuthenticated, Client.unlessClosed]
    cases closed : client.stream.closeReported <;>
      simp [openActs, Client.onStream, Act.apply, Act.applyAll_messages, State.openConnection]
  | reconnectRejected message data frames =>
    simp only [apply, acts, Client.reconnectRejected, Client.unlessClosed]
    cases closed : client.stream.closeReported <;>
      simp [rejectActs, Client.onStream, Act.apply, Act.applyAll_messages, State.pushRejection]
  | connectionLost now code reason intent willReconnect =>
    simp only [apply, acts, Client.connectionLost, Client.loseConnection]
    cases claimed : client.stream.disconnectClaimed <;>
      simp [loseActs, Act.apply, State.pushDisconnected]
  | connectionFailed now event reason willReconnect =>
    simp only [apply, acts, Client.connectionFailed, Client.unlessClosed]
    cases closed : client.stream.closeReported <;> simp only [Bool.false_eq_true, if_false, if_true]
    · have same : (State.pushEvent sh event (client.stream, {})).1.disconnectClaimed =
          client.stream.disconnectClaimed := by
        obtain ⟨new, pushes, -⟩ := State.pushEvent_pushes sh event (client.stream, {})
        exact pushes.claimed
      simp only [Client.loseConnection, same]
      cases claimed : client.stream.disconnectClaimed <;>
        simp [loseActs, Act.apply, State.pushDisconnected]
    · rfl
  | clientClosed now code reason =>
    simp only [apply, acts, Client.clientClosed]
    cases closed : client.stream.closeReported with
    | false => simp [closed, loseActs, Client.onStream, Act.apply, State.pushDisconnected]
    | true =>
      have kept : (if client.connection.isClosed = true then client
          else { client with connection := .closed (some code) reason .client }).stream =
            client.stream := by
        split <;> rfl
      simp [kept, closed]
  | reconnectFailed code attempts reason intent =>
    simp only [apply, acts, Client.reconnectFailed]
    cases closed : client.stream.closeReported <;> simp [Client.onStream, Act.apply]

end QueueCall

/-! ### What the acts accept -/

namespace State

variable (sh : Shared)

def eventsFull (state : State) : Bool := decide (state.events ≥ sh.eventCapacity)

def messagesFull (state : State) : Bool :=
  sh.messageCapacity.any fun capacity => decide (state.messages ≥ capacity)

end State

/-- A drop report made: what it carries, and how many messages had been refused by then since the
connection started. -/
structure DropReport where
  dropped : Nat
  total : Nat
  refused : Nat
  deriving DecidableEq, Repr

/-- What was pushed: the items accepted, in order, the events refused, and since the last
`start_connection` how many messages were refused and which drop reports were made. -/
structure Tally where
  accepted : List StreamItem := []
  refusedEvents : List ConnectionEvent := []
  refused : Nat := 0
  reports : List DropReport := []

namespace Tally

variable (sh : Shared)

def event (state : State) (event : ConnectionEvent) (tally : Tally) : Tally :=
  if state.eventsFull sh then { tally with refusedEvents := tally.refusedEvents ++ [event] }
  else { tally with accepted := tally.accepted ++ [.event event] }

def message (state : State) (message : WebSocketMessage) (tally : Tally) : Tally :=
  if state.messagesFull sh then { tally with refused := tally.refused + 1 }
  else { tally with accepted := tally.accepted ++ [.message message] }

def report (state : State) (now : Nat) (force : Bool) (tally : Tally) : Tally :=
  match state.dropReports.takeDue now force with
  | (none, _) => tally
  | (some dropped, _) =>
    let made : DropReport :=
      { dropped, total := state.messagesDropped, refused := tally.refused }
    Tally.event sh state (.messagesDropped dropped state.messagesDropped)
      { tally with reports := tally.reports ++ [made] }

/-- What an act of a live receiver's queue adds. -/
def act (state : State) (tally : Tally) : Act → Tally
  | .event queued => tally.event sh state queued
  | .message queued => tally.message sh state queued
  | .report now force => tally.report sh state now force
  | .restart => { tally with refused := 0, reports := [] }
  | _ => tally

/-- What the acts of an operation add, each to what the one before left. -/
def acts : List Act → State × Outcome → Tally → Tally
  | [], _, tally => tally
  | act :: rest, work, tally => acts rest (act.apply sh work) (tally.act sh work.1 act)

/-- What every act keeps, an operation keeps. -/
theorem acts_keep {P : State → Tally → Prop}
    (keeps : ∀ act work tally, P work.1 tally → P (act.apply sh work).1 (tally.act sh work.1 act))
    (list : List Act) (work : State × Outcome) (tally : Tally) (before : P work.1 tally) :
    P (Act.applyAll sh list work).1 (acts sh list work tally) := by
  induction list generalizing work tally with
  | nil => exact before
  | cons act rest ih => exact ih _ _ (keeps act work tally before)

end Tally

/-! ### Runs -/

/-- A run: the client, the items the consumer has popped, each operation with the items it had
accepted, and the tally of the last operation. -/
structure QueueRun where
  client : Client := {}
  popped : List StreamItem := []
  log : List (QueueCall × List StreamItem) := []
  tally : Tally := {}

/-- Everything accepted since the start, in order. -/
def QueueRun.stream (run : QueueRun) : List StreamItem := run.log.flatMap Prod.snd

/-- An operation, or the consumer's pop. -/
inductive QueueStep where
  | call (call : QueueCall)
  | pop

def QueueRun.step (sh : Shared) (run : QueueRun) : QueueStep → Option QueueRun
  | .call call =>
    let fresh : Tally := { run.tally with accepted := [] }
    let tally := Tally.acts sh (call.acts sh run.client) (run.client.stream, {}) fresh
    some { run with
      client := call.apply sh run.client, log := run.log ++ [(call, tally.accepted)], tally }
  | .pop => run.client.stream.pop.map fun read =>
    { run with
      client := { run.client with stream := read.2 }, popped := run.popped ++ [read.1] }

/-- A new queue, whose receiver lives. -/
def queueRuns (sh : Shared) : StepMachine QueueRun QueueStep where
  start := fun run => run = {}
  step := QueueRun.step sh

end FugleMarketdata
