/-
**The reconnect-conflict warning.** Stream queues of any number of clients that share one
`ReconnectConflictHandle`, as the bindings make them: the evidence is one client's reconnect, its close, and
the `connect()` of the next.

* `sharedQueues` — the operations of `core/src/websocket/stream_queue.rs` on the queues, in any order;
* `Entry` — an operation made, and what of it the warning rests on;
* `RealConflict` — a caller closed a connection that was still open soon after the reconnect loop opened it, and
  connects again soon after that;
* `conflict_warned` — a `caller_connecting` warns exactly where this is so and no warning was given, so once.

The clock readings are arguments of the operations and need not even grow.
-/

import FugleMarketdata.Lib.Trace
import FugleMarketdata.Websocket.Accounting
import FugleMarketdata.Websocket.QueueBlocks
import FugleMarketdata.Websocket.StreamRun

namespace FugleMarketdata

open StepMachines StepMachine Traces

/-! ### Events that are refused -/

/-- `push_event` queues the event. -/
def State.takesEvent (sh : Shared) (state : State) : Bool :=
  state.receiverAlive && !state.eventsFull sh

theorem State.items_pushEvent {sh : Shared} {state : State} (takes : state.takesEvent sh = true)
    (event : ConnectionEvent) (outcome : Outcome) :
    (State.pushEvent sh event (state, outcome)).1.items = state.items ++ [.event event] := by
  simp only [takesEvent, eventsFull, Bool.and_eq_true, Bool.not_eq_true', decide_eq_false_iff_not] at takes
  obtain ⟨alive, room⟩ := takes
  simp only [pushEvent, alive, Bool.not_true, Bool.false_eq_true, if_false, if_neg room]

namespace Act

/-- The event an act hands to `push_event`. -/
def pushed (state : State) : Act → Option ConnectionEvent
  | .event queued => some queued
  | .report now force => (state.dropReports.takeDue now force).1.map fun dropped =>
      .messagesDropped dropped state.messagesDropped
  | _ => none

/-- No event of the acts is refused. -/
def unrefused (sh : Shared) : List Act → State × Outcome → Bool
  | [], _ => true
  | act :: rest, work =>
    ((act.pushed work.1).isNone || work.1.takesEvent sh) && unrefused sh rest (act.apply sh work)

end Act

/-! ### Runs -/

variable {ι : Type}

/-- An operation made on a queue: the client it found, and the items it queued. -/
structure Entry (ι : Type) where
  queue : ι
  call : QueueCall
  before : Client
  queued : List StreamItem

/-- An operation of a queue, or its consumer's. -/
inductive SharedOp where
  | call (call : QueueCall)
  | pop
  | dropReceiver

/-- The queues and the states beside them, the one record they share, and the operations made. -/
structure SharedRun (ι : Type) where
  streams : ι → State := fun _ => {}
  connections : ι → ConnectionState
  conflict : ConflictRecord := {}
  trace : List (Entry ι) := []

namespace SharedRun

/-- What an operation on a queue works on. -/
def client (run : SharedRun ι) (queue : ι) : Client where
  stream := run.streams queue
  connection := run.connections queue
  conflict := run.conflict

variable [DecidableEq ι] (sh : ι → Shared)

/-- One operation. No queue is given another record. -/
def step (run : SharedRun ι) : ι × SharedOp → Option (SharedRun ι)
  | (_, .call (.useHandle _)) => none
  | (queue, .call call) =>
    let before := run.client queue
    let after := call.apply (sh queue) before
    some {
      streams := Function.update run.streams queue after.stream
      connections := Function.update run.connections queue after.connection
      conflict := after.conflict
      trace := run.trace ++ [{ queue, call, before, queued := queuedBy before.stream after.stream }] }
  | (queue, .pop) => (run.streams queue).pop.map fun read =>
    { run with streams := Function.update run.streams queue read.2 }
  | (queue, .dropReceiver) =>
    some { run with streams := Function.update run.streams queue (run.streams queue).dropReceiver }

/-- The operation has no event refused. -/
def unrefused (run : SharedRun ι) : ι × SharedOp → Bool
  | (queue, .call call) =>
    Act.unrefused (sh queue) (call.acts (sh queue) (run.client queue)) (run.streams queue, {})
  | _ => true

end SharedRun

/-- New queues that share a new record. -/
def sharedQueues [DecidableEq ι] (sh : ι → Shared) : StepMachine (SharedRun ι) (ι × SharedOp) where
  start := fun run => ∃ connections, run = { connections }
  step := SharedRun.step sh

/-! ### What the warning rests on -/

namespace ConnectionEvent

def isReconnectConflict : ConnectionEvent → Bool
  | error info => info.code == RECONNECT_CONFLICT
  | _ => false

end ConnectionEvent

namespace Entry

/-- A connection is opened: by a caller's `authenticated`, or by the reconnect loop where the close is
unreported. -/
def opens (entry : Entry ι) : Bool :=
  match entry.call with
  | .authenticated .. => true
  | .reconnectAuthenticated .. => !entry.before.stream.closeReported
  | _ => false

/-- When the reconnect loop opened a connection. -/
def restores (entry : Entry ι) : Option Nat :=
  match entry.call with
  | .reconnectAuthenticated now .. => if entry.before.stream.closeReported then none else some now
  | _ => none

/-- The connection is no longer open: its `Disconnected` is reported, or another attempt starts. -/
def ends (entry : Entry ι) : Bool :=
  match entry.call with
  | .startConnection => true
  | call => call.claims entry.before

/-- When a caller closed a client whose close was unreported. -/
def closes (entry : Entry ι) : Option Nat :=
  match entry.call with
  | .clientClosed now .. => if entry.before.stream.closeReported then none else some now
  | _ => none

/-- When a caller connects. -/
def connects (entry : Entry ι) : Option Nat :=
  match entry.call with
  | .callerConnecting now => some now
  | _ => none

/-- A `caller_connecting` that queues the warning. -/
def warns (entry : Entry ι) : Bool :=
  entry.connects.isSome && entry.queued.any fun item =>
    match item with
    | .event event => event.isReconnectConflict
    | .message _ => false

theorem closes_of_connects {entry : Entry ι} {now : Nat} (connects : entry.connects = some now) :
    entry.closes = none := by
  obtain ⟨queue, call, client, queued⟩ := entry
  cases call with
  | callerConnecting now => rfl
  | _ => cases connects

end Entry

/-- The connection of the queue is still open, and the reconnect loop opened it. -/
def Restored (queue : ι) (openedAt : Nat) : List (Entry ι) → Prop :=
  Since (fun _ entry => entry.queue = queue ∧ entry.restores = some openedAt)
    fun entry => entry.queue = queue → entry.opens = false ∧ entry.ends = false

/-- The last close of a caller that found its client's close unreported ended such a connection soon after it
was opened, and no `caller_connecting` has used that close up. -/
def Pending (openedAt closedAt : Nat) : List (Entry ι) → Prop :=
  Since (fun earlier entry => entry.closes = some closedAt ∧ Restored entry.queue openedAt earlier ∧
      closedAt < openedAt + RECONNECT_CONFLICT_WINDOW)
    fun entry => entry.closes = none ∧ entry.connects = none

/-- A caller connects soon after such a close. -/
def RealConflict (earlier : List (Entry ι)) (entry : Entry ι) : Prop :=
  ∃ openedAt closedAt now, Pending openedAt closedAt earlier ∧ entry.connects = some now ∧
    now < closedAt + RECONNECT_CONFLICT_WINDOW

theorem restored_concat (queue : ι) (openedAt : Nat) (trace : List (Entry ι)) (entry : Entry ι) :
    Restored queue openedAt (trace ++ [entry]) ↔
      (entry.queue = queue ∧ entry.restores = some openedAt) ∨
        Restored queue openedAt trace ∧ (entry.queue = queue → entry.opens = false ∧ entry.ends = false) :=
  since_concat trace entry

theorem pending_concat (openedAt closedAt : Nat) (trace : List (Entry ι)) (entry : Entry ι) :
    Pending openedAt closedAt (trace ++ [entry]) ↔
      (entry.closes = some closedAt ∧ Restored entry.queue openedAt trace ∧
          closedAt < openedAt + RECONNECT_CONFLICT_WINDOW) ∨
        Pending openedAt closedAt trace ∧ entry.closes = none ∧ entry.connects = none :=
  since_concat trace entry

/-! ### What an operation does to it -/

namespace Act

variable (sh : Shared)

/-- When the reconnect loop authenticated, after an act. -/
def stamped (reconnectedAt : Option Nat) : Act → Option Nat
  | .stamp reconnectedAt => reconnectedAt
  | _ => reconnectedAt

theorem pushEvent_stamp (event : ConnectionEvent) (work : State × Outcome) :
    (State.pushEvent sh event work).1.reconnectedAt = work.1.reconnectedAt := by
  unfold State.pushEvent
  split
  split
  · rfl
  split <;> rfl

theorem apply_stamp (act : Act) (work : State × Outcome) :
    (act.apply sh work).1.reconnectedAt = act.stamped work.1.reconnectedAt := by
  cases act with
  | event queued => exact pushEvent_stamp sh queued work
  | message queued =>
    simp only [apply, State.pushMessageLocked, stamped]
    split
    · rfl
    split <;> rfl
  | report now force =>
    simp only [apply, State.pushReport, stamped]
    split
    · rfl
    · rw [pushEvent_stamp]
  | _ => rfl

theorem applyAll_stamp (acts : List Act) (work : State × Outcome) :
    (applyAll sh acts work).1.reconnectedAt = acts.foldl stamped work.1.reconnectedAt := by
  induction acts generalizing work with
  | nil => rfl
  | cons act rest ih => rw [applyAll_cons, ih, apply_stamp, List.foldl_cons]

@[simp] theorem stamped_messages (frames : List WebSocketMessage) (reconnectedAt : Option Nat) :
    (frames.map Act.message).foldl stamped reconnectedAt = reconnectedAt := by
  induction frames with
  | nil => rfl
  | cons frame rest ih => exact ih

end Act

namespace Entry

variable (sh : Shared) (entry : Entry ι)

/-- **What is open and who opened it**, after an operation. -/
theorem marks_after :
    (entry.call.apply sh entry.before).stream.open_ =
        (entry.opens || (entry.before.stream.open_ && !entry.ends)) ∧
      (entry.call.apply sh entry.before).stream.reconnectedAt =
        if entry.opens then entry.restores else entry.before.stream.reconnectedAt := by
  obtain ⟨queue, call, client, queued⟩ := entry
  simp only [QueueCall.stream_apply, Act.applyAll_open, Act.applyAll_stamp]
  cases call with
  | startConnection => simp [opens, ends, QueueCall.acts, Act.opened, Act.stamped]
  | authenticated data frames =>
    simp [opens, restores, QueueCall.acts, QueueCall.openActs, Act.opened, Act.stamped]
  | reconnectAuthenticated now data frames =>
    cases reported : client.stream.closeReported <;>
      simp [opens, ends, restores, reported, QueueCall.acts, QueueCall.openActs, QueueCall.claims,
        Act.opened, Act.stamped]
  | connectionLost now code reason intent willReconnect =>
    cases claimed : client.stream.disconnectClaimed <;>
      simp [opens, ends, claimed, QueueCall.acts, QueueCall.loseActs, QueueCall.claims,
        Act.opened, Act.stamped]
  | connectionFailed now event reason willReconnect =>
    cases reported : client.stream.closeReported <;> cases claimed : client.stream.disconnectClaimed <;>
      simp [opens, ends, reported, claimed, QueueCall.acts, QueueCall.loseActs,
        QueueCall.claims, Act.opened, Act.stamped]
  | clientClosed now code reason =>
    cases reported : client.stream.closeReported <;>
      simp [opens, ends, reported, QueueCall.acts, QueueCall.loseActs, QueueCall.claims,
        Act.opened, Act.stamped]
  | pushMessage now message =>
    cases accepts : client.stream.open_ <;>
      simp [opens, ends, accepts, QueueCall.acts, QueueCall.claims, Act.opened, Act.stamped]
  | callerConnecting now =>
    cases warned : QueueCall.warnsAbout now client.conflict <;>
      simp [opens, ends, warned, QueueCall.acts, QueueCall.claims, Act.opened, Act.stamped]
  | reconnectStep next event =>
    cases reported : client.stream.closeReported <;> cases event <;>
      simp [opens, ends, reported, QueueCall.acts, QueueCall.claims, Act.opened, Act.stamped]
  | _ =>
    cases reported : client.stream.closeReported <;>
      simp [opens, ends, reported, QueueCall.acts, QueueCall.rejectActs, QueueCall.claims,
        Act.opened, Act.stamped]

theorem restores_of_not_opens {entry : Entry ι} (still : entry.opens = false) : entry.restores = none := by
  obtain ⟨queue, call, client, queued⟩ := entry
  cases call with
  | reconnectAuthenticated now data frames =>
    have reported : client.stream.closeReported = true := by simpa [opens] using still
    simp [restores, reported]
  | _ => rfl

theorem restored_after (openedAt : Nat) :
    ((entry.call.apply sh entry.before).stream.open_ = true ∧
        (entry.call.apply sh entry.before).stream.reconnectedAt = some openedAt) ↔
      entry.restores = some openedAt ∨
        (entry.before.stream.open_ = true ∧ entry.before.stream.reconnectedAt = some openedAt) ∧
          entry.opens = false ∧ entry.ends = false := by
  obtain ⟨opened, stamp⟩ := entry.marks_after sh
  rw [opened, stamp]
  cases opens : entry.opens with
  | true => simp
  | false =>
    simp only [restores_of_not_opens opens, Bool.false_or, Bool.and_eq_true, Bool.not_eq_true',
      Bool.false_eq_true, if_false, reduceCtorEq, false_or, true_and]
    exact and_right_comm

/-- **The record** after an operation: a connect takes the close and may warn, a close that found the
client's close unreported leaves its own. -/
theorem conflict_after (own : ∀ handle, entry.call ≠ .useHandle handle) :
    (entry.call.apply sh entry.before).conflict =
      match entry.connects, entry.closes with
      | some now, _ =>
        { closed := none
          warned := entry.before.conflict.warned ||
            (QueueCall.warnsAbout now entry.before.conflict).isSome }
      | none, some now =>
        { entry.before.conflict with
          closed := ((entry.before.stream.reconnectedAt.map fun at_ => now - at_).filter fun elapsed =>
            entry.before.stream.open_ && decide (elapsed < RECONNECT_CONFLICT_WINDOW)).map (·, now) }
      | none, none => entry.before.conflict := by
  obtain ⟨queue, call, client, queued⟩ := entry
  cases call with
  | useHandle handle => exact absurd rfl (own handle)
  | callerConnecting now =>
    obtain ⟨stream, connection, closed, warned⟩ := client
    simp only [connects, QueueCall.apply, Client.callerConnecting, QueueCall.warnsAbout]
    cases closed with
    | none => simp
    | some close =>
      by_cases silent : warned = true ∨ now - close.2 ≥ RECONNECT_CONFLICT_WINDOW
      · simp [silent]
      · simp [silent, Client.onStream]
  | clientClosed now code reason =>
    simp only [connects, closes, QueueCall.apply, Client.clientClosed]
    cases reported : client.stream.closeReported with
    | false => simp [reported, Client.onStream]
    | true =>
      simp only [Bool.true_and, if_true]
      split <;> simp [reported]
  | pushMessage now message =>
    simp only [connects, closes, QueueCall.apply, Client.pushMessage]
    split <;> rfl
  | connectionLost now code reason intent willReconnect =>
    simp only [connects, closes, QueueCall.apply, Client.connectionLost, Client.loseConnection]
    split <;> rfl
  | connectionFailed now event reason willReconnect =>
    simp only [connects, closes, QueueCall.apply, Client.connectionFailed, Client.unlessClosed,
      Client.loseConnection]
    split
    · rfl
    · simp only
      split <;> rfl
  | reconnectStep next event =>
    simp only [connects, closes, QueueCall.apply, Client.reconnectStep, Client.unlessClosed]
    split <;> rfl
  | emitUnlessClosed event =>
    simp only [connects, closes, QueueCall.apply, Client.emitUnlessClosed, Client.unlessClosed]
    split <;> rfl
  | reconnectAuthenticated now data frames =>
    simp only [connects, closes, QueueCall.apply, Client.reconnectAuthenticated, Client.unlessClosed]
    split <;> rfl
  | reconnectRejected message data frames =>
    simp only [connects, closes, QueueCall.apply, Client.reconnectRejected, Client.unlessClosed]
    split <;> rfl
  | reconnectFailed code attempts reason intent =>
    simp only [connects, closes, QueueCall.apply, Client.reconnectFailed]
    split <;> rfl
  | _ => rfl

theorem warned_after (own : ∀ handle, entry.call ≠ .useHandle handle) :
    (entry.call.apply sh entry.before).conflict.warned = true ↔
      entry.before.conflict.warned = true ∨ ∃ now, entry.connects = some now ∧
        (QueueCall.warnsAbout now entry.before.conflict).isSome = true := by
  rw [conflict_after sh entry own]
  cases entry.connects with
  | some now => simp
  | none => cases entry.closes <;> simp

theorem warnsAbout_isSome_iff (now : Nat) (conflict : ConflictRecord) :
    (QueueCall.warnsAbout now conflict).isSome = true ↔ conflict.warned = false ∧
      ∃ elapsed closedAt, conflict.closed = some (elapsed, closedAt) ∧
        now < closedAt + RECONNECT_CONFLICT_WINDOW := by
  obtain ⟨closed, warned⟩ := conflict
  have window : 0 < RECONNECT_CONFLICT_WINDOW := by decide
  cases closed with
  | none => simp [QueueCall.warnsAbout]
  | some close =>
    obtain ⟨elapsed, closedAt⟩ := close
    simp only [QueueCall.warnsAbout, Option.some.injEq, Prod.mk.injEq]
    constructor
    · intro some
      split at some
      · cases some
      · rename_i silent
        obtain ⟨fresh, soon⟩ := not_or.mp silent
        exact ⟨Bool.eq_false_iff.mpr fresh, elapsed, closedAt, ⟨rfl, rfl⟩, by omega⟩
    · rintro ⟨fresh, _, _, ⟨rfl, rfl⟩, soon⟩
      rw [if_neg (by simp only [fresh, Bool.false_eq_true, false_or]; omega)]
      rfl

/-- **The warning is queued where the record says so**, if no event is refused. -/
theorem warns_iff
    (queued : entry.queued = queuedBy entry.before.stream (entry.call.apply sh entry.before).stream)
    (unrefused : Act.unrefused sh (entry.call.acts sh entry.before) (entry.before.stream, {}) = true) :
    entry.warns = true ↔ ∃ now, entry.connects = some now ∧
      (QueueCall.warnsAbout now entry.before.conflict).isSome = true := by
  obtain ⟨queue, call, client, items⟩ := entry
  simp only at queued
  cases call with
  | callerConnecting now =>
    have stream := QueueCall.stream_apply sh client (.callerConnecting now)
    simp only [QueueCall.acts] at stream unrefused
    cases about : QueueCall.warnsAbout now client.conflict with
    | none =>
      rw [about] at stream
      have same : queuedBy client.stream (QueueCall.apply sh client (.callerConnecting now)).stream = [] := by
        rw [stream]
        exact queuedBy_self client.stream
      simp [warns, connects, queued, same, about]
    | some elapsed =>
      rw [about] at stream unrefused
      have takes : client.stream.takesEvent sh = true := by
        simpa [Act.unrefused, Act.pushed] using unrefused
      have appended : (QueueCall.apply sh client (.callerConnecting now)).stream.items =
          client.stream.items ++ [.event (.reconnectConflict (sh.seconds elapsed))] := by
        rw [stream]
        exact State.items_pushEvent takes _ _
      have new := queuedBy_eq appended
      simp [warns, connects, queued, new, about, ConnectionEvent.reconnectConflict,
        ConnectionEvent.isReconnectConflict]
  | _ => simp [warns, connects]

end Entry

/-- What a close leaves in the record. -/
theorem recorded_close (stream : State) (now closedAt : Nat) :
    (∃ elapsed, ((stream.reconnectedAt.map fun at_ => now - at_).filter fun elapsed =>
        stream.open_ && decide (elapsed < RECONNECT_CONFLICT_WINDOW)).map (·, now) =
      some (elapsed, closedAt)) ↔
    ∃ openedAt, now = closedAt ∧ (stream.open_ = true ∧ stream.reconnectedAt = some openedAt) ∧
      closedAt < openedAt + RECONNECT_CONFLICT_WINDOW := by
  have window : 0 < RECONNECT_CONFLICT_WINDOW := by decide
  simp only [Option.map_eq_some_iff, Option.filter_eq_some_iff, Bool.and_eq_true, decide_eq_true_eq,
    Prod.mk.injEq]
  constructor
  · rintro ⟨_, elapsed, ⟨⟨openedAt, stamp, rfl⟩, opened, soon⟩, rfl, rfl⟩
    exact ⟨openedAt, rfl, ⟨opened, stamp⟩, by omega⟩
  · rintro ⟨openedAt, rfl, ⟨opened, stamp⟩, soon⟩
    exact ⟨_, _, ⟨⟨openedAt, stamp, rfl⟩, opened, by omega⟩, rfl, rfl⟩

/-! ### Every run -/

namespace SharedRun

/-- The queues and the record hold what the operations made left in them, and each `caller_connecting` so far
warned where it should. -/
structure Inv (run : SharedRun ι) : Prop where
  restored : ∀ queue openedAt, Restored queue openedAt run.trace ↔
    (run.streams queue).open_ = true ∧ (run.streams queue).reconnectedAt = some openedAt
  pending : ∀ closedAt, (∃ openedAt, Pending openedAt closedAt run.trace) ↔
    ∃ elapsed, run.conflict.closed = some (elapsed, closedAt)
  warned : run.conflict.warned = true ↔ ∃ entry ∈ run.trace, entry.warns = true
  told : Throughout (fun earlier entry => entry.warns = true ↔
    RealConflict earlier entry ∧ ∀ before ∈ earlier, before.warns = false) run.trace

variable [DecidableEq ι] {sh : ι → Shared}

theorem inv_start {run : SharedRun ι} (starts : (sharedQueues sh).start run) : run.Inv := by
  obtain ⟨connections, rfl⟩ := starts
  refine ⟨fun queue openedAt => ⟨fun since => absurd since not_since_nil, fun both => ?_⟩,
    fun closedAt => ⟨?_, ?_⟩, ⟨?_, ?_⟩, Throughout.nil⟩
  · cases both.1
  · rintro ⟨openedAt, since⟩
    exact absurd since not_since_nil
  · rintro ⟨elapsed, closed⟩
    cases closed
  · intro warned
    cases warned
  · rintro ⟨entry, member, -⟩
    cases member

/-- The consumer's side leaves everything the warning rests on. -/
theorem Inv.consumer {run : SharedRun ι} (inv : run.Inv) (queue : ι) {state : State}
    (opened : state.open_ = (run.streams queue).open_)
    (stamp : state.reconnectedAt = (run.streams queue).reconnectedAt) :
    Inv { run with streams := Function.update run.streams queue state } where
  restored other openedAt := by
    rw [inv.restored]
    by_cases same : other = queue
    · subst same
      simp only [Function.update_self, opened, stamp]
    · simp only [Function.update_of_ne same]
  pending := inv.pending
  warned := inv.warned
  told := inv.told

/-- The operation made on a queue. -/
def made (sh : ι → Shared) (run : SharedRun ι) (queue : ι) (call : QueueCall) : Entry ι where
  queue
  call
  before := run.client queue
  queued := queuedBy (run.streams queue) (call.apply (sh queue) (run.client queue)).stream

/-- The run after it. -/
def after (sh : ι → Shared) (run : SharedRun ι) (queue : ι) (call : QueueCall) : SharedRun ι where
  streams := Function.update run.streams queue (call.apply (sh queue) (run.client queue)).stream
  connections := Function.update run.connections queue (call.apply (sh queue) (run.client queue)).connection
  conflict := (call.apply (sh queue) (run.client queue)).conflict
  trace := run.trace ++ [run.made sh queue call]

section Operation

variable {run : SharedRun ι} {queue : ι} {call : QueueCall}

theorem Inv.call_restored (inv : run.Inv) (other : ι) (openedAt : Nat) :
    Restored other openedAt (run.after sh queue call).trace ↔
      ((run.after sh queue call).streams other).open_ = true ∧
        ((run.after sh queue call).streams other).reconnectedAt = some openedAt := by
  have moved := (run.made sh queue call).restored_after (sh queue) openedAt
  show Restored other openedAt (run.trace ++ [run.made sh queue call]) ↔
    (Function.update run.streams queue _ other).open_ = true ∧
      (Function.update run.streams queue _ other).reconnectedAt = some openedAt
  rw [restored_concat, inv.restored other openedAt]
  by_cases same : other = queue
  · subst same
    rw [Function.update_self]
    refine Iff.trans ?_ moved.symm
    have here : (run.made sh other call).queue = other := rfl
    simp only [here, true_and, forall_const]
    rfl
  · have elsewhere : (run.made sh queue call).queue ≠ other := fun here => same here.symm
    simp only [Function.update_of_ne same, elsewhere, false_and, false_or, false_implies, and_true]

theorem Inv.call_pending (inv : run.Inv) (own : ∀ handle, call ≠ .useHandle handle) (closedAt : Nat) :
    (∃ openedAt, Pending openedAt closedAt (run.after sh queue call).trace) ↔
      ∃ elapsed, (run.after sh queue call).conflict.closed = some (elapsed, closedAt) := by
  have record := (run.made sh queue call).conflict_after (sh queue) own
  have standing : ∀ openedAt, Restored (run.made sh queue call).queue openedAt run.trace ↔ _ :=
    inv.restored (run.made sh queue call).queue
  show (∃ openedAt, Pending openedAt closedAt (run.trace ++ [run.made sh queue call])) ↔
    ∃ elapsed, ((run.made sh queue call).call.apply (sh queue) (run.made sh queue call).before).conflict.closed =
      some (elapsed, closedAt)
  rw [record]
  simp only [pending_concat, standing]
  cases connects : (run.made sh queue call).connects with
  | some now =>
    have noClose : (run.made sh queue call).closes = none := Entry.closes_of_connects connects
    simp [noClose]
  | none =>
    cases closes : (run.made sh queue call).closes with
    | none =>
      show _ ↔ ∃ elapsed, run.conflict.closed = some (elapsed, closedAt)
      rw [← inv.pending closedAt]
      simp
    | some now =>
      refine Iff.trans ?_ (recorded_close (run.streams queue) now closedAt).symm
      simp only [reduceCtorEq, false_and, and_false, or_false, Option.some.injEq]
      rfl

omit [DecidableEq ι] in
/-- A `caller_connecting` warns where the record says so. -/
theorem made_warns_iff (unrefused : run.unrefused sh (queue, .call call) = true) :
    (run.made sh queue call).warns = true ↔
      run.conflict.warned = false ∧ ∃ now elapsed closedAt, (run.made sh queue call).connects = some now ∧
        run.conflict.closed = some (elapsed, closedAt) ∧ now < closedAt + RECONNECT_CONFLICT_WINDOW := by
  have record : (run.made sh queue call).before.conflict = run.conflict := rfl
  rw [(run.made sh queue call).warns_iff (sh queue) rfl unrefused]
  simp only [Entry.warnsAbout_isSome_iff, record]
  constructor
  · rintro ⟨now, connects, fresh, elapsed, closedAt, closed, soon⟩
    exact ⟨fresh, now, elapsed, closedAt, connects, closed, soon⟩
  · rintro ⟨fresh, now, elapsed, closedAt, connects, closed, soon⟩
    exact ⟨now, connects, fresh, elapsed, closedAt, closed, soon⟩

theorem Inv.call_warned (inv : run.Inv) (own : ∀ handle, call ≠ .useHandle handle)
    (unrefused : run.unrefused sh (queue, .call call) = true) :
    (run.after sh queue call).conflict.warned = true ↔
      ∃ entry ∈ (run.after sh queue call).trace, entry.warns = true := by
  have warns := (run.made sh queue call).warns_iff (sh queue) rfl unrefused
  have record := (run.made sh queue call).warned_after (sh queue) own
  rw [← warns] at record
  refine record.trans ?_
  show run.conflict.warned = true ∨ _ ↔ ∃ entry ∈ run.trace ++ [run.made sh queue call], entry.warns = true
  rw [inv.warned]
  simp [or_and_right, exists_or]

theorem Inv.call_told (inv : run.Inv) (unrefused : run.unrefused sh (queue, .call call) = true) :
    Throughout (fun earlier entry => entry.warns = true ↔
      RealConflict earlier entry ∧ ∀ before ∈ earlier, before.warns = false)
        (run.after sh queue call).trace := by
  refine inv.told.concat ?_
  have fresh : run.conflict.warned = false ↔ ∀ before ∈ run.trace, before.warns = false := by
    rw [← Bool.not_eq_true, inv.warned]
    simp
  rw [made_warns_iff unrefused, fresh, and_comm]
  refine and_congr_left fun _ => ?_
  constructor
  · rintro ⟨now, elapsed, closedAt, connects, closed, soon⟩
    obtain ⟨openedAt, pending⟩ := (inv.pending closedAt).mpr ⟨elapsed, closed⟩
    exact ⟨openedAt, closedAt, now, pending, connects, soon⟩
  · rintro ⟨openedAt, closedAt, now, pending, connects, soon⟩
    obtain ⟨elapsed, closed⟩ := (inv.pending closedAt).mp ⟨openedAt, pending⟩
    exact ⟨now, elapsed, closedAt, connects, closed, soon⟩

/-- **The operations keep the invariant.** -/
theorem Inv.operation (inv : run.Inv) (own : ∀ handle, call ≠ .useHandle handle)
    (unrefused : run.unrefused sh (queue, .call call) = true) : Inv (run.after sh queue call) where
  restored := inv.call_restored
  pending := inv.call_pending own
  warned := inv.call_warned own unrefused
  told := inv.call_told unrefused

end Operation

theorem step_call {run next : SharedRun ι} {queue : ι} {call : QueueCall}
    (stepped : run.step sh (queue, .call call) = some next) :
    (∀ handle, call ≠ .useHandle handle) ∧ next = run.after sh queue call := by
  cases call with
  | useHandle handle => cases stepped
  | _ => exact ⟨fun _ same => (by cases same), (Option.some.inj stepped).symm⟩

/-- Reading leaves the flags and the stamps. -/
theorem pop_kept {state : State} {read : StreamItem × State} (popped : state.pop = some read) :
    read.2.open_ = state.open_ ∧ read.2.reconnectedAt = state.reconnectedAt := by
  unfold State.pop at popped
  split at popped <;> cases popped <;> exact ⟨rfl, rfl⟩

/-- **The run lemma.** -/
theorem inv_of_reachable {run : SharedRun ι}
    (reached : (sharedQueues sh).ReachableUnder (fun run op _ => run.unrefused sh op = true) run) :
    run.Inv := by
  have base : ∀ run : SharedRun ι, (sharedQueues sh).start run → run.Inv := fun _ => inv_start
  refine reached.invariant base fun run op next inv stepped unrefused => ?_
  obtain ⟨queue, op⟩ := op
  cases op with
  | call call =>
    obtain ⟨own, rfl⟩ := step_call stepped
    exact inv.operation own unrefused
  | pop =>
    obtain ⟨read, popped, rfl⟩ := Option.map_eq_some_iff.mp stepped
    obtain ⟨opened, stamp⟩ := pop_kept popped
    exact inv.consumer queue opened stamp
  | dropReceiver =>
    cases stepped
    exact inv.consumer queue rfl rfl

end SharedRun

/-- **The reconnect-conflict warning fires once at most, and only for a real conflict.** In every run in which
no event is refused, at most one `caller_connecting` queues the warning, and one does exactly where there is a
real conflict and no warning was given before. -/
theorem conflict_warned [DecidableEq ι] {sh : ι → Shared} {run : SharedRun ι}
    (reached : (sharedQueues sh).ReachableUnder (fun run op _ => run.unrefused sh op = true) run) :
    run.trace.countP Entry.warns ≤ 1 ∧
      Throughout (fun earlier entry => entry.warns = true ↔
        RealConflict earlier entry ∧ ∀ before ∈ earlier, before.warns = false) run.trace := by
  have told := (SharedRun.inv_of_reachable reached).told
  exact ⟨(told.mono fun _ _ _ iff warns => (iff.mp warns).2).countP_le_one, told⟩

/-- A reconnect, the caller's close and the other client's connect; a minute later the same once more, the other
way round. -/
def closedTwice : List (Bool × SharedOp) :=
  [(false, .call .startConnection), (false, .call (.authenticated .null [])),
    (false, .call (.connectionLost 1 none "reset" .network true)), (false, .call .startConnection),
    (false, .call (.reconnectAuthenticated 2 .null [])), (false, .call (.clientClosed 3 1000 "done")),
    (true, .call (.callerConnecting 4)), (true, .call .startConnection),
    (true, .call (.reconnectAuthenticated 60000000000 .null [])), (true, .pop),
    (true, .call (.clientClosed 60000000001 1000 "done")), (false, .call (.callerConnecting 60000000002))]

theorem conflict_warned_closedTwice : ∃ run,
    (sharedQueues fun _ : Bool => oneMessageStream).runUnder
        (fun run op => run.unrefused (fun _ => oneMessageStream) op = true)
        { connections := fun _ => .connected } closedTwice = some run ∧
      run.trace.map Entry.warns =
        [false, false, false, false, false, false, true, false, false, false, false] ∧
      Throughout (fun earlier entry => entry.warns = true ↔
        RealConflict earlier entry ∧ ∀ before ∈ earlier, before.warns = false) run.trace := by
  have runs : ∃ run,
      (sharedQueues fun _ : Bool => oneMessageStream).runUnder
          (fun run op => run.unrefused (fun _ => oneMessageStream) op = true)
          { connections := fun _ => .connected } closedTwice = some run ∧
        run.trace.map Entry.warns =
          [false, false, false, false, false, false, true, false, false, false, false] := ⟨_, rfl, rfl⟩
  obtain ⟨run, ran, shown⟩ := runs
  have starts : (sharedQueues fun _ : Bool => oneMessageStream).start { connections := fun _ => .connected } :=
    ⟨_, rfl⟩
  have reached := reachableUnder_of_run closedTwice (.start starts) ran
  exact ⟨run, ran, shown, (conflict_warned reached).2⟩

end FugleMarketdata
