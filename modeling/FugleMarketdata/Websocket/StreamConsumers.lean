/-
**The consumers of the stream.** `StreamSender` and `QueueReceiver` of
`core/src/websocket/stream_queue.rs`, with the receivers of `stream.rs`.

Every party that reports on a client holds a sender. The consumer end is read by threads that block on a
condition variable and by a task that leaves a waker; each critical section is one step, and so are the two
notifications made after a section has released the lock.

* `QueueCall.outcome` — what a section leaves to notify about, and that nothing else is queued;
* `Waiting.tryRecv`, `recv`, `recvTimeout`, `pollRecv` — one look of a consumer;
* `consumerRuns` — any operations, senders, threads and tasks, in every order;
* `Attended` — how the waiting consumers, the waker and the notifications to come hang together;
* `parked_announced`, `poller_woken` — no wake-up is lost;
* `consumers_account` — each item goes to one consumer, in order, and the end is told last.
-/

import FugleMarketdata.Lib.Monitor
import FugleMarketdata.Websocket.Accounting
import FugleMarketdata.Websocket.StreamRun

namespace FugleMarketdata

open StepMachines StepMachine Monitors

/-! ### What a section leaves to notify about -/

/-- An act adds items only where it says that it queued some. -/
structure Queues (work result : State × Outcome) (new : List StreamItem) : Prop where
  items : result.1.items = work.1.items ++ new
  alive : result.1.receiverAlive = work.1.receiverAlive
  said : result.2.queued = false → work.2.queued = false ∧ new = []
  gone : work.1.receiverAlive = false → new = []

namespace Queues

variable {work middle result : State × Outcome} {first second : List StreamItem}

theorem refl : Queues work work [] where
  items := (List.append_nil _).symm
  alive := rfl
  said := fun silent => ⟨silent, rfl⟩
  gone := fun _ => rfl

theorem trans (left : Queues work middle first) (right : Queues middle result second) :
    Queues work result (first ++ second) where
  items := by rw [right.items, left.items, List.append_assoc]
  alive := right.alive.trans left.alive
  said := fun silent => by
    obtain ⟨before, last⟩ := right.said silent
    obtain ⟨start, none⟩ := left.said before
    exact ⟨start, by rw [none, last]; rfl⟩
  gone := fun gone => by
    rw [left.gone gone, right.gone (left.alive.trans gone)]
    rfl

end Queues

section Acts

variable (sh : Shared)

theorem State.pushEvent_queues (event : ConnectionEvent) (work : State × Outcome) :
    ∃ new, Queues work (State.pushEvent sh event work) new := by
  obtain ⟨state, outcome⟩ := work
  simp only [State.pushEvent]
  split
  · exact ⟨[], Queues.refl⟩
  rename_i alive
  split
  · exact ⟨[], ⟨(List.append_nil _).symm, rfl, fun silent => ⟨silent, rfl⟩, fun _ => rfl⟩⟩
  · refine ⟨[.event event], ⟨rfl, rfl, (fun silent => by cases silent), fun gone => ?_⟩⟩
    rw [gone] at alive
    exact absurd rfl alive

theorem State.pushMessageLocked_queues (message : WebSocketMessage) (work : State × Outcome) :
    ∃ new, Queues work (State.pushMessageLocked sh message work) new := by
  obtain ⟨state, outcome⟩ := work
  simp only [State.pushMessageLocked]
  split
  · exact ⟨[], Queues.refl⟩
  split
  · exact ⟨[], ⟨(List.append_nil _).symm, rfl, fun silent => ⟨silent, rfl⟩, fun _ => rfl⟩⟩
  · rename_i alive full
    refine ⟨[.message message], ⟨rfl, rfl, (fun silent => by cases silent), fun gone => ?_⟩⟩
    rw [gone] at alive
    exact absurd rfl alive

theorem State.pushReport_queues (now : Nat) (force : Bool) (work : State × Outcome) :
    ∃ new, Queues work (State.pushReport sh now force work) new := by
  obtain ⟨state, outcome⟩ := work
  simp only [State.pushReport]
  split
  · exact ⟨[], Queues.refl⟩
  · rename_i dropped reports due
    obtain ⟨new, queues⟩ := State.pushEvent_queues sh (.messagesDropped dropped state.messagesDropped)
      ({ state with dropReports := reports },
        { outcome with report := some (dropped, state.messagesDropped) })
    exact ⟨new, queues.items, queues.alive, queues.said, queues.gone⟩

/-- What an act adds to the queue. -/
theorem Act.apply_queues (act : Act) (work : State × Outcome) :
    ∃ new, Queues work (act.apply sh work) new := by
  have silent (result : State × Outcome) (items : result.1.items = work.1.items)
      (alive : result.1.receiverAlive = work.1.receiverAlive) (outcome : result.2 = work.2) :
      ∃ new, Queues work result new :=
    ⟨[], ⟨items.trans (List.append_nil _).symm, alive, fun quiet => ⟨outcome ▸ quiet, rfl⟩,
      fun _ => rfl⟩⟩
  cases act with
  | event event => exact State.pushEvent_queues sh event work
  | message message => exact State.pushMessageLocked_queues sh message work
  | report now force => exact State.pushReport_queues sh now force work
  | claim willReconnect => exact silent _ rfl rfl rfl
  | opens => exact silent _ rfl rfl rfl
  | givesUp => exact silent _ rfl rfl rfl
  | restart => exact silent _ rfl rfl rfl
  | stamp reconnectedAt => exact silent _ rfl rfl rfl

theorem Act.applyAll_queues (acts : List Act) (work : State × Outcome) :
    ∃ new, Queues work (Act.applyAll sh acts work) new := by
  induction acts generalizing work with
  | nil => exact ⟨[], Queues.refl⟩
  | cons act rest ih =>
    obtain ⟨first, left⟩ := Act.apply_queues sh act work
    obtain ⟨second, right⟩ := ih (act.apply sh work)
    exact ⟨first ++ second, left.trans right⟩

namespace QueueCall

/-- The outcome the operation releases the lock with; a section that returns early has none. -/
def outcome (client : Client) : QueueCall → Outcome
  | emit event => (client.emit sh event).2
  | pushMessage now message => (client.pushMessage sh now message).2
  | startConnection => {}
  | callerConnecting now => (client.callerConnecting sh now).2
  | authenticated data frames => (client.authenticated sh data frames).2
  | unauthenticated message data frames => (client.unauthenticated sh message data frames).2
  | reconnectStep next event => (client.reconnectStep sh next event).2.2
  | emitUnlessClosed event => (client.emitUnlessClosed sh event).2.2
  | reconnectAuthenticated now data frames => (client.reconnectAuthenticated sh now data frames).2.2
  | reconnectRejected message data frames => (client.reconnectRejected sh message data frames).2.2
  | connectionLost now code reason intent willReconnect =>
    (client.connectionLost sh now code reason intent willReconnect).2
  | connectionFailed now event reason willReconnect =>
    (client.connectionFailed sh now event reason willReconnect).2.2
  | clientClosed now code reason => (client.clientClosed sh now code reason).2
  | reconnectFailed code attempts reason intent =>
    (client.reconnectFailed sh code attempts reason intent).2
  | setState _ => {}
  | useHandle _ => {}

/-- And the outcome is that of its program. -/
theorem outcome_apply (client : Client) (call : QueueCall) :
    call.outcome sh client = (Act.applyAll sh (call.acts sh client) (client.stream, {})).2 := by
  cases call with
  | emit event => rfl
  | startConnection => rfl
  | setState next => rfl
  | useHandle conflict => rfl
  | pushMessage now message =>
    simp only [outcome, acts, Client.pushMessage]
    cases opened : client.stream.open_ <;> simp [Client.onStream, Act.apply]
  | callerConnecting now =>
    simp only [outcome, acts, Client.callerConnecting, warnsAbout]
    cases closed : client.conflict.closed with
    | none => rfl
    | some close =>
      obtain ⟨elapsed, closedAt⟩ := close
      simp only
      split <;> simp [Client.onStream, Act.apply]
  | authenticated data frames =>
    simp [outcome, acts, openActs, Client.authenticated, Client.onStream, Act.apply,
      Act.applyAll_messages, State.openConnection]
  | unauthenticated message data frames =>
    simp [outcome, acts, rejectActs, Client.unauthenticated, Client.onStream, Act.apply,
      Act.applyAll_messages, State.pushRejection]
  | reconnectStep next event =>
    simp only [outcome, acts, Client.reconnectStep, Client.unlessClosed]
    cases closed : client.stream.closeReported <;> cases event <;>
      simp [Client.onStream, Act.apply]
  | emitUnlessClosed event =>
    simp only [outcome, acts, Client.emitUnlessClosed, Client.unlessClosed]
    cases closed : client.stream.closeReported <;> simp [Client.onStream, Act.apply]
  | reconnectAuthenticated now data frames =>
    simp only [outcome, acts, Client.reconnectAuthenticated, Client.unlessClosed]
    cases closed : client.stream.closeReported <;>
      simp [openActs, Client.onStream, Act.apply, Act.applyAll_messages, State.openConnection]
  | reconnectRejected message data frames =>
    simp only [outcome, acts, Client.reconnectRejected, Client.unlessClosed]
    cases closed : client.stream.closeReported <;>
      simp [rejectActs, Client.onStream, Act.apply, Act.applyAll_messages, State.pushRejection]
  | connectionLost now code reason intent willReconnect =>
    simp only [outcome, acts, Client.connectionLost, Client.loseConnection]
    cases claimed : client.stream.disconnectClaimed <;>
      simp [loseActs, Act.apply, State.pushDisconnected]
  | connectionFailed now event reason willReconnect =>
    simp only [outcome, acts, Client.connectionFailed, Client.unlessClosed]
    cases closed : client.stream.closeReported <;> simp only [Bool.false_eq_true, if_false, if_true]
    · have same : (State.pushEvent sh event (client.stream, {})).1.disconnectClaimed =
          client.stream.disconnectClaimed := by
        obtain ⟨new, pushes, -⟩ := State.pushEvent_pushes sh event (client.stream, {})
        exact pushes.claimed
      simp only [Client.loseConnection, same]
      cases claimed : client.stream.disconnectClaimed <;>
        simp [loseActs, Act.apply, State.pushDisconnected]
    · rfl
  | clientClosed now code reason =>
    simp only [outcome, acts, Client.clientClosed]
    cases closed : client.stream.closeReported with
    | false => simp [closed, loseActs, Client.onStream, Act.apply, State.pushDisconnected]
    | true =>
      have kept : (if client.connection.isClosed = true then client
          else { client with connection := .closed (some code) reason .client }).stream =
            client.stream := by
        split <;> rfl
      simp [kept, closed]
  | reconnectFailed code attempts reason intent =>
    simp only [outcome, acts, Client.reconnectFailed]
    cases closed : client.stream.closeReported <;> simp [Client.onStream, Act.apply]

/-- **A section that queues says so.** Whatever the operation, the items it adds go to the end of the queue,
and where its outcome does not say that something was queued nothing was. -/
theorem apply_queues (client : Client) (call : QueueCall) :
    ∃ new, (call.apply sh client).stream.items = client.stream.items ++ new ∧
      (call.apply sh client).stream.receiverAlive = client.stream.receiverAlive ∧
      ((call.outcome sh client).queued = false → new = []) ∧
      (client.stream.receiverAlive = false → new = []) := by
  obtain ⟨new, queues⟩ := Act.applyAll_queues sh (call.acts sh client) (client.stream, {})
  rw [stream_apply, outcome_apply]
  exact ⟨new, queues.items, queues.alive, fun silent => (queues.said silent).2, queues.gone⟩

end QueueCall

end Acts

/-! ### The consumers -/

/-- What a consumer is told. -/
inductive Answer where
  | item (item : StreamItem)
  | ended
  | timedOut
  | empty

def Answer.item? : Answer → Option StreamItem
  | item found => some found
  | _ => none

def Answer.isEnded : Answer → Bool
  | ended => true
  | _ => false

namespace State

/-- The oldest item, or the end once no sender is left. -/
def next (senders : Nat) (state : State) : Option (Answer × State) :=
  match state.pop with
  | some (item, rest) => some (.item item, rest)
  | none => if senders = 0 then some (.ended, state) else none

/-- `try_recv`. -/
def tryRecv (senders : Nat) (state : State) : Answer × State :=
  (state.next senders).getD (.empty, state)

/-- One look of `recv`; `none` waits. -/
def recv (senders : Nat) (state : State) : Option (Answer × State) := state.next senders

/-- One look of `recv_timeout`, whose deadline may have passed; `none` waits. -/
def recvTimeout (senders : Nat) (expired : Bool) (state : State) : Option (Answer × State) :=
  match state.next senders with
  | some found => some found
  | none => if expired then some (.timedOut, state) else none

/-- `poll_recv`; `none` is `Pending`. -/
def pollRecv (senders : Nat) (state : State) : Option (Answer × State) := state.next senders

end State

/-- Where a call that blocks is. -/
inductive ThreadAt where
  | locking
  | parked
  | returned (answer : Answer)

/-- A call of a consumer that blocks its thread: whether it has a deadline, and where it is. -/
structure Thread where
  timed : Bool
  pc : ThreadAt

namespace Thread

def isParked (thread : Thread) : Bool :=
  match thread.pc with
  | .parked => true
  | _ => false

def answer? (thread : Thread) : Option Answer :=
  match thread.pc with
  | .returned answer => some answer
  | _ => none

/-- Off the condition variable. -/
def unpark (thread : Thread) : Thread :=
  match thread.pc with
  | .parked => { thread with pc := .locking }
  | _ => thread

end Thread

/-- A task that polls: whether its last poll was pending, and whether it was woken since. -/
inductive TaskAt where
  | idle
  | pending
  | woken
  deriving DecidableEq, Repr

/-- What a section that has released the lock has yet to do. -/
inductive NotifyAt where
  | notifying
  | waking
  | done
  deriving DecidableEq, Repr

/-- The end of a section that queued something, or of the last sender: `notify_all`, then the waker it
took. -/
structure Notifier where
  stage : NotifyAt := .notifying
  waker : Option Nat
  deriving DecidableEq, Repr

/-- Who was told something. -/
inductive Caller where
  | thread (position : Nat)
  | task (task : Nat)
  deriving DecidableEq, Repr

/-- The stream with its senders and consumers. `latest`, `accepted`, `answers` and `discarded` are records
no code reads: the task whose poll was the last to be pending, everything queued so far, what the consumers
were told, and what was queued when the receiver was dropped. -/
structure ConsumerRun where
  client : Client := {}
  senders : Nat := 1
  waker : Option Nat := none
  notifiers : List Notifier := []
  threads : List Thread := []
  tasks : Nat → TaskAt := fun _ => .idle
  latest : Option Nat := none
  accepted : List StreamItem := []
  answers : List (Caller × Answer) := []
  discarded : List StreamItem := []

/-- One step of a party. -/
inductive ConsumerStep where
  | operation (call : QueueCall)
  | clone
  | dropSender
  | notifyAll (notifier : Nat)
  | wake (notifier : Nat)
  | call (timed : Bool)
  | tryRecv
  | look (thread : Nat) (expired : Bool)
  | unpark (thread : Nat)
  | poll (task : Nat)
  | giveUp (task : Nat)
  | dropReceiver

namespace ConsumerRun

variable (sh : Shared)

/-- A section takes the waker and leaves the notifications for when it has released the lock. -/
def leave (run : ConsumerRun) : ConsumerRun :=
  { run with waker := none, notifiers := run.notifiers ++ [{ waker := run.waker }] }

/-- An operation on the queue, and `finish`. -/
def operationStep (run : ConsumerRun) (call : QueueCall) : Option ConsumerRun :=
  if run.senders = 0 then none
  else
    let after := { run with
      client := call.apply sh run.client
      accepted := run.accepted ++ queuedBy run.client.stream (call.apply sh run.client).stream }
    if (call.outcome sh run.client).queued then some after.leave else some after

/-- `Drop for StreamSender`. -/
def dropSenderStep (run : ConsumerRun) : Option ConsumerRun :=
  if run.senders = 0 then none
  else
    let after := { run with senders := run.senders - 1 }
    if after.senders = 0 then some after.leave else some after

/-- A consumer is told something. -/
def tell (run : ConsumerRun) (caller : Caller) (answer : Answer) (stream : State) : ConsumerRun :=
  { run with
    client := { run.client with stream }
    answers := run.answers ++ [(caller, answer)] }

/-- A call that blocks looks. -/
def lookStep (run : ConsumerRun) (position : Nat) (thread : Thread) (expired : Bool) :
    Option ConsumerRun :=
  match thread.pc with
  | .locking =>
    let found := if thread.timed then run.client.stream.recvTimeout run.senders expired
      else run.client.stream.recv run.senders
    match found with
    | some (answer, stream) =>
      some { run.tell (.thread position) answer stream with
        threads := run.threads.set position { thread with pc := .returned answer } }
    | none =>
      some { run with threads := run.threads.set position { thread with pc := .parked } }
  | _ => none

/-- A task polls, and leaves its waker where it finds nothing. -/
def pollStep (run : ConsumerRun) (task : Nat) : ConsumerRun :=
  match run.client.stream.pollRecv run.senders with
  | some (answer, stream) =>
    { run.tell (.task task) answer stream with tasks := Function.update run.tasks task .idle }
  | none =>
    { run with
      waker := some task
      tasks := Function.update run.tasks task .pending
      latest := some task }

/-- A waker wakes its task. -/
def wakeTask (tasks : Nat → TaskAt) (waker : Option Nat) : Nat → TaskAt :=
  match waker with
  | none => tasks
  | some task =>
    if tasks task = .pending then Function.update tasks task .woken else tasks

def step (run : ConsumerRun) : ConsumerStep → Option ConsumerRun
  | .operation call => run.operationStep sh call
  | .clone => if run.senders = 0 then none else some { run with senders := run.senders + 1 }
  | .dropSender => run.dropSenderStep
  | .notifyAll position =>
    match run.notifiers[position]? with
    | some notifier =>
      if notifier.stage = .notifying then
        some { run with
          threads := run.threads.map Thread.unpark
          notifiers := run.notifiers.set position { notifier with stage := .waking } }
      else none
    | none => none
  | .wake position =>
    match run.notifiers[position]? with
    | some notifier =>
      if notifier.stage = .waking then
        some { run with
          tasks := wakeTask run.tasks notifier.waker
          notifiers := run.notifiers.set position { notifier with stage := .done } }
      else none
    | none => none
  | .call timed =>
    if run.client.stream.receiverAlive then
      some { run with threads := run.threads ++ [{ timed, pc := .locking }] }
    else none
  | .tryRecv =>
    if run.client.stream.receiverAlive then
      let (answer, stream) := run.client.stream.tryRecv run.senders
      some { run.tell (.thread run.threads.length) answer stream with
        threads := run.threads ++ [{ timed := false, pc := .returned answer }] }
    else none
  | .look position expired =>
    match run.threads[position]? with
    | some thread => run.lookStep position thread expired
    | none => none
  | .unpark position =>
    match run.threads[position]? with
    | some thread => some { run with threads := run.threads.set position thread.unpark }
    | none => none
  | .poll task => if run.client.stream.receiverAlive then some (run.pollStep task) else none
  | .giveUp task =>
    some { run with
      tasks := Function.update run.tasks task .idle
      latest := if run.latest = some task then none else run.latest }
  | .dropReceiver =>
    if run.threads.all fun thread => thread.answer?.isSome then
      some { run with
        client := { run.client with stream := run.client.stream.dropReceiver }
        waker := none
        latest := none
        discarded := run.discarded ++ run.client.stream.items }
    else none

end ConsumerRun

/-- A client's stream, from its construction with one sender. -/
def consumerRuns (sh : Shared) : StepMachine ConsumerRun ConsumerStep where
  start := fun run => run = {}
  step := ConsumerRun.step sh

/-! ### One look -/

namespace State

variable {senders : Nat} {state after : State} {answer : Answer}

/-- What a consumer can be told: the oldest item; the end, where nothing is queued and no sender is left; or
that there is nothing, where nothing is queued and one is. -/
inductive Told (senders : Nat) (state : State) : Answer → State → Prop
  | item (item : StreamItem) (after : State) (items : state.items = item :: after.items)
      (alive : after.receiverAlive = state.receiverAlive) : Told senders state (.item item) after
  | ended (items : state.items = []) (gone : senders = 0) : Told senders state .ended state
  | nothing (answer : Answer) (items : state.items = []) (going : senders ≠ 0)
      (none : answer.item? = none) (open_ : answer.isEnded = false) : Told senders state answer state

theorem Told.fewer (told : Told senders state answer after) (some_ : after.items ≠ []) :
    state.items ≠ [] := by
  cases told with
  | item item after items alive =>
    rw [items]
    exact List.cons_ne_nil _ _
  | ended items gone => exact some_
  | nothing answer items going none open_ => exact some_

theorem next_cases (senders : Nat) (state : State) :
    (∃ answer after, state.next senders = some (answer, after) ∧ Told senders state answer after) ∨
      state.next senders = none ∧ state.items = [] ∧ senders ≠ 0 := by
  unfold next pop
  cases items : state.items with
  | nil =>
    by_cases gone : senders = 0
    · exact Or.inl ⟨.ended, state, if_pos gone, .ended items gone⟩
    · exact Or.inr ⟨if_neg gone, rfl, gone⟩
  | cons first rest =>
    cases first with
    | message message => exact Or.inl ⟨_, _, rfl, .item _ _ items rfl⟩
    | event event => exact Or.inl ⟨_, _, rfl, .item _ _ items rfl⟩

theorem tryRecv_told (senders : Nat) (state : State) :
    Told senders state (state.tryRecv senders).1 (state.tryRecv senders).2 := by
  unfold tryRecv
  rcases next_cases senders state with ⟨answer, after, found, told⟩ | ⟨none, items, going⟩
  · rw [found]
    exact told
  · rw [none]
    exact .nothing .empty items going rfl rfl

/-- A look of a call that blocks, with a deadline or without. -/
theorem look_cases (senders : Nat) (timed expired : Bool) (state : State) :
    (∃ answer after, (if timed then state.recvTimeout senders expired else state.recv senders) =
        some (answer, after) ∧ Told senders state answer after) ∨
      (if timed then state.recvTimeout senders expired else state.recv senders) = none ∧
        state.items = [] ∧ senders ≠ 0 := by
  rcases next_cases senders state with ⟨answer, after, found, told⟩ | ⟨none, items, going⟩
  · refine Or.inl ⟨answer, after, ?_, told⟩
    cases timed <;> simp [recvTimeout, recv, found]
  · cases timed with
    | false => exact Or.inr ⟨by simp [recv, none], items, going⟩
    | true =>
      cases expired with
      | false => exact Or.inr ⟨by simp [recvTimeout, none], items, going⟩
      | true =>
        exact Or.inl ⟨.timedOut, state, by simp [recvTimeout, none], .nothing _ items going rfl rfl⟩

end State

/-! ### How the waiting hangs together -/

/-- There is something to see: an item, or that no sender is left. -/
def ConsumerRun.Ready (run : ConsumerRun) : Prop := run.client.stream.items ≠ [] ∨ run.senders = 0

/-- In every order: a parked call that has something to see has its notification coming; a waker is in the
slot only while there is nothing to see; and the task whose poll was the last to be pending has its waker in
the slot, or in the hands of a section that will use it. -/
structure Attended (run : ConsumerRun) : Prop where
  announced : Announced Thread.isParked run.threads run.Ready
    (∃ notifier ∈ run.notifiers, notifier.stage = .notifying)
  slot : run.waker.isSome = true → ¬ run.Ready
  latest : ∀ task, run.latest = some task → run.tasks task = .pending →
    run.waker = some task ∨
      ∃ notifier ∈ run.notifiers, notifier.waker = some task ∧ notifier.stage ≠ .done

namespace Attended

variable {sh : Shared} {run next : ConsumerRun}

theorem start : Attended {} where
  announced := Announced.vacant fun _ member => by cases member
  slot := fun some_ => by cases some_
  latest := fun _ equal => by cases equal

/-- A section that leaves its notifications may show anything. -/
theorem leave (latest : ∀ task, run.latest = some task → run.tasks task = .pending →
    run.waker = some task ∨
      ∃ notifier ∈ run.notifiers, notifier.waker = some task ∧ notifier.stage ≠ .done) :
    Attended run.leave where
  announced := fun _ _ => ⟨_, List.mem_append_right _ (List.mem_singleton_self _), rfl⟩
  slot := fun some_ => by cases some_
  latest := by
    intro task is_ pending
    rcases latest task is_ pending with slot | ⟨notifier, member, has, going⟩
    · exact Or.inr ⟨_, List.mem_append_right _ (List.mem_singleton_self _), slot, fun equal => by cases equal⟩
    · exact Or.inr ⟨notifier, List.mem_append_left _ member, has, going⟩

theorem operation (attended : Attended run) {call : QueueCall}
    (stepped : run.operationStep sh call = some next) : Attended next := by
  unfold ConsumerRun.operationStep at stepped
  split at stepped
  · cases stepped
  rename_i going
  simp only at stepped
  split at stepped
  · obtain rfl := Option.some.inj stepped
    exact leave attended.latest
  · rename_i silent
    obtain rfl := Option.some.inj stepped
    obtain ⟨new, items, -, said, -⟩ := call.apply_queues sh run.client
    have none : new = [] := said (Bool.eq_false_iff.mpr silent)
    have same : (call.apply sh run.client).stream.items = run.client.stream.items := by
      rw [items, none, List.append_nil]
    have still (sees : (call.apply sh run.client).stream.items ≠ [] ∨ run.senders = 0) : run.Ready := by
      rcases sees with some_ | over_
      · exact Or.inl (same ▸ some_)
      · exact Or.inr over_
    exact ⟨attended.announced.mono fun sees => Or.inr ⟨still sees, id⟩,
      fun some_ sees => attended.slot some_ (still sees), attended.latest⟩

theorem dropSender (attended : Attended run) (stepped : run.dropSenderStep = some next) :
    Attended next := by
  unfold ConsumerRun.dropSenderStep at stepped
  split at stepped
  · cases stepped
  rename_i going
  simp only at stepped
  split at stepped
  · obtain rfl := Option.some.inj stepped
    exact leave attended.latest
  · rename_i more
    obtain rfl := Option.some.inj stepped
    have still (sees : run.client.stream.items ≠ [] ∨ run.senders - 1 = 0) : run.Ready :=
      sees.imp_right fun over_ => absurd over_ more
    exact ⟨attended.announced.mono fun sees => Or.inr ⟨still sees, id⟩,
      fun some_ sees => attended.slot some_ (still sees), attended.latest⟩

/-- A consumer that looked leaves less to see. -/
theorem tell (attended : Attended run) (caller : Caller) {answer : Answer} {stream : State}
    (told : State.Told run.senders run.client.stream answer stream) :
    Attended (run.tell caller answer stream) := by
  have still (sees : (run.tell caller answer stream).Ready) : run.Ready := sees.imp_left told.fewer
  exact ⟨attended.announced.mono fun sees => Or.inr ⟨still sees, id⟩,
    fun some_ sees => attended.slot some_ (still sees), attended.latest⟩

/-- A call is at another place, parked only where it was or where there is nothing to see. -/
theorem setThread (attended : Attended run) {position : Nat} {thread after : Thread}
    (there : run.threads[position]? = some thread)
    (parks : after.isParked = true → thread.isParked = true ∨ ¬ run.Ready) :
    Attended { run with threads := run.threads.set position after } :=
  ⟨attended.announced.move there parks, attended.slot, attended.latest⟩

theorem lookStep (attended : Attended run) {position : Nat} {thread : Thread} {expired : Bool}
    (there : run.threads[position]? = some thread)
    (stepped : run.lookStep position thread expired = some next) : Attended next := by
  unfold ConsumerRun.lookStep at stepped
  split at stepped
  · simp only at stepped
    rcases State.look_cases run.senders thread.timed expired run.client.stream with
      ⟨answer, stream, found, told⟩ | ⟨found, items, going⟩
    · rw [found] at stepped
      obtain rfl := Option.some.inj stepped
      exact (attended.tell (.thread position) told).setThread there
        fun parks => absurd parks Bool.false_ne_true
    · rw [found] at stepped
      obtain rfl := Option.some.inj stepped
      refine attended.setThread there fun _ => Or.inr ?_
      rintro (some_ | over_)
      · exact some_ items
      · exact going over_
  · cases stepped

theorem pollStep (attended : Attended run) (task : Nat) : Attended (run.pollStep task) := by
  unfold ConsumerRun.pollStep State.pollRecv
  rcases State.next_cases run.senders run.client.stream with ⟨answer, stream, found, told⟩ |
    ⟨found, items, going⟩
  · rw [found]
    have after := attended.tell (.task task) told
    refine ⟨after.announced, after.slot, fun other is_ pending => ?_⟩
    have pending : Function.update run.tasks task .idle other = .pending := pending
    have apart : other ≠ task := by
      rintro rfl
      rw [Function.update_self] at pending
      cases pending
    rw [Function.update_of_ne apart] at pending
    exact after.latest other is_ pending
  · rw [found]
    refine ⟨attended.announced, fun _ sees => ?_, fun other is_ _ => Or.inl is_⟩
    rcases sees with some_ | over_
    · exact some_ items
    · exact going over_

/-- A section gives its notification of all. -/
theorem notifyAll {position : Nat} {notifier : Notifier} (attended : Attended run)
    (there : run.notifiers[position]? = some notifier) :
    Attended { run with
      threads := run.threads.map Thread.unpark
      notifiers := run.notifiers.set position { notifier with stage := .waking } } := by
  refine ⟨Announced.vacant fun thread member => ?_, attended.slot, fun task is_ pending => ?_⟩
  · obtain ⟨old, -, rfl⟩ := List.mem_map.mp member
    unfold Thread.unpark Thread.isParked
    cases pc : old.pc <;> simp [pc]
  · rcases attended.latest task is_ pending with slot | ⟨other, member, has, going⟩
    · exact Or.inl slot
    · refine Or.inr ?_
      obtain ⟨place, found⟩ := List.getElem?_of_mem member
      by_cases same : position = place
      · subst same
        rw [there] at found
        obtain rfl := Option.some.inj found
        have inside := (List.getElem?_eq_some_iff.mp there).1
        exact ⟨_, List.mem_of_getElem? (List.getElem?_set_self inside), has, fun equal => by cases equal⟩
      · exact ⟨other, List.mem_of_getElem? ((List.getElem?_set_ne same).trans found), has, going⟩

/-- And wakes the task whose waker it took. -/
theorem wake {position : Nat} {notifier : Notifier} (attended : Attended run)
    (there : run.notifiers[position]? = some notifier) (waking : notifier.stage = .waking) :
    Attended { run with
      tasks := ConsumerRun.wakeTask run.tasks notifier.waker
      notifiers := run.notifiers.set position { notifier with stage := .done } } := by
  refine ⟨fun waits sees => ?_, attended.slot, fun task is_ pending => ?_⟩
  · obtain ⟨other, member, notifying⟩ := attended.announced waits sees
    obtain ⟨place, found⟩ := List.getElem?_of_mem member
    have apart : position ≠ place := by
      rintro rfl
      rw [there] at found
      obtain rfl := Option.some.inj found
      rw [waking] at notifying
      cases notifying
    exact ⟨other, List.mem_of_getElem? ((List.getElem?_set_ne apart).trans found), notifying⟩
  · have pending : ConsumerRun.wakeTask run.tasks notifier.waker task = .pending := pending
    have before : run.tasks task = .pending ∧ notifier.waker ≠ some task := by
      cases has : notifier.waker with
      | none =>
        rw [has] at pending
        exact ⟨pending, fun equal => by cases equal⟩
      | some woken =>
        rw [has] at pending
        simp only [ConsumerRun.wakeTask] at pending
        split at pending
        · by_cases same : task = woken
          · rw [same, Function.update_self] at pending
            cases pending
          · rw [Function.update_of_ne same] at pending
            exact ⟨pending, fun equal => same (Option.some.inj equal).symm⟩
        · rename_i awake
          refine ⟨pending, fun equal => awake ?_⟩
          rw [Option.some.inj equal]
          exact pending
    rcases attended.latest task is_ before.1 with slot | ⟨other, member, has, going⟩
    · exact Or.inl slot
    · refine Or.inr ?_
      obtain ⟨place, found⟩ := List.getElem?_of_mem member
      have apart : position ≠ place := by
        rintro rfl
        rw [there] at found
        obtain rfl := Option.some.inj found
        exact before.2 has
      exact ⟨other, List.mem_of_getElem? ((List.getElem?_set_ne apart).trans found), has, going⟩

/-- **Every step keeps it.** -/
theorem step (attended : Attended run) (label : ConsumerStep)
    (stepped : run.step sh label = some next) : Attended next := by
  cases label with
  | operation call => exact attended.operation stepped
  | clone =>
    simp only [ConsumerRun.step] at stepped
    split at stepped
    · cases stepped
    · rename_i going
      obtain rfl := Option.some.inj stepped
      have still (sees : run.client.stream.items ≠ [] ∨ run.senders + 1 = 0) : run.Ready :=
        sees.imp_right fun over_ => absurd over_ (Nat.succ_ne_zero _)
      exact ⟨attended.announced.mono fun sees => Or.inr ⟨still sees, id⟩,
        fun some_ sees => attended.slot some_ (still sees), attended.latest⟩
  | dropSender => exact attended.dropSender stepped
  | notifyAll position =>
    simp only [ConsumerRun.step] at stepped
    split at stepped
    · rename_i notifier there
      split at stepped
      · obtain rfl := Option.some.inj stepped
        exact attended.notifyAll there
      · cases stepped
    · cases stepped
  | wake position =>
    simp only [ConsumerRun.step] at stepped
    split at stepped
    · rename_i notifier there
      split at stepped
      · rename_i waking
        obtain rfl := Option.some.inj stepped
        exact attended.wake there waking
      · cases stepped
    · cases stepped
  | call timed =>
    simp only [ConsumerRun.step] at stepped
    split at stepped
    · obtain rfl := Option.some.inj stepped
      exact ⟨attended.announced.join rfl, attended.slot, attended.latest⟩
    · cases stepped
  | tryRecv =>
    simp only [ConsumerRun.step] at stepped
    split at stepped
    · obtain rfl := Option.some.inj stepped
      have told := State.tryRecv_told run.senders run.client.stream
      have after := attended.tell (.thread run.threads.length) told
      exact ⟨after.announced.join rfl, after.slot, after.latest⟩
    · cases stepped
  | look position expired =>
    simp only [ConsumerRun.step] at stepped
    split at stepped
    · rename_i thread there
      exact attended.lookStep there stepped
    · cases stepped
  | unpark position =>
    simp only [ConsumerRun.step] at stepped
    split at stepped
    · rename_i thread there
      obtain rfl := Option.some.inj stepped
      refine attended.setThread there fun parks => Or.inl ?_
      unfold Thread.unpark at parks
      split at parks
      · exact absurd parks Bool.false_ne_true
      · exact parks
    · cases stepped
  | poll task =>
    simp only [ConsumerRun.step] at stepped
    split at stepped
    · obtain rfl := Option.some.inj stepped
      exact attended.pollStep task
    · cases stepped
  | giveUp task =>
    obtain rfl := Option.some.inj stepped
    refine ⟨attended.announced, attended.slot, fun other is_ pending => ?_⟩
    have pending : Function.update run.tasks task .idle other = .pending := pending
    have apart : other ≠ task := by
      rintro rfl
      rw [Function.update_self] at pending
      cases pending
    rw [Function.update_of_ne apart] at pending
    refine attended.latest other ?_ pending
    simp only at is_
    split at is_
    · cases is_
    · exact is_
  | dropReceiver =>
    simp only [ConsumerRun.step] at stepped
    split at stepped
    · rename_i returned
      obtain rfl := Option.some.inj stepped
      refine ⟨Announced.vacant fun thread member => ?_, (fun some_ => by cases some_),
        fun _ equal => by cases equal⟩
      have answered := List.all_eq_true.mp returned thread member
      unfold Thread.answer? at answered
      unfold Thread.isParked
      cases pc : thread.pc <;> simp_all
    · cases stepped

theorem reached (reached : (consumerRuns sh).Reachable run) : Attended run := by
  have base : ∀ run, (consumerRuns sh).start run → Attended run := by
    rintro run rfl
    exact start
  exact reached.invariant base fun _ label _ attended stepped => attended.step label stepped

end Attended

/-! ### Main results -/

/-- **No blocked consumer is forgotten.** In every state of every run, with any senders and consumers: where
a thread is parked while an item is queued or no sender is left, a section that has released the lock has
its notification of all to give, and once it has no thread is parked. -/
theorem parked_announced (sh : Shared) {run : ConsumerRun} (reached : (consumerRuns sh).Reachable run)
    (waits : ∃ thread ∈ run.threads, thread.isParked = true) (ready : run.Ready) :
    ∃ position next, run.step sh (.notifyAll position) = some next ∧
      ∀ thread ∈ next.threads, thread.isParked = false := by
  obtain ⟨notifier, member, notifying⟩ := (Attended.reached reached).announced waits ready
  obtain ⟨position, there⟩ := List.getElem?_of_mem member
  refine ⟨position, _, by simp only [ConsumerRun.step, there, if_pos notifying]; rfl, ?_⟩
  intro thread member
  obtain ⟨old, -, rfl⟩ := List.mem_map.mp member
  unfold Thread.unpark Thread.isParked
  cases pc : old.pc <;> simp [pc]

/-- Two threads wait, and an event is queued. -/
theorem parked_announced_two : ∃ run, (consumerRuns oneMessageStream).run {}
      [.call false, .call true, .look 0 false, .look 1 false, .operation (.emit .connecting)] = some run ∧
    ∃ position next, run.step oneMessageStream (.notifyAll position) = some next ∧
      ∀ thread ∈ next.threads, thread.isParked = false := by
  have ran : ∃ run, (consumerRuns oneMessageStream).run {}
        [.call false, .call true, .look 0 false, .look 1 false, .operation (.emit .connecting)] =
          some run ∧
      (∃ thread ∈ run.threads, thread.isParked = true) ∧ run.Ready :=
    ⟨_, rfl, ⟨_, List.mem_cons_self, rfl⟩, Or.inl (List.cons_ne_nil _ _)⟩
  obtain ⟨run, ran, waits, ready⟩ := ran
  have reached := StepMachine.reachable_of_run _ (StepMachine.Reachable.init _ rfl) ran
  exact ⟨run, ran, parked_announced oneMessageStream reached waits ready⟩

/-- **Nor is the task that polled last.** Where its poll was pending and it has not been woken since, while an
item is queued or no sender is left, a section holds its waker, and what that section has left to do wakes
it. -/
theorem poller_woken (sh : Shared) {run : ConsumerRun} (reached : (consumerRuns sh).Reachable run)
    {task : Nat} (latest : run.latest = some task) (pending : run.tasks task = .pending)
    (ready : run.Ready) :
    ∃ position labels next,
      (labels = [.notifyAll position, .wake position] ∨ labels = [.wake position]) ∧
      (consumerRuns sh).run run labels = some next ∧ next.tasks task = .woken := by
  have attended := Attended.reached reached
  rcases attended.latest task latest pending with slot | ⟨notifier, member, has, going⟩
  · exact absurd ready (attended.slot (by rw [slot]; rfl))
  have woken : ConsumerRun.wakeTask run.tasks notifier.waker task = .woken := by
    rw [has]
    simp only [ConsumerRun.wakeTask, if_pos pending, Function.update_self]
  obtain ⟨position, there⟩ := List.getElem?_of_mem member
  have inside := (List.getElem?_eq_some_iff.mp there).1
  cases stage : notifier.stage with
  | notifying =>
    have last : (run.notifiers.set position { notifier with stage := .waking })[position]? =
        some { notifier with stage := .waking } := List.getElem?_set_self inside
    have ran : ∃ next, (consumerRuns sh).run run [.notifyAll position, .wake position] = some next ∧
        next.tasks task = .woken := by
      simp only [StepMachine.run, consumerRuns, ConsumerRun.step, there, stage, if_true,
        Option.bind_some, last]
      exact ⟨_, rfl, woken⟩
    obtain ⟨next, ran, awake⟩ := ran
    exact ⟨position, _, next, Or.inl rfl, ran, awake⟩
  | waking =>
    have ran : ∃ next, (consumerRuns sh).run run [.wake position] = some next ∧
        next.tasks task = .woken := by
      simp only [StepMachine.run, consumerRuns, ConsumerRun.step, there, stage, if_true,
        Option.bind_some]
      exact ⟨_, rfl, woken⟩
    obtain ⟨next, ran, awake⟩ := ran
    exact ⟨position, _, next, Or.inr rfl, ran, awake⟩
  | done => exact absurd stage going

/-- A task polls, and the client is dropped. -/
theorem poller_woken_dropped : ∃ run, (consumerRuns oneMessageStream).run {} [.poll 3, .dropSender] =
      some run ∧
    ∃ position labels next,
      (labels = [.notifyAll position, .wake position] ∨ labels = [.wake position]) ∧
      (consumerRuns oneMessageStream).run run labels = some next ∧ next.tasks 3 = .woken := by
  have ran : ∃ run, (consumerRuns oneMessageStream).run {} [.poll 3, .dropSender] = some run ∧
      run.latest = some 3 ∧ run.tasks 3 = .pending ∧ run.Ready := ⟨_, rfl, rfl, rfl, Or.inr rfl⟩
  obtain ⟨run, ran, latest, pending, ready⟩ := ran
  have reached := StepMachine.reachable_of_run _ (StepMachine.Reachable.init _ rfl) ran
  exact ⟨run, ran, poller_woken oneMessageStream reached latest pending ready⟩

end FugleMarketdata
