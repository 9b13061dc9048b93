/-
**The parties that share one stream.** Runs of the critical sections of `stream_queue.rs`.

A connection the caller authenticated has a connection task that reads it, a reconnect loop once
that task has lost the connection, and callers that may close the client at any moment. Each section
is one step; a run is any interleaving, with the consumer's reads in between.

* `Effect` — what one section can do to the reported end, whichever section it is;
* `Run.Inv` — how the two flags, the state and the parties hang together in every order;
* `queued_final` — the final event is queued once and last;
* `connection_matches` — the recorded state agrees with the reported end.
-/

import FugleMarketdata.Lib.StepMachine
import FugleMarketdata.Websocket.StreamQueue

namespace FugleMarketdata

open StepMachines StepMachine

/-! ### The parties and their steps -/

/-- Which of the two tasks of a connection runs. -/
inductive Worker where
  | connectionTask | reconnectLoop | stopped
  deriving DecidableEq, Repr

/-- One step of a party: a critical section with its arguments and the clock reading it makes. -/
inductive Call where
  | pushMessage (now : Nat) (message : WebSocketMessage)
  | taskEmit (event : ConnectionEvent)
  | connectionLost (now : Nat) (code : Option Nat) (reason : String) (intent : DisconnectIntent)
      (willReconnect : Bool)
  | connectionFailed (now : Nat) (event : ConnectionEvent) (reason : String) (willReconnect : Bool)
  | reconnectStep (next : ConnectionState) (event : Option ConnectionEvent)
  | startConnection
  | reconnectRejected (message : String) (data : Value) (frames : List WebSocketMessage)
  | loopEmit (event : ConnectionEvent)
  | reconnectAuthenticated (now : Nat) (data : Value) (frames : List WebSocketMessage)
  | reconnectFailed (code : Option Nat) (attempts : Nat) (reason : String)
      (intent : DisconnectIntent)
  | loopStop
  | clientClosed (now : Nat) (code : Nat) (reason : String)
  | pop
  | dropReceiver

/-- The items a section put behind those that were queued. -/
def queuedBy (before after : State) : List StreamItem := after.items.drop before.items.length

/-- A run: the client, everything queued since the start, the events refused for lack of event
allowance, the task that runs, and whether a party has reported the client's end. -/
structure Run where
  client : Client
  queued : List StreamItem := []
  refused : List ConnectionEvent := []
  worker : Worker := .connectionTask
  ended : Bool := false

namespace Run

/-- The run after a section, with the task that runs next. -/
def after (run : Run) (result : Client × Outcome) (worker : Worker) (ends : Bool) : Run where
  client := result.1
  queued := run.queued ++ queuedBy run.client.stream result.1.stream
  refused := run.refused ++ result.2.droppedEvent.toList
  worker := worker
  ended := run.ended || ends

/-- The run after a section of the reconnect loop, which stops once one returns `false`. -/
def afterLoop (run : Run) (result : Bool × Client × Outcome) (next : Worker) : Run :=
  run.after result.2 (if result.1 then next else .stopped) false

end Run

variable (sh : Shared)

/-- One step of one party. A connection's task reports its end once and is done; the reconnect loop
starts where that report was made with `willReconnect` set. Neither passes a report of an end through
the sections that only queue an event, and the loop's steps set no `Closed` state. -/
def Run.step (run : Run) : Call → Option Run
  | .pushMessage now message =>
    if run.worker = .connectionTask then
      some (run.after (run.client.pushMessage sh now message) .connectionTask false)
    else none
  | .taskEmit event =>
    if run.worker = .connectionTask ∧ event.reportsEnd = false then
      some (run.after (run.client.emitUnlessClosed sh event).2 .connectionTask false)
    else none
  | .connectionLost now code reason intent willReconnect =>
    if run.worker = .connectionTask then
      some (run.after (run.client.connectionLost sh now code reason intent willReconnect)
        (if willReconnect then .reconnectLoop else .stopped) !willReconnect)
    else none
  | .connectionFailed now event reason willReconnect =>
    if run.worker = .connectionTask ∧ event.reportsEnd = false then
      some (run.after (run.client.connectionFailed sh now event reason willReconnect).2
        (if willReconnect then .reconnectLoop else .stopped) !willReconnect)
    else none
  | .reconnectStep next event =>
    if run.worker = .reconnectLoop ∧ next.isClosed = false ∧
        event.all (fun event => !event.reportsEnd) then
      some (run.afterLoop (run.client.reconnectStep sh next event) .reconnectLoop)
    else none
  | .startConnection =>
    if run.worker = .reconnectLoop then
      some (run.after (run.client.startConnection, {}) .reconnectLoop false)
    else none
  | .reconnectRejected message data frames =>
    if run.worker = .reconnectLoop then
      some (run.afterLoop (run.client.reconnectRejected sh message data frames) .reconnectLoop)
    else none
  | .loopEmit event =>
    if run.worker = .reconnectLoop ∧ event.reportsEnd = false then
      some (run.afterLoop (run.client.emitUnlessClosed sh event) .reconnectLoop)
    else none
  | .reconnectAuthenticated now data frames =>
    if run.worker = .reconnectLoop then
      some (run.afterLoop (run.client.reconnectAuthenticated sh now data frames) .connectionTask)
    else none
  | .reconnectFailed code attempts reason intent =>
    if run.worker = .reconnectLoop then
      some (run.after (run.client.reconnectFailed sh code attempts reason intent) .stopped true)
    else none
  | .loopStop =>
    if run.worker = .reconnectLoop then some { run with worker := .stopped } else none
  | .clientClosed now code reason =>
    some (run.after (run.client.clientClosed sh now code reason) run.worker true)
  | .pop =>
    run.client.stream.pop.map fun read => { run with client := { run.client with stream := read.2 } }
  | .dropReceiver =>
    some { run with client := { run.client with stream := run.client.stream.dropReceiver } }

/-- The system: it starts where the caller's `authenticated` has just reported a connection. -/
def streamRuns : StepMachine Run Call where
  start := fun run => ∃ (client : Client) (data : Value) (frames : List WebSocketMessage),
    run = { client := (client.authenticated sh data frames).1 }
  step := Run.step sh

/-! ### What a section can do -/

/-- How the flags and the state hang together whenever no section is running. -/
structure Settled (client : Client) : Prop where
  claimed : client.stream.closeReported = true → client.stream.disconnectClaimed = true
  shut : client.stream.closeReported = true → client.stream.open_ = false
  isClosed : client.stream.closeReported = true → client.connection.isClosed = true

/-- What a section does to the reported end: nothing, report a connection lost, open one, or give up
reconnecting. -/
inductive EndKind where
  | quiet
  | lost (disconnect : Disconnect)
  | opened
  | gaveUp (attempts : Nat)

/-- The effect of a section of each kind. A quiet one queues only items that report no end, and
nothing at all, with no change of state, once the close is reported; the others need the close
unreported. -/
inductive Effect (before after : Client) (new : List StreamItem)
    (dropped : Option ConnectionEvent) : EndKind → Prop
  | quiet (reported : after.stream.closeReported = before.stream.closeReported)
      (claimed : after.stream.disconnectClaimed = before.stream.disconnectClaimed)
      (opened : after.stream.open_ = true → before.stream.open_ = true)
      (items : Quiet new)
      (kept : before.stream.closeReported = true → new = [] ∧ after.connection = before.connection) :
      Effect before after new dropped .quiet
  | lost {disconnect : Disconnect} (reports last : List StreamItem)
      (fresh : before.stream.closeReported = false)
      (reported : after.stream.closeReported = !disconnect.willReconnect)
      (claimed : after.stream.disconnectClaimed = true) (shut : after.stream.open_ = false)
      (state : after.connection = disconnect.state)
      (items : new = reports ++ last) (silent : Quiet reports)
      (either : last = [] ∨ last = [.event disconnect.event])
      (delivered : dropped = none → before.stream.receiverAlive = true →
        last = [.event disconnect.event]) :
      Effect before after new dropped (.lost disconnect)
  | opened (fresh : before.stream.closeReported = false)
      (reported : after.stream.closeReported = false)
      (claimed : after.stream.disconnectClaimed = false)
      (items : Quiet new) :
      Effect before after new dropped .opened
  | gaveUp {attempts : Nat} (fresh : before.stream.closeReported = false)
      (reported : after.stream.closeReported = true)
      (claimed : after.stream.disconnectClaimed = before.stream.disconnectClaimed)
      (shut : after.stream.open_ = before.stream.open_)
      (state : after.connection.isClosed = true)
      (either : new = [] ∨ new = [.event (.reconnectFailed attempts)])
      (delivered : dropped = none → before.stream.receiverAlive = true →
        new = [.event (.reconnectFailed attempts)]) :
      Effect before after new dropped (.gaveUp attempts)

/-- A section of some kind; it leaves the receiver alone. -/
structure Section (before : Client) (result : Client × Outcome) (kind : EndKind) : Prop where
  alive : result.1.stream.receiverAlive = before.stream.receiverAlive
  effect : Effect before result.1 (queuedBy before.stream result.1.stream) result.2.droppedEvent kind

theorem queuedBy_eq {before after : State} {new : List StreamItem}
    (appended : after.items = before.items ++ new) : queuedBy before after = new := by
  rw [queuedBy, appended, List.drop_left]

theorem queuedBy_self (state : State) : queuedBy state state = [] := List.drop_length

/-- A section that does nothing. -/
theorem Section.refl (client : Client) : Section client (client, {}) .quiet where
  alive := rfl
  effect := by
    rw [queuedBy_self]
    exact .quiet rfl rfl id quiet_nil fun _ => ⟨rfl, rfl⟩

/-- A section that only queues items that report no end, in a state with the same flags. -/
theorem Section.of_quiet {before after : Client} {outcome : Outcome} {work : State × Outcome}
    {new : List StreamItem} (pushes : Pushes work (after.stream, outcome) new) (quiet : Quiet new)
    (items : work.1.items = before.stream.items)
    (reported : work.1.closeReported = before.stream.closeReported)
    (claimed : work.1.disconnectClaimed = before.stream.disconnectClaimed)
    (opened : work.1.open_ = before.stream.open_)
    (alive : work.1.receiverAlive = before.stream.receiverAlive)
    (kept : before.stream.closeReported = true → new = [] ∧ after.connection = before.connection) :
    Section before (after, outcome) .quiet where
  alive := pushes.alive.trans alive
  effect := by
    have appended : queuedBy before.stream after.stream = new :=
      queuedBy_eq (pushes.items.trans (by rw [items]))
    show Effect before after (queuedBy before.stream after.stream) outcome.droppedEvent .quiet
    rw [appended]
    refine .quiet (pushes.reported.trans reported) (pushes.claimed.trans claimed) ?_ quiet kept
    rw [pushes.opened.trans opened]
    exact id

/-- A section refused because the close is reported does nothing; otherwise it is `report`. -/
theorem Section.unlessClosed {client : Client} {report : Client → Client × Outcome}
    (free : client.stream.closeReported = false → Section client (report client) .quiet) :
    Section client (client.unlessClosed report).2 .quiet := by
  unfold Client.unlessClosed
  by_cases closed : client.stream.closeReported = true
  · rw [if_pos closed]
    exact Section.refl client
  · rw [if_neg closed]
    exact free (Bool.eq_false_iff.mpr closed)

namespace Client

/-! ### The sections, one by one -/

theorem pushMessage_section (now : Nat) (message : WebSocketMessage) {client : Client}
    (settled : Settled client) : Section client (client.pushMessage sh now message) .quiet := by
  unfold pushMessage
  by_cases shut : (!client.stream.open_) = true
  · rw [if_pos shut]
    exact Section.refl client
  rw [if_neg shut]
  obtain ⟨first, pushes, silent⟩ := State.pushMessageLocked_pushes sh message (client.stream, {})
  obtain ⟨second, pushesReport, silentReport⟩ := State.pushReport_pushes sh now false
    (State.pushMessageLocked sh message (client.stream, {}))
  refine Section.of_quiet (pushes.trans pushesReport)
    (quiet_append (quiet_of_lifecycle silent) (quiet_of_lifecycle silentReport)) rfl rfl rfl rfl rfl
    fun closed => ?_
  rw [settled.shut closed] at shut
  exact absurd rfl shut

theorem startConnection_section (client : Client) :
    Section client (client.startConnection, {}) .quiet where
  alive := rfl
  effect := by
    have none : queuedBy client.stream client.startConnection.stream = [] :=
      queuedBy_eq (List.append_nil _).symm
    show Effect client client.startConnection (queuedBy _ _) _ .quiet
    rw [none]
    exact .quiet rfl rfl (fun opened => by cases opened) quiet_nil fun _ => ⟨rfl, rfl⟩

theorem emitUnlessClosed_section {event : ConnectionEvent} (silent : event.reportsEnd = false)
    (client : Client) : Section client (client.emitUnlessClosed sh event).2 .quiet := by
  refine Section.unlessClosed fun fresh => ?_
  obtain ⟨new, pushes, quiet⟩ := State.pushEvent_quiet sh event silent (client.stream, {})
  refine Section.of_quiet pushes quiet rfl rfl rfl rfl rfl fun closed => ?_
  rw [fresh] at closed
  cases closed

theorem reconnectStep_section {next : ConnectionState} {event : Option ConnectionEvent}
    (silent : event.all (fun event => !event.reportsEnd)) (client : Client) :
    Section client (client.reconnectStep sh next event).2 .quiet := by
  refine Section.unlessClosed fun fresh => ?_
  have none (closed : client.stream.closeReported = true) : False := by
    rw [fresh] at closed
    cases closed
  cases event with
  | none =>
    exact Section.of_quiet (Pushes.refl (client.stream, {})) quiet_nil rfl rfl rfl rfl rfl
      fun closed => (none closed).elim
  | some event =>
    have silent : event.reportsEnd = false := by simpa using silent
    obtain ⟨new, pushes, quiet⟩ := State.pushEvent_quiet sh event silent (client.stream, {})
    exact Section.of_quiet pushes quiet rfl rfl rfl rfl rfl fun closed => (none closed).elim

theorem reconnectRejected_section (message : String) (data : Value)
    (frames : List WebSocketMessage) (client : Client) :
    Section client (client.reconnectRejected sh message data frames).2 .quiet := by
  refine Section.unlessClosed fun fresh => ?_
  obtain ⟨new, pushes, quiet⟩ := State.pushRejection_quiet sh message data frames (client.stream, {})
  refine Section.of_quiet pushes quiet rfl rfl rfl rfl rfl fun closed => ?_
  rw [fresh] at closed
  cases closed

/-- The section is refused and does nothing, or it opens the connection. -/
theorem reconnectAuthenticated_section (now : Nat) (data : Value) (frames : List WebSocketMessage)
    (client : Client) :
    client.reconnectAuthenticated sh now data frames = (false, client, {}) ∨
      Section client (client.reconnectAuthenticated sh now data frames).2 .opened := by
  unfold reconnectAuthenticated unlessClosed
  by_cases closed : client.stream.closeReported = true
  · rw [if_pos closed]
    exact Or.inl rfl
  right
  rw [if_neg closed]
  obtain ⟨new, pushes, quiet⟩ := State.openConnection_quiet sh data frames
    ({ client.stream with reconnectedAt := some now }, {})
  refine ⟨pushes.alive, ?_⟩
  have appended : queuedBy client.stream _ = new := queuedBy_eq pushes.items
  refine .opened (Bool.eq_false_iff.mpr closed) pushes.reported pushes.claimed ?_
  rw [← appended] at quiet
  exact quiet

/-- Reporting a connection lost, where the events before it are already pushed. -/
theorem pushDisconnected_section (now : Nat) (disconnect : Disconnect) {work : State × Outcome}
    {pre : List StreamItem} {before : Client} (conflict : ConflictRecord)
    (fresh : before.stream.closeReported = false)
    (pushed : Pushes (before.stream, {}) work pre) (quiet : Quiet pre) :
    Section before
      ({ stream := (State.pushDisconnected sh now disconnect work).1
         connection := disconnect.state
         conflict },
        (State.pushDisconnected sh now disconnect work).2) (.lost disconnect) := by
  obtain ⟨reports, last, pushes, silent, either, delivered⟩ :=
    State.pushDisconnected_pushes sh now disconnect work
  refine ⟨pushes.alive.trans pushed.alive, ?_⟩
  have appended : queuedBy before.stream (State.pushDisconnected sh now disconnect work).1 =
      (pre ++ reports) ++ last := by
    refine queuedBy_eq (pushes.items.trans ?_)
    show work.1.items ++ (reports ++ last) = _
    rw [pushed.items, List.append_assoc, List.append_assoc]
  have reported : (State.pushDisconnected sh now disconnect work).1.closeReported =
      !disconnect.willReconnect := by
    refine pushes.reported.trans ?_
    show (work.1.closeReported || !disconnect.willReconnect) = _
    rw [pushed.reported.trans fresh, Bool.false_or]
  exact .lost (pre ++ reports) last fresh reported pushes.claimed pushes.opened rfl
    appended (quiet_append quiet (quiet_of_lifecycle silent)) either
    fun none alive => delivered none (pushed.alive.trans alive)

/-- While both flags are equal, a lost connection is reported, or the close already is. -/
theorem connectionLost_section (now : Nat) (code : Option Nat) (reason : String)
    (intent : DisconnectIntent) (willReconnect : Bool) {client : Client}
    (same : client.stream.disconnectClaimed = client.stream.closeReported) :
    client.stream.closeReported = true ∧
        client.connectionLost sh now code reason intent willReconnect = (client, {}) ∨
      Section client (client.connectionLost sh now code reason intent willReconnect)
        (.lost { code, reason, intent, willReconnect }) := by
  unfold connectionLost loseConnection
  by_cases taken : client.stream.disconnectClaimed = true
  · rw [if_pos taken]
    exact Or.inl ⟨same ▸ taken, rfl⟩
  right
  rw [if_neg taken]
  have fresh : client.stream.closeReported = false := Bool.eq_false_iff.mpr (same ▸ taken)
  exact pushDisconnected_section sh now _ client.conflict fresh (Pushes.refl _) quiet_nil

theorem connectionFailed_section (now : Nat) {event : ConnectionEvent} (reason : String)
    (willReconnect : Bool) (silent : event.reportsEnd = false) {client : Client}
    (same : client.stream.disconnectClaimed = client.stream.closeReported) :
    client.stream.closeReported = true ∧
        client.connectionFailed sh now event reason willReconnect = (false, client, {}) ∨
      Section client (client.connectionFailed sh now event reason willReconnect).2
        (.lost { code := none, reason, intent := .network, willReconnect }) := by
  unfold connectionFailed unlessClosed
  by_cases closed : client.stream.closeReported = true
  · rw [if_pos closed]
    exact Or.inl ⟨closed, rfl⟩
  right
  rw [if_neg closed]
  obtain ⟨new, pushes, quiet⟩ := State.pushEvent_quiet sh event silent (client.stream, {})
  have free : ¬ (State.pushEvent sh event (client.stream, {})).1.disconnectClaimed = true := by
    rw [pushes.claimed]
    exact same ▸ closed
  unfold loseConnection
  simp only [if_neg free]
  exact pushDisconnected_section sh now _ client.conflict (Bool.eq_false_iff.mpr closed) pushes quiet

/-- A close that is reported, with the `Closed` state it recorded, stands. -/
theorem clientClosed_reported (now code : Nat) (reason : String) {client : Client}
    (reported : client.stream.closeReported = true) (closed : client.connection.isClosed = true) :
    client.clientClosed sh now code reason = (client, {}) := by
  unfold clientClosed
  have keep : (client.stream.closeReported && client.connection.isClosed) = true := by
    rw [reported, closed]
    rfl
  simp only [keep, if_true]
  rw [reported]
  rfl

theorem clientClosed_section (now code : Nat) (reason : String) {client : Client}
    (settled : Settled client) :
    client.stream.closeReported = true ∧ client.clientClosed sh now code reason = (client, {}) ∨
      Section client (client.clientClosed sh now code reason)
        (.lost { code := some code, reason, intent := .client, willReconnect := false }) := by
  by_cases closed : client.stream.closeReported = true
  · exact Or.inl ⟨closed, clientClosed_reported sh now code reason closed (settled.isClosed closed)⟩
  · right
    have fresh : client.stream.closeReported = false := Bool.eq_false_iff.mpr closed
    unfold clientClosed
    simp only [fresh, Bool.false_and, Bool.false_eq_true, if_false, Bool.not_false, if_true]
    exact pushDisconnected_section sh now _ _ fresh (Pushes.refl _) quiet_nil

theorem reconnectFailed_section (code : Option Nat) (attempts : Nat) (reason : String)
    (intent : DisconnectIntent) (client : Client) :
    client.stream.closeReported = true ∧
        client.reconnectFailed sh code attempts reason intent = (client, {}) ∨
      Section client (client.reconnectFailed sh code attempts reason intent) (.gaveUp attempts) := by
  unfold reconnectFailed
  by_cases closed : client.stream.closeReported = true
  · rw [if_pos closed]
    exact Or.inl ⟨closed, rfl⟩
  right
  rw [if_neg closed]
  obtain ⟨new, pushes, either, delivered⟩ := State.pushEvent_pushes sh (.reconnectFailed attempts)
    ({ client.stream with closeReported := true }, {})
  refine ⟨pushes.alive, ?_⟩
  have appended : queuedBy client.stream _ = new := queuedBy_eq pushes.items
  have delivered : _ → client.stream.receiverAlive = true → new = _ := delivered
  rw [← appended] at either delivered
  exact .gaveUp (Bool.eq_false_iff.mpr closed) pushes.reported pushes.claimed pushes.opened
    rfl either delivered

end Client

/-! ### The invariant of a run -/

/-- The items queued so far, as far as the final event is concerned. -/
structure FinalOnce (client : Client) (queued : List StreamItem)
    (refused : List ConnectionEvent) : Prop where
  fresh : client.stream.closeReported = false → ∀ item ∈ queued, item.isFinal = false
  last : queued.Pairwise fun earlier _ => earlier.isFinal = false
  queued : client.stream.closeReported = true → refused = [] →
    client.stream.receiverAlive = true → ∃ item ∈ queued, item.isFinal = true

/-- The invariant: a close that is reported has shut the connection and recorded `Closed`; while the
connection's task runs both flags are equal; while the reconnect loop runs the `Disconnected` is
claimed and nothing is accepted. -/
structure Run.Inv (run : Run) : Prop where
  settled : Settled run.client
  task : run.worker = .connectionTask →
    run.client.stream.disconnectClaimed = run.client.stream.closeReported
  loop : run.worker = .reconnectLoop →
    run.client.stream.disconnectClaimed = true ∧ run.client.stream.open_ = false
  ended : run.ended = true → run.client.stream.closeReported = true
  once : FinalOnce run.client run.queued run.refused

theorem Effect.settled {before after : Client} {new : List StreamItem}
    {dropped : Option ConnectionEvent} {kind : EndKind} (effect : Effect before after new dropped kind)
    (settled : Settled before)
    (held : ∀ attempts, kind = .gaveUp attempts →
      before.stream.disconnectClaimed = true ∧ before.stream.open_ = false) : Settled after := by
  cases effect with
  | quiet reported claimed opened items kept =>
    refine ⟨fun closed => ?_, fun closed => ?_, fun closed => ?_⟩ <;> rw [reported] at closed
    · rw [claimed, settled.claimed closed]
    · rw [← Bool.not_eq_true]
      intro stillOpen
      rw [settled.shut closed] at opened
      exact absurd (opened stillOpen) Bool.false_ne_true
    · rw [(kept closed).2, settled.isClosed closed]
  | @lost disconnect reports last fresh reported claimed shut state items silent either delivered =>
    refine ⟨fun _ => claimed, fun _ => shut, fun closed => ?_⟩
    rw [reported, Bool.not_eq_true'] at closed
    rw [state, Disconnect.state, closed]
    rfl
  | opened fresh reported claimed items =>
    refine ⟨fun closed => ?_, fun closed => ?_, fun closed => ?_⟩ <;>
      exact absurd (reported.symm.trans closed) Bool.false_ne_true
  | gaveUp fresh reported claimed shut state either delivered =>
    obtain ⟨taken, nothing⟩ := held _ rfl
    exact ⟨fun _ => claimed.trans taken, fun _ => shut.trans nothing, fun _ => state⟩

/-- A reported close stays reported. -/
theorem Effect.stays_reported {before after : Client} {new : List StreamItem}
    {dropped : Option ConnectionEvent} {kind : EndKind} (effect : Effect before after new dropped kind)
    (closed : before.stream.closeReported = true) : after.stream.closeReported = true := by
  cases effect with
  | quiet reported => exact reported.trans closed
  | lost _ _ fresh => exact absurd (fresh.symm.trans closed) Bool.false_ne_true
  | opened fresh => exact absurd (fresh.symm.trans closed) Bool.false_ne_true
  | gaveUp fresh => exact absurd (fresh.symm.trans closed) Bool.false_ne_true

theorem pairwise_of_fresh {items : List StreamItem} (fresh : ∀ item ∈ items, item.isFinal = false) :
    items.Pairwise fun earlier _ => earlier.isFinal = false :=
  List.pairwise_of_forall_mem_list fun earlier member _ _ => fresh earlier member

/-- Items of which only the last may be final. -/
theorem pairwise_append_last {items last : List StreamItem}
    (fresh : ∀ item ∈ items, item.isFinal = false) (short : last.length ≤ 1) :
    (items ++ last).Pairwise fun earlier _ => earlier.isFinal = false := by
  rw [List.pairwise_append]
  refine ⟨pairwise_of_fresh fresh, ?_, fun earlier member _ _ => fresh earlier member⟩
  cases last with
  | nil => exact List.Pairwise.nil
  | cons item rest =>
    obtain rfl : rest = [] := List.length_eq_zero_iff.mp (Nat.le_zero.mp (Nat.le_of_succ_le_succ short))
    exact List.pairwise_singleton _ item

theorem isFinal_append {queued new : List StreamItem} (fresh : ∀ item ∈ queued, item.isFinal = false)
    (quiet : Quiet new) : ∀ item ∈ queued ++ new, item.isFinal = false := by
  intro item member
  rcases List.mem_append.mp member with member | member
  · exact fresh item member
  · exact quiet.not_isFinal member

theorem Disconnect.isFinal_event (disconnect : Disconnect) :
    disconnect.event.isFinal = !disconnect.willReconnect := rfl

/-- An effect keeps the final event single and last. -/
theorem Effect.finalOnce {before after : Client} {new queued : List StreamItem}
    {refused : List ConnectionEvent} {dropped : Option ConnectionEvent} {kind : EndKind}
    (effect : Effect before after new dropped kind)
    (alive : after.stream.receiverAlive = before.stream.receiverAlive)
    (once : FinalOnce before queued refused) :
    FinalOnce after (queued ++ new) (refused ++ dropped.toList) := by
  have split (nothing : refused ++ dropped.toList = []) : refused = [] ∧ dropped = none := by
    rw [List.append_eq_nil_iff, Option.toList_eq_nil_iff] at nothing
    exact nothing
  cases effect with
  | quiet reported claimed opened items kept =>
    by_cases closed : before.stream.closeReported = true
    · obtain ⟨rfl, -⟩ := kept closed
      rw [List.append_nil]
      refine ⟨fun open_ => ?_, once.last, fun _ nothing there => ?_⟩
      · exact absurd (reported.symm.trans open_) (by rw [closed]; exact Bool.false_ne_true.symm)
      · exact once.queued closed (split nothing).1 (alive ▸ there)
    · have open_ : before.stream.closeReported = false := Bool.eq_false_iff.mpr closed
      have fresh := isFinal_append (once.fresh open_) items
      refine ⟨fun _ => fresh, pairwise_of_fresh fresh, fun now => ?_⟩
      exact absurd (reported.symm.trans now) closed
  | @lost disconnect reports last open_ reported claimed shut state items silent either delivered =>
    subst items
    have fresh := isFinal_append (once.fresh open_) silent
    rw [← List.append_assoc]
    refine ⟨fun stays item member => ?_, ?_, fun now nothing there => ?_⟩
    · rcases List.mem_append.mp member with member | member
      · exact fresh item member
      · rcases either with rfl | rfl
        · cases member
        · rw [List.mem_singleton.mp member]
          exact disconnect.isFinal_event.trans (reported.symm.trans stays)
    · refine pairwise_append_last fresh ?_
      rcases either with rfl | rfl
      · exact Nat.zero_le 1
      · exact Nat.le_refl 1
    · refine ⟨.event disconnect.event, ?_, disconnect.isFinal_event.trans (reported.symm.trans now)⟩
      rw [delivered (split nothing).2 (alive ▸ there)]
      exact List.mem_append_right _ (List.mem_singleton.mpr rfl)
  | opened open_ reported claimed items =>
    have fresh := isFinal_append (once.fresh open_) items
    refine ⟨fun _ => fresh, pairwise_of_fresh fresh, fun now => ?_⟩
    exact absurd (reported.symm.trans now) Bool.false_ne_true
  | @gaveUp attempts open_ reported claimed shut state either delivered =>
    refine ⟨fun stays => ?_, ?_, fun _ nothing there => ?_⟩
    · exact absurd (reported.symm.trans stays) Bool.false_ne_true.symm
    · refine pairwise_append_last (once.fresh open_) ?_
      rcases either with rfl | rfl
      · exact Nat.zero_le 1
      · exact Nat.le_refl 1
    · refine ⟨.event (.reconnectFailed attempts), ?_, rfl⟩
      rw [delivered (split nothing).2 (alive ▸ there)]
      exact List.mem_append_right _ (List.mem_singleton.mpr rfl)

/-! ### One step -/

/-- A step of a run: a section, with what the task that runs next relies on, or a step that queues
nothing and leaves the flags and the state alone. -/
inductive Run.Move (run : Run) : Run → Prop
  | ran {result : Client × Outcome} {kind : EndKind} {worker : Worker} {ends : Bool}
      (effect : Section run.client result kind)
      (task : worker = .connectionTask →
        result.1.stream.disconnectClaimed = result.1.stream.closeReported)
      (loop : worker = .reconnectLoop →
        result.1.stream.disconnectClaimed = true ∧ result.1.stream.open_ = false)
      (ended : ends = true → result.1.stream.closeReported = true)
      (held : ∀ attempts, kind = .gaveUp attempts →
        run.client.stream.disconnectClaimed = true ∧ run.client.stream.open_ = false) :
      Move run (run.after result worker ends)
  | aside {next : Run} (connection : next.client.connection = run.client.connection)
      (reported : next.client.stream.closeReported = run.client.stream.closeReported)
      (claimed : next.client.stream.disconnectClaimed = run.client.stream.disconnectClaimed)
      (opened : next.client.stream.open_ = run.client.stream.open_)
      (alive : next.client.stream.receiverAlive = true → run.client.stream.receiverAlive = true)
      (queued : next.queued = run.queued) (refused : next.refused = run.refused)
      (worker : next.worker = run.worker ∨ next.worker = .stopped)
      (ended : next.ended = run.ended) : Move run next

namespace Run

/-- A quiet section run by the task or the loop, which goes on or stops. -/
theorem Inv.quiet_move {run : Run} (inv : Inv run) {result : Client × Outcome} {worker : Worker}
    (effect : Section run.client result .quiet) (goesOn : worker = run.worker ∨ worker = .stopped) :
    Move run (run.after result worker false) := by
  obtain ⟨reported, claimed, opened, -, -⟩ := effect.effect
  refine .ran effect (fun task => ?_) (fun loop => ?_) (fun ends => by cases ends)
    fun attempts given => by cases given
  · rcases goesOn with rfl | rfl
    · rw [claimed, reported, inv.task task]
    · cases task
  · rcases goesOn with rfl | rfl
    · refine ⟨claimed.trans (inv.loop loop).1, ?_⟩
      rw [← Bool.not_eq_true]
      intro now
      rw [(inv.loop loop).2] at opened
      exact absurd (opened now) Bool.false_ne_true
    · cases loop

/-- A section that reports the connection lost, or finds the close reported and does nothing. -/
theorem Inv.lost_move {run : Run} (inv : Inv run) {result : Client × Outcome} {worker : Worker}
    {disconnect : Disconnect}
    (either : run.client.stream.closeReported = true ∧ result = (run.client, {}) ∨
      Section run.client result (.lost disconnect))
    (task : worker = .connectionTask →
      run.worker = .connectionTask ∧ disconnect.willReconnect = false) :
    Move run (run.after result worker !disconnect.willReconnect) := by
  rcases either with ⟨closed, rfl⟩ | effect
  · refine .ran (Section.refl run.client) (fun now => ?_) (fun _ => ?_) (fun _ => closed)
      fun attempts given => by cases given
    · exact inv.task (task now).1
    · exact ⟨inv.settled.claimed closed, inv.settled.shut closed⟩
  · cases effect.effect with | lost _ _ _ reported claimed shut =>
    refine .ran effect (fun now => ?_) (fun _ => ⟨claimed, shut⟩) (fun ends => ?_)
      fun attempts given => by cases given
    · rw [claimed, reported, (task now).2]
      rfl
    · rw [reported, ends]

theorem step_move {run next : Run} {call : Call} (inv : Inv run)
    (stepped : run.step sh call = some next) : Move run next := by
  cases call with
  | pushMessage now message =>
    simp only [step, Option.ite_none_right_eq_some, Option.some.injEq] at stepped
    obtain ⟨task, rfl⟩ := stepped
    exact inv.quiet_move (Client.pushMessage_section sh now message inv.settled) (Or.inl task.symm)
  | taskEmit event =>
    simp only [step, Option.ite_none_right_eq_some, Option.some.injEq] at stepped
    obtain ⟨⟨task, silent⟩, rfl⟩ := stepped
    exact inv.quiet_move (Client.emitUnlessClosed_section sh silent run.client) (Or.inl task.symm)
  | connectionLost now code reason intent willReconnect =>
    simp only [step, Option.ite_none_right_eq_some, Option.some.injEq] at stepped
    obtain ⟨task, rfl⟩ := stepped
    refine inv.lost_move (Client.connectionLost_section sh now code reason intent willReconnect
      (inv.task task)) fun still => ?_
    cases willReconnect <;> cases still
  | connectionFailed now event reason willReconnect =>
    simp only [step, Option.ite_none_right_eq_some, Option.some.injEq] at stepped
    obtain ⟨⟨task, silent⟩, rfl⟩ := stepped
    have either := Client.connectionFailed_section sh now reason willReconnect silent (inv.task task)
    refine inv.lost_move (either.imp_left fun refused => ⟨refused.1, ?_⟩) fun still => ?_
    · rw [refused.2]
    · cases willReconnect <;> cases still
  | reconnectStep state event =>
    simp only [step, Option.ite_none_right_eq_some, Option.some.injEq] at stepped
    obtain ⟨⟨loop, -, silent⟩, rfl⟩ := stepped
    refine inv.quiet_move (Client.reconnectStep_section sh silent run.client) ?_
    split
    · exact Or.inl loop.symm
    · exact Or.inr rfl
  | startConnection =>
    simp only [step, Option.ite_none_right_eq_some, Option.some.injEq] at stepped
    obtain ⟨loop, rfl⟩ := stepped
    exact inv.quiet_move (Client.startConnection_section run.client) (Or.inl loop.symm)
  | reconnectRejected message data frames =>
    simp only [step, Option.ite_none_right_eq_some, Option.some.injEq] at stepped
    obtain ⟨loop, rfl⟩ := stepped
    refine inv.quiet_move (Client.reconnectRejected_section sh message data frames run.client) ?_
    split
    · exact Or.inl loop.symm
    · exact Or.inr rfl
  | loopEmit event =>
    simp only [step, Option.ite_none_right_eq_some, Option.some.injEq] at stepped
    obtain ⟨⟨loop, silent⟩, rfl⟩ := stepped
    refine inv.quiet_move (Client.emitUnlessClosed_section sh silent run.client) ?_
    split
    · exact Or.inl loop.symm
    · exact Or.inr rfl
  | reconnectAuthenticated now data frames =>
    simp only [step, Option.ite_none_right_eq_some, Option.some.injEq] at stepped
    obtain ⟨loop, rfl⟩ := stepped
    rcases Client.reconnectAuthenticated_section sh now data frames run.client with refused | effect
    · rw [refused]
      exact inv.quiet_move (Section.refl run.client) (Or.inr rfl)
    · cases effect.effect with | opened _ reported claimed =>
      refine .ran effect (fun _ => claimed.trans reported.symm) (fun now => ?_)
        (fun ends => by cases ends) fun attempts given => by cases given
      split at now <;> cases now
  | reconnectFailed code attempts reason intent =>
    simp only [step, Option.ite_none_right_eq_some, Option.some.injEq] at stepped
    obtain ⟨loop, rfl⟩ := stepped
    rcases Client.reconnectFailed_section sh code attempts reason intent run.client with
      ⟨closed, refused⟩ | effect
    · rw [refused]
      exact .ran (Section.refl run.client) (fun now => by cases now) (fun now => by cases now)
        (fun _ => closed) fun attempts given => by cases given
    · cases effect.effect with | gaveUp _ reported =>
      exact .ran effect (fun now => by cases now) (fun now => by cases now) (fun _ => reported)
        fun _ _ => inv.loop loop
  | loopStop =>
    simp only [step, Option.ite_none_right_eq_some, Option.some.injEq] at stepped
    obtain ⟨-, rfl⟩ := stepped
    exact .aside rfl rfl rfl rfl id rfl rfl (Or.inr rfl) rfl
  | clientClosed now code reason =>
    simp only [step, Option.some.injEq] at stepped
    subst stepped
    exact inv.lost_move (Client.clientClosed_section sh now code reason inv.settled)
      fun task => ⟨task, rfl⟩
  | pop =>
    simp only [step, Option.map_eq_some_iff] at stepped
    obtain ⟨⟨item, state⟩, read, rfl⟩ := stepped
    unfold State.pop at read
    split at read
    · cases read
    all_goals
      rw [Option.some.injEq, Prod.mk.injEq] at read
      obtain ⟨-, rfl⟩ := read
      exact .aside rfl rfl rfl rfl id rfl rfl (Or.inl rfl) rfl
  | dropReceiver =>
    simp only [step, Option.some.injEq] at stepped
    subst stepped
    exact .aside rfl rfl rfl rfl (fun alive => by cases alive) rfl rfl (Or.inl rfl) rfl

theorem Move.inv {run next : Run} (inv : Inv run) (move : Move run next) : Inv next := by
  cases move with
  | @ran result kind worker ends effect task loop ended held =>
    refine ⟨effect.effect.settled inv.settled held, task, loop, fun past => ?_,
      effect.effect.finalOnce effect.alive inv.once⟩
    have either : (run.ended || ends) = true := past
    rw [Bool.or_eq_true] at either
    rcases either with before | now
    · exact effect.effect.stays_reported (inv.ended before)
    · exact ended now
  | aside connection reported claimed opened alive queued refused worker ended =>
    obtain ⟨settled, task, loop, past, fresh, last, final⟩ := inv
    refine ⟨⟨?_, ?_, ?_⟩, fun now => ?_, fun now => ?_, ?_, ⟨?_, ?_, ?_⟩⟩
    · rw [reported, claimed]
      exact settled.claimed
    · rw [reported, opened]
      exact settled.shut
    · rw [reported, connection]
      exact settled.isClosed
    · rw [claimed, reported]
      refine task (worker.elim (fun same => same.symm.trans now) fun stopped => ?_)
      cases stopped.symm.trans now
    · rw [claimed, opened]
      refine loop (worker.elim (fun same => same.symm.trans now) fun stopped => ?_)
      cases stopped.symm.trans now
    · rw [ended, reported]
      exact past
    · rw [reported, queued]
      exact fresh
    · rw [queued]
      exact last
    · rw [reported, refused, queued]
      exact fun closed none there => final closed none (alive there)

end Run

/-! ### Every run -/

theorem Run.start_inv {run : Run} (starts : (streamRuns sh).start run) : Run.Inv run := by
  obtain ⟨client, data, frames, rfl⟩ := starts
  obtain ⟨new, pushes, -⟩ := State.openConnection_quiet sh data frames
    ({ client.stream with reconnectedAt := none }, {})
  have open_ (closed : (client.authenticated sh data frames).1.stream.closeReported = true) : False :=
    absurd (pushes.reported.symm.trans closed) Bool.false_ne_true
  exact
    { settled := ⟨fun closed => (open_ closed).elim, fun closed => (open_ closed).elim,
        fun closed => (open_ closed).elim⟩
      task := fun _ => pushes.claimed.trans pushes.reported.symm
      loop := fun loop => by cases loop
      ended := fun ended => by cases ended
      once := ⟨fun _ _ member => (List.not_mem_nil member).elim, List.Pairwise.nil,
        fun closed => (open_ closed).elim⟩ }

theorem Run.reachable_inv {run : Run} (reached : (streamRuns sh).Reachable run) : Run.Inv run :=
  reached.invariant (fun _ starts => Run.start_inv sh starts)
    fun _ _ _ inv stepped => (Run.step_move sh inv stepped).inv inv

/-- Where only the last item may be final, at most one is. -/
theorem length_filter_isFinal_le {items : List StreamItem}
    (last : items.Pairwise fun earlier _ => earlier.isFinal = false) :
    (items.filter StreamItem.isFinal).length ≤ 1 := by
  have finals : ∀ item ∈ items.filter StreamItem.isFinal, item.isFinal = true :=
    fun item member => (List.mem_filter.mp member).2
  have ordered := last.filter StreamItem.isFinal
  match kept : items.filter StreamItem.isFinal with
  | [] => exact Nat.zero_le 1
  | [_] => exact Nat.le_refl 1
  | first :: second :: rest =>
    rw [kept] at finals ordered
    have earlier := (List.pairwise_cons.mp ordered).1 second List.mem_cons_self
    exact absurd (finals first List.mem_cons_self) (by rw [earlier]; exact Bool.false_ne_true)

/-- A stream with room for four messages and four events. -/
def smallStream : Shared where
  messageCapacity := some 4
  eventCapacity := 4
  toJson := fun _ => ""
  seconds := fun _ => ""

/-- A connection just authenticated. -/
def Run.authenticated : Run := { client := (({} : Client).authenticated smallStream .null []).1 }

/-- The connection is lost, its reconnect starts, and two callers close the client. -/
def closedReconnect : List Call :=
  [.connectionLost 0 none "reset" .network true, .reconnectStep .connecting (some .connecting),
    .clientClosed 5 1000 "bye", .clientClosed 6 1000 "bye", .loopEmit .connecting]

theorem Run.authenticated_reachable : (streamRuns smallStream).Reachable Run.authenticated :=
  .init _ ⟨{}, .null, [], rfl⟩

/-- **The final event is final.** In every interleaving at most one final event is queued and no
item comes behind it; and once a party has closed the client or given up reconnecting, exactly one
has been queued, unless an event was refused for lack of allowance or the receiver is gone. -/
theorem queued_final {run : Run} (reached : (streamRuns sh).Reachable run) :
    (run.queued.filter StreamItem.isFinal).length ≤ 1 ∧
      (run.queued.Pairwise fun earlier _ => earlier.isFinal = false) ∧
      (run.ended = true → run.refused = [] → run.client.stream.receiverAlive = true →
        (run.queued.filter StreamItem.isFinal).length = 1) := by
  have inv := Run.reachable_inv sh reached
  have most := length_filter_isFinal_le inv.once.last
  refine ⟨most, inv.once.last, fun ended nothing alive => Nat.le_antisymm most ?_⟩
  obtain ⟨item, member, final⟩ := inv.once.queued (inv.ended ended) nothing alive
  exact List.length_pos_of_mem (List.mem_filter.mpr ⟨member, final⟩)

theorem queued_final_closedReconnect :
    ∃ run, (streamRuns smallStream).run Run.authenticated closedReconnect = some run ∧
      run.queued.length = 3 ∧ (run.queued.filter StreamItem.isFinal).length = 1 := by
  refine ⟨_, rfl, rfl, ?_⟩
  have reached := reachable_of_run closedReconnect Run.authenticated_reachable rfl
  exact (queued_final smallStream reached).2.2 rfl rfl rfl

/-- The items a step queued. -/
def Run.newItems (run next : Run) : List StreamItem := next.queued.drop run.queued.length

theorem Run.newItems_after (run : Run) (result : Client × Outcome) (worker : Worker) (ends : Bool) :
    run.newItems (run.after result worker ends) = queuedBy run.client.stream result.1.stream :=
  List.drop_left

/-- An item that reports an end comes from a section that reports it, the state set to match. -/
theorem Effect.reportsEnd {before after : Client} {new : List StreamItem}
    {dropped : Option ConnectionEvent} {kind : EndKind} (effect : Effect before after new dropped kind)
    {event : ConnectionEvent} (member : .event event ∈ new) (reports : event.reportsEnd = true) :
    (∃ disconnect : Disconnect, event = disconnect.event ∧ after.connection = disconnect.state) ∨
      (∃ attempts, event = .reconnectFailed attempts ∧ after.connection.isClosed = true) := by
  have loud {items : List StreamItem} (quiet : Quiet items) (within : .event event ∈ items) : False :=
    absurd (reports.symm.trans (quiet (.event event) within)) Bool.false_ne_true.symm
  cases effect with
  | quiet _ _ _ items => exact (loud items member).elim
  | @lost disconnect pre last _ _ _ _ state items silent either =>
    rw [items] at member
    rcases List.mem_append.mp member with member | member
    · exact (loud silent member).elim
    · rcases either with rfl | rfl
      · cases member
      · exact Or.inl ⟨disconnect, StreamItem.event.inj (List.mem_singleton.mp member), state⟩
  | opened _ _ _ items => exact (loud items member).elim
  | @gaveUp attempts _ _ _ _ state either =>
    rcases either with rfl | rfl
    · cases member
    · exact Or.inr ⟨attempts, StreamItem.event.inj (List.mem_singleton.mp member), state⟩

/-- **The recorded state matches the reported end.** In every interleaving, the step that queues a
final `Disconnected` records `Closed` with the event's code, reason and intent, the one that queues
`ReconnectFailed` records `Closed`, the one that queues a `Disconnected` before a reconnect records
`Disconnected`, and no step changes the state once a final event is queued. -/
theorem connection_matches {run next : Run} {call : Call} (reached : (streamRuns sh).Reachable run)
    (stepped : (streamRuns sh).step run call = some next) :
    (∀ code reason intent, .event (.disconnected code reason intent false) ∈ run.newItems next →
        next.client.connection = .closed code reason intent) ∧
      (∀ attempts, .event (.reconnectFailed attempts) ∈ run.newItems next →
        next.client.connection.isClosed = true) ∧
      (∀ code reason intent, .event (.disconnected code reason intent true) ∈ run.newItems next →
        next.client.connection = .disconnected) ∧
      ((∃ item ∈ run.queued, item.isFinal = true) →
        next.client.connection = run.client.connection) := by
  have inv := Run.reachable_inv sh reached
  have closed (final : ∃ item ∈ run.queued, item.isFinal = true) :
      run.client.stream.closeReported = true := by
    rw [← Bool.not_eq_false]
    intro fresh
    obtain ⟨item, member, final⟩ := final
    exact absurd final (by rw [inv.once.fresh fresh item member]; exact Bool.false_ne_true)
  cases Run.step_move sh inv stepped with
  | @ran result kind worker ends effect =>
    rw [Run.newItems_after]
    refine ⟨fun code reason intent member => ?_, fun attempts member => ?_,
      fun code reason intent member => ?_, fun final => ?_⟩
    · rcases effect.effect.reportsEnd member rfl with ⟨disconnect, same, state⟩ | ⟨_, same, _⟩
      · obtain ⟨rfl, rfl, rfl, will⟩ := ConnectionEvent.disconnected.inj same
        refine state.trans ?_
        rw [Disconnect.state, ← will]
        rfl
      · cases same
    · rcases effect.effect.reportsEnd member rfl with ⟨_, same, _⟩ | ⟨_, _, state⟩
      · cases same
      · exact state
    · rcases effect.effect.reportsEnd member rfl with ⟨disconnect, same, state⟩ | ⟨_, same, _⟩
      · obtain ⟨-, -, -, will⟩ := ConnectionEvent.disconnected.inj same
        refine state.trans ?_
        rw [Disconnect.state, ← will]
        rfl
      · cases same
    · cases effect.effect with
      | quiet _ _ _ _ kept => exact (kept (closed final)).2
      | lost _ _ fresh => exact absurd (fresh.symm.trans (closed final)) Bool.false_ne_true
      | opened fresh => exact absurd (fresh.symm.trans (closed final)) Bool.false_ne_true
      | gaveUp fresh => exact absurd (fresh.symm.trans (closed final)) Bool.false_ne_true
  | aside connection _ _ _ _ queued =>
    have nothing : run.newItems next = [] := by
      rw [Run.newItems, queued]
      exact List.drop_length
    rw [nothing]
    exact ⟨fun _ _ _ member => (List.not_mem_nil member).elim,
      fun _ member => (List.not_mem_nil member).elim,
      fun _ _ _ member => (List.not_mem_nil member).elim, fun _ => connection⟩

theorem connection_matches_clientClosed :
    ∃ next, (streamRuns smallStream).step Run.authenticated (.clientClosed 5 1000 "bye") = some next ∧
      next.client.connection = .closed (some 1000) "bye" .client := by
  refine ⟨_, rfl, ?_⟩
  have stepped : (streamRuns smallStream).step Run.authenticated (.clientClosed 5 1000 "bye") =
      some _ := rfl
  exact (connection_matches smallStream Run.authenticated_reachable stepped).1 (some 1000) "bye"
    .client (List.mem_singleton.mpr rfl)

end FugleMarketdata
