/-
**Where the async client is connected.** What the state and the slots of the writers are at each point of
`connect()` and of the dispatch task, in every run of `aioRuns` until a call asks the client to stop.

* `Client.Up`, `Client.Down` — a connection that is up and unreported, and one that is not;
* `LoopAt.Stands`, `dispatch_stands` — which of the two the dispatch task finds where it is;
* `AioRun.Stands` — the state `Connected` belongs to a connection whose writer is in its slots, or to one
  the dispatch task is about to install.
-/

import FugleMarketdata.Websocket.Outbound

namespace FugleMarketdata

open StepMachines StepMachine

/-! ### The state of the connection -/

namespace Client

/-- The client is connected, and nothing was reported of the connection's end. -/
structure Up (client : Client) : Prop where
  connected : client.connection = .connected
  unreported : client.stream.closeReported = false
  unclaimed : client.stream.disconnectClaimed = false

/-- The client is not connected, and `Closed` once its close has been reported. -/
structure Down (client : Client) : Prop where
  lost : client.connection ≠ .connected
  closed : client.stream.closeReported = true → client.connection.isClosed = true

/-- A section that reports nothing of the connection's end and leaves the state alone. -/
structure Same (before after : Client) : Prop where
  connection : after.connection = before.connection
  reported : after.stream.closeReported = before.stream.closeReported
  claimed : after.stream.disconnectClaimed = before.stream.disconnectClaimed

theorem Same.refl (client : Client) : Same client client := ⟨rfl, rfl, rfl⟩

theorem Same.of_pushes {before after : Client} {outcome : Outcome} {new : List StreamItem}
    (pushes : Pushes (before.stream, {}) (after.stream, outcome) new)
    (same : after.connection = before.connection) : Same before after :=
  ⟨same, pushes.reported, pushes.claimed⟩

theorem Same.up {before after : Client} (same : Same before after) (up : before.Up) : after.Up :=
  ⟨same.connection.trans up.connected, same.reported.trans up.unreported,
    same.claimed.trans up.unclaimed⟩

theorem Same.down {before after : Client} (same : Same before after) (down : before.Down) :
    after.Down where
  lost := fun connected => down.lost (same.connection.symm.trans connected)
  closed := fun reported => by
    rw [same.connection]
    exact down.closed (same.reported.symm.trans reported)

theorem Down.of_closed {client : Client} (closed : client.connection.isClosed = true) :
    client.Down where
  lost := fun connected => by
    rw [connected] at closed
    cases closed
  closed := fun _ => closed

variable (sh : Shared)

theorem emit_same (event : ConnectionEvent) (client : Client) : Same client (client.emit sh event).1 := by
  obtain ⟨new, pushes, -⟩ := State.pushEvent_pushes sh event (client.stream, {})
  exact .of_pushes pushes rfl

theorem unauthenticated_same (message : String) (data : Value) (frames : List WebSocketMessage)
    (client : Client) : Same client (client.unauthenticated sh message data frames).1 := by
  obtain ⟨new, pushes, -⟩ := State.pushRejection_quiet sh message data frames (client.stream, {})
  exact .of_pushes pushes rfl

theorem pushMessage_same (now : Nat) (message : WebSocketMessage) (client : Client) :
    Same client (client.pushMessage sh now message).1 := by
  unfold pushMessage
  split
  · exact .refl client
  · obtain ⟨first, pushes, -⟩ := State.pushMessageLocked_pushes sh message (client.stream, {})
    obtain ⟨second, pushesReport, -⟩ := State.pushReport_pushes sh now false
      (State.pushMessageLocked sh message (client.stream, {}))
    exact .of_pushes (pushes.trans pushesReport) rfl

theorem startConnection_same (client : Client) : Same client client.startConnection := ⟨rfl, rfl, rfl⟩

theorem callerConnecting_same (now : Nat) (client : Client) :
    Same client (client.callerConnecting sh now).1 := by
  unfold callerConnecting
  split
  · exact .refl client
  · split
    · exact ⟨rfl, rfl, rfl⟩
    · obtain ⟨new, pushes, -⟩ := State.pushEvent_pushes sh (.reconnectConflict (sh.seconds _))
        (client.stream, {})
      exact .of_pushes pushes rfl

/-- A section the reported close refuses, or that is run. -/
theorem unlessClosed_cases (client : Client) (report : Client → Client × Outcome) :
    client.stream.closeReported = true ∧ client.unlessClosed report = (false, client, {}) ∨
      client.stream.closeReported = false ∧ client.unlessClosed report = (true, report client) := by
  cases reported : client.stream.closeReported with
  | true => exact .inl ⟨rfl, if_pos reported⟩
  | false =>
    refine .inr ⟨rfl, if_neg ?_⟩
    rw [reported]
    nofun

theorem emitUnlessClosed_same (event : ConnectionEvent) (client : Client) :
    Same client (client.emitUnlessClosed sh event).2.1 := by
  rcases client.unlessClosed_cases fun client => client.onStream (State.pushEvent sh event) with
    ⟨-, refused⟩ | ⟨-, ran⟩
  · rw [emitUnlessClosed, refused]
    exact .refl client
  · rw [emitUnlessClosed, ran]
    exact emit_same sh event client

/-- What is reported before the client's close is. -/
theorem emitUnlessClosed_sent (event : ConnectionEvent) {client : Client}
    (unreported : client.stream.closeReported = false) : (client.emitUnlessClosed sh event).1 = true := by
  unfold emitUnlessClosed unlessClosed
  rw [unreported]
  rfl

/-- What is reported of a connection that was up takes it down, and closes the client where no reconnect
follows. -/
theorem loseConnection_down {client : Client} {work : State × Outcome} {new : List StreamItem} (now : Nat)
    (disconnect : Disconnect) (up : client.Up) (pushes : Pushes (client.stream, {}) work new) :
    (client.loseConnection sh now disconnect work).1.Down ∧
      (disconnect.willReconnect = false →
        (client.loseConnection sh now disconnect work).1.connection.isClosed = true) := by
  have unclaimed : work.1.disconnectClaimed = false := pushes.claimed.trans up.unclaimed
  obtain ⟨reports, last, pushed, -⟩ := State.pushDisconnected_pushes sh now disconnect work
  unfold loseConnection
  rw [unclaimed, if_neg Bool.false_ne_true]
  show Down ⟨_, disconnect.state, _⟩ ∧ (_ → disconnect.state.isClosed = true)
  cases will : disconnect.willReconnect with
  | false =>
    have closed : disconnect.state.isClosed = true := by
      rw [Disconnect.state, will]
      rfl
    exact ⟨.of_closed closed, fun _ => closed⟩
  | true =>
    refine ⟨⟨?_, fun reported => ?_⟩, fun closed => by cases closed⟩
    · show disconnect.state ≠ .connected
      rw [Disconnect.state, will]
      intro connected
      cases connected
    · have open_ : (State.pushDisconnected sh now disconnect work).1.closeReported = false := by
        rw [pushed.reported, will]
        show (work.1.closeReported || false) = false
        rw [pushes.reported]
        exact (Bool.or_false _).trans up.unreported
      have both := open_.symm.trans reported
      cases both

theorem connectionFailed_down {client : Client} (now : Nat) (event : ConnectionEvent) (reason : String)
    (willReconnect : Bool) (up : client.Up) :
    (client.connectionFailed sh now event reason willReconnect).2.1.Down ∧
      (willReconnect = false →
        (client.connectionFailed sh now event reason willReconnect).2.1.connection.isClosed = true) := by
  obtain ⟨new, pushes, -⟩ := State.pushEvent_pushes sh event (client.stream, {})
  unfold connectionFailed unlessClosed
  rw [up.unreported, if_neg Bool.false_ne_true]
  exact loseConnection_down sh now _ up pushes

end Client

/-- The report of how a connection ended. -/
theorem Ending.report_down (sh : Shared) (kind : ClientKind) (now : Nat) (willReconnect : Bool)
    {client : Client} (up : client.Up) (ending : Ending) :
    (ending.report sh kind now willReconnect client).1.Down ∧
      (willReconnect = false →
        (ending.report sh kind now willReconnect client).1.connection.isClosed = true) := by
  cases ending with
  | peerClose code reason => exact Client.loseConnection_down sh now _ up (Pushes.refl _)
  | eof => exact Client.loseConnection_down sh now _ up (Pushes.refl _)
  | readFailed info text => exact Client.connectionFailed_down sh now _ _ willReconnect up
  | writeFailed info text => exact Client.connectionFailed_down sh now _ _ willReconnect up
  | silent elapsed => exact Client.connectionFailed_down sh now _ _ willReconnect up

/-! ### What the dispatch task finds where it is -/

/-- The state of the connection at a point of the dispatch task, while no call has asked the client to
stop. A task that ends then leaves the client `Closed`. -/
def LoopAt.Stands (mgr : ReconnectionManager) (client : Client) : LoopAt → Prop
  | .reading _ | .deciding _ _ | .opened | .replaying _ => client.Up
  | .reporting last ending willReconnect => client.Up ∧ (willReconnect = true →
      mgr.shouldReconnect (ending.close last).code (ending.close last).lastErrorCode = true)
  | .returned close => client.Down ∧ (client.connection.isClosed = true ∨
      mgr.shouldReconnect close.code close.lastErrorCode = true)
  | .ended | .dropped => client.connection.isClosed = true
  | _ => client.Down

theorem LoopAt.Stands.closed {mgr : ReconnectionManager} {client : Client} {pc : LoopAt}
    (stands : pc.Stands mgr client) (ended : pc.isOver = true) :
    client.connection.isClosed = true := by
  cases pc <;> first | exact stands | cases ended

theorem LoopAt.Stands.up {mgr : ReconnectionManager} {client : Client} {pc : LoopAt}
    (stands : pc.Stands mgr client) (unreported : pc.unreported = true) : client.Up := by
  cases pc <;> first | exact stands | exact stands.1 | cases unreported

/-- A task that runs and finds the client connected reads its connection or has just opened it. -/
theorem LoopAt.Stands.place {mgr : ReconnectionManager} {client : Client} {pc : LoopAt}
    (stands : pc.Stands mgr client) (running : pc.isOver = false)
    (connected : client.connection = .connected) :
    pc.unreported = true ∨ pc = .opened ∨ ∃ failures, pc = .replaying failures := by
  cases pc with
  | reading | deciding | reporting => exact .inl rfl
  | opened => exact .inr (.inl rfl)
  | replaying failures => exact .inr (.inr ⟨failures, rfl⟩)
  | returned => exact absurd connected stands.1.lost
  | ended | dropped => cases running
  | _ => exact absurd connected stands.lost

namespace LoopRun

variable {sh : Shared} {run next : LoopRun}

/-- The run is where the state of the connection is as its point has it. -/
def Stands (run : LoopRun) : Prop := run.pc.Stands run.mgr run.client

/-- A section of the reconnect loop that the reported close stops. -/
theorem stands_afterGate {report : Client → Client × Outcome} {pc : LoopAt} (down : run.client.Down)
    (accepted : run.client.stream.closeReported = false →
      pc.Stands run.mgr (report run.client).1) :
    (run.afterGate (run.client.unlessClosed report) pc).Stands := by
  rcases run.client.unlessClosed_cases report with ⟨reported, refused⟩ | ⟨unreported, ran⟩
  · rw [refused]
    exact down.closed reported
  · rw [ran]
    exact accepted unreported

/-- A step of the reconnect loop that sets a state other than `Connected`. -/
theorem stands_reconnectStep {state : ConnectionState} {event : Option ConnectionEvent} {pc : LoopAt}
    (down : run.client.Down) (elsewhere : state ≠ .connected)
    (waits : ∀ client : Client, client.Down → pc.Stands run.mgr client) :
    (run.afterGate (run.client.reconnectStep sh state event) pc).Stands := by
  refine stands_afterGate down fun unreported => waits _ ⟨elsewhere, fun reported => ?_⟩
  have kept : (run.client.reconnectStep sh state event).2.1.stream.closeReported = false := by
    unfold Client.reconnectStep Client.unlessClosed
    rw [unreported, if_neg Bool.false_ne_true]
    cases event with
    | none => exact unreported
    | some event =>
      obtain ⟨new, pushes, -⟩ := State.pushEvent_pushes sh event (run.client.stream, {})
      exact pushes.reported.trans unreported
  unfold Client.reconnectStep Client.unlessClosed at kept
  rw [unreported, if_neg Bool.false_ne_true] at kept
  have both := kept.symm.trans reported
  cases both

/-- A section of the reconnect loop that leaves the state alone. -/
theorem stands_sameGate {report : Client → Client × Outcome} {pc : LoopAt} (down : run.client.Down)
    (same : Client.Same run.client (report run.client).1)
    (waits : ∀ client : Client, client.Down → pc.Stands run.mgr client) :
    (run.afterGate (run.client.unlessClosed report) pc).Stands :=
  stands_afterGate down fun _ => waits _ (same.down down)

theorem reconnectFailed_closes {code : Option Nat} {attempts : Nat} {reason : String}
    {intent : DisconnectIntent} {client : Client} (down : client.Down) :
    (client.reconnectFailed sh code attempts reason intent).1.connection.isClosed = true := by
  unfold Client.reconnectFailed
  split
  · rename_i reported
    exact down.closed reported
  · rfl

/-- The steps both clients share, while no call has asked the client to stop. -/
theorem step_stands {kind : ClientKind} {input : Input} (going : run.stop = false)
    (stands : run.Stands) (stepped : run.step sh kind input = some next) : next.Stands := by
  unfold Stands at stands
  unfold LoopRun.step at stepped
  split at stepped
  -- the connection is up
  case h_1 last now message pc =>
    cases stepped
    rw [pc] at stands
    exact (Client.pushMessage_same sh now message run.client).up stands
  case h_2 pc | h_16 pc =>
    cases stepped
    rw [pc] at stands
    exact (Client.emitUnlessClosed_same sh _ run.client).up stands
  case h_3 pc =>
    rw [going, if_neg Bool.false_ne_true] at stepped
    cases stepped
    rw [pc] at stands
    exact stands
  case h_4 last ending now pc =>
    cases stepped
    rw [pc] at stands
    refine ⟨stands, fun will => ?_⟩
    unfold willReconnectAfter at will
    split at will
    · cases will
    · exact will
  case h_5 last ending willReconnect now pc =>
    cases stepped
    rw [pc] at stands
    obtain ⟨up, promised⟩ := stands
    obtain ⟨down, closes⟩ := ending.report_down sh kind now willReconnect up
    refine ⟨down, ?_⟩
    cases will : willReconnect with
    | false => exact .inl (will ▸ closes will)
    | true => exact .inr (promised will)
  -- between attempts
  case h_6 close hash pc =>
    rw [pc] at stands
    rw [going, if_neg Bool.false_ne_true] at stepped
    simp only at stepped
    split at stepped <;> cases stepped <;> exact stands
  case h_7 pc | h_20 pc =>
    cases stepped
    rw [pc] at stands
    exact reconnectFailed_closes stands
  case h_8 pc | h_10 pc | h_13 pc | h_17 pc | h_21 pc =>
    cases stepped
    rw [pc] at stands
    exact stands_reconnectStep stands nofun fun _ => id
  case h_9 pc | h_19 pc | h_22 pc =>
    rw [going, if_neg Bool.false_ne_true] at stepped
    cases stepped
    rw [pc] at stands
    exact stands
  -- an attempt
  case h_11 pc =>
    rw [going, if_neg Bool.false_ne_true] at stepped
    cases stepped
    rw [pc] at stands
    exact stands
  case h_12 pc =>
    cases stepped
    rw [pc] at stands
    exact stands
  case h_14 pc =>
    cases stepped
    rw [pc] at stands
    exact (Client.startConnection_same run.client).down stands
  case h_15 pc =>
    rw [pc] at stands
    rw [going, if_neg Bool.false_ne_true] at stepped
    split at stepped <;> cases stepped <;> exact stands
  case h_18 close message data frames now pc =>
    cases stepped
    rw [pc] at stands
    exact stands_sameGate stands (Client.unauthenticated_same sh message data frames run.client)
      fun _ => id
  case h_23 close info now pc =>
    cases stepped
    rw [pc] at stands
    exact stands_sameGate stands (Client.emit_same sh (.error info) run.client) fun _ => id
  case h_24 => cases stepped

/-- A step of the dispatch task's loop, while no call has asked the client to stop. -/
theorem dispatch_stands {input : Input} (going : run.stop = false) (stands : run.Stands)
    (stepped : run.dispatchStep sh (.task input) = some next) : next.Stands := by
  have before := stands
  unfold Stands at before
  simp only [dispatchStep] at stepped
  split at stepped
  case h_1 close now pc =>
    rw [pc] at before
    rw [going, if_neg Bool.false_ne_true] at stepped
    split at stepped
    · cases stepped
      exact before.1
    · rename_i declined
      cases stepped
      exact before.2.resolve_right declined
  case h_2 data frames now pc =>
    rw [pc] at before
    cases stepped
    refine stands_afterGate before fun _ => ?_
    obtain ⟨new, pushes, -⟩ := State.openConnection_quiet sh data frames
      ({ run.client.stream with reconnectedAt := some now }, {})
    exact ⟨rfl, pushes.reported, pushes.claimed⟩
  case h_3 failures pc =>
    rw [pc] at before
    rw [going, if_neg Bool.false_ne_true] at stepped
    cases stepped
    exact before
  case h_4 now pc =>
    rw [pc] at before
    rw [going, if_neg Bool.false_ne_true] at stepped
    cases stepped
    exact before
  case h_5 => exact step_stands going stands stepped

end LoopRun

/-! ### The slots of a connection -/

namespace Outbox

variable {quiet : Prop} {box next : Outbox} {connection : Nat}

/-- The sink, the sender and the writer's handle in the slots are this connection's. -/
structure Holds (box : Outbox) (connection : Nat) : Prop where
  sink : box.wsSink = some connection
  sender : box.writeTx = some connection
  handle : box.writerHandle = some connection

/-- No slot changes, nor where `start_writer` is. -/
structure SameSlots (before after : Outbox) : Prop where
  sink : after.wsSink = before.wsSink
  sender : after.writeTx = before.writeTx
  handle : after.writerHandle = before.writerHandle
  starting : after.starting = before.starting
  opened : after.opened = before.opened

/-- What entered a connection's queue stays, and a writer that has finished stays so. -/
structure Grows (before after : Outbox) : Prop where
  opened : before.opened ≤ after.opened
  entered : ∀ connection, connection < before.opened →
    (before.connections connection).entered <+: (after.connections connection).entered
  finished : ∀ connection, connection < before.opened →
    (before.connections connection).writer.isFinished = true →
      (after.connections connection).writer.isFinished = true

theorem SameSlots.refl (box : Outbox) : SameSlots box box := ⟨rfl, rfl, rfl, rfl, rfl⟩

theorem SameSlots.holds (same : SameSlots box next) (holds : box.Holds connection) :
    next.Holds connection :=
  ⟨same.sink.trans holds.sink, same.sender.trans holds.sender, same.handle.trans holds.handle⟩

theorem SameSlots.writerStep {input : RunWriterInput}
    (stepped : box.writerStep connection input = some next) : SameSlots box next := by
  simp only [Outbox.writerStep] at stepped
  split at stepped
  case h_1 =>
    split at stepped
    · cases stepped
      exact ⟨rfl, rfl, rfl, rfl, rfl⟩
    · split at stepped <;> cases stepped
      exact ⟨rfl, rfl, rfl, rfl, rfl⟩
  case h_2 =>
    split at stepped
    · split at stepped <;> cases stepped <;> exact ⟨rfl, rfl, rfl, rfl, rfl⟩
    · cases stepped
  case h_7 =>
    cases stepped
    split <;> exact ⟨rfl, rfl, rfl, rfl, rfl⟩
  case h_8 =>
    split at stepped <;> cases stepped
    exact ⟨rfl, rfl, rfl, rfl, rfl⟩
  case h_9 => cases stepped
  all_goals
    cases stepped
    exact ⟨rfl, rfl, rfl, rfl, rfl⟩

theorem SameSlots.handOver {failure : WriteFailure} {received : Bool} :
    SameSlots box (box.handOver connection failure received) := by
  cases received <;> exact ⟨rfl, rfl, rfl, rfl, rfl⟩

theorem SameSlots.cloneSender (cloned : box.cloneSender = some next) : SameSlots box next := by
  unfold Outbox.cloneSender at cloned
  split at cloned <;> cases cloned
  exact ⟨rfl, rfl, rfl, rfl, rfl⟩

theorem SameSlots.put {text : String} (queued : box.put connection text = some next) :
    SameSlots box next := by
  simp only [Outbox.put, Option.ite_none_right_eq_some, Option.some.injEq] at queued
  obtain ⟨-, rfl⟩ := queued
  exact ⟨rfl, rfl, rfl, rfl, rfl⟩

theorem SameSlots.dropSender (dropped : box.dropSender connection = some next) :
    SameSlots box next := by
  simp only [Outbox.dropSender, Option.ite_none_right_eq_some, Option.some.injEq] at dropped
  obtain ⟨-, rfl⟩ := dropped
  exact ⟨rfl, rfl, rfl, rfl, rfl⟩

/-- The sink of the next connection is in its slot when its writer is to be spawned. -/
theorem advance_sink (advanced : box.advance = some next) (unspawned : box.startAt ≠ some .spawn)
    (spawn : next.startAt = some .spawn) : next.wsSink = some next.opened := by
  unfold Outbox.advance at advanced
  split at advanced
  case h_1 =>
    cases advanced
    cases spawn
  case h_2 =>
    split at advanced <;> cases advanced
    cases spawn
  case h_3 =>
    split at advanced <;> cases advanced
    rfl
  case h_4 at_ => simp [startAt, at_] at unspawned
  case h_5 => cases advanced

theorem Holds.spawn (sink : box.wsSink = some box.opened) : box.spawn.Holds box.opened :=
  ⟨sink, rfl, rfl⟩

/-! ### What has entered the queues -/

theorem Grows.refl (box : Outbox) : Grows box box :=
  ⟨Nat.le_refl _, fun _ _ => List.prefix_rfl, fun _ _ => id⟩

theorem Grows.of_slots {wsSink writeTx writerHandle : Option Nat} {sinkHolder : Option SinkHolder}
    {starting : Option (Opener × StartAt)} {generation : Nat} :
    Grows box { box with wsSink, sinkHolder, writeTx, starting, writerHandle, generation } :=
  ⟨Nat.le_refl _, fun _ _ => List.prefix_rfl, fun _ _ => id⟩

theorem Grows.trans {middle : Outbox} (left : Grows box middle) (right : Grows middle next) :
    Grows box next where
  opened := left.opened.trans right.opened
  entered := fun connection inside => (left.entered connection inside).trans
    (right.entered connection (Nat.lt_of_lt_of_le inside left.opened))
  finished := fun connection inside finished =>
    right.finished connection (Nat.lt_of_lt_of_le inside left.opened)
      (left.finished connection inside finished)

theorem Grows.update {change : Connection → Connection}
    (entered : (box.connections connection).entered <+: (change (box.connections connection)).entered)
    (finished : (box.connections connection).writer.isFinished = true →
      (change (box.connections connection)).writer.isFinished = true) :
    Grows box (box.update connection change) where
  opened := Nat.le_refl _
  entered := fun other _ => by
    rw [connections_update]
    split
    · rename_i same
      exact same ▸ entered
    · exact List.prefix_rfl
  finished := fun other _ before => by
    rw [connections_update]
    split
    · rename_i same
      exact finished (same ▸ before)
    · exact before

/-- A step of a writer that has not finished. -/
theorem Grows.moveWriter {writer : RunWriterAt} (runs : box.Runs connection) :
    Grows box (box.moveWriter connection writer) := by
  refine update List.prefix_rfl fun finished => ?_
  have both := finished.symm.trans runs
  cases both

theorem Grows.finish : Grows box (box.finish connection) :=
  (@update box connection (fun conn => { conn with queue := [], writer := .finished }) List.prefix_rfl
    fun _ => rfl).trans of_slots

theorem Grows.abort : Grows box (box.abort connection) := update List.prefix_rfl id

theorem Grows.handOver {failure : WriteFailure} {received : Bool} (runs : box.Runs connection) :
    Grows box (box.handOver connection failure received) := by
  cases received with
  | false => exact moveWriter runs
  | true => exact (update List.prefix_rfl id).trans finish

theorem Grows.writerStep {input : RunWriterInput}
    (stepped : box.writerStep connection input = some next) : Grows box next := by
  simp only [Outbox.writerStep] at stepped
  split at stepped
  case h_1 at_ =>
    have runs : box.Runs connection := by rw [Runs, at_]; rfl
    split at stepped
    · cases stepped
      refine update List.prefix_rfl fun finished => ?_
      have both := finished.symm.trans runs
      cases both
    · split at stepped <;> cases stepped
      exact finish
  case h_2 at_ =>
    have runs : box.Runs connection := by rw [Runs, at_]; rfl
    split at stepped
    · split at stepped <;> cases stepped
      · exact (moveWriter runs).trans of_slots
      · exact finish
    · cases stepped
  case h_3 sink text at_ =>
    have runs : (box.update sink fun conn => { conn with written := conn.written ++ [text] }).Runs
        connection := by
      rw [Runs, connections_update]
      split
      · rename_i same
        rw [← same, at_]
        rfl
      · rw [at_]
        rfl
    cases stepped
    exact (update List.prefix_rfl id).trans (moveWriter runs)
  case h_4 at_ =>
    cases stepped
    exact (moveWriter (by rw [Runs, at_]; rfl)).trans of_slots
  case h_5 at_ | h_6 at_ =>
    cases stepped
    exact moveWriter (by rw [Runs, at_]; rfl)
  case h_7 failure at_ =>
    cases stepped
    split
    · exact moveWriter (by rw [Runs, at_]; rfl)
    · exact finish
  case h_8 =>
    split at stepped <;> cases stepped
    exact finish
  case h_9 => cases stepped

theorem Grows.cloneSender (cloned : box.cloneSender = some next) : Grows box next := by
  unfold Outbox.cloneSender at cloned
  split at cloned <;> cases cloned
  exact update List.prefix_rfl id

theorem Grows.put {text : String} (queued : box.put connection text = some next) : Grows box next := by
  simp only [Outbox.put, Option.ite_none_right_eq_some, Option.some.injEq] at queued
  obtain ⟨-, rfl⟩ := queued
  exact update (List.prefix_append _ _) id

theorem Grows.dropSender (dropped : box.dropSender connection = some next) : Grows box next := by
  simp only [Outbox.dropSender, Option.ite_none_right_eq_some, Option.some.injEq] at dropped
  obtain ⟨-, rfl⟩ := dropped
  exact update List.prefix_rfl id

theorem Grows.spawn : Grows box box.spawn where
  opened := Nat.le_succ _
  entered := fun other inside => by
    rw [connections_spawn, if_neg (Nat.ne_of_lt inside)]
  finished := fun other inside before => by
    rw [connections_spawn, if_neg (Nat.ne_of_lt inside)]
    exact before

theorem Grows.advance (advanced : box.advance = some next) : Grows box next := by
  unfold Outbox.advance at advanced
  split at advanced
  case h_1 =>
    cases advanced
    cases box.writerHandle with
    | none => exact of_slots
    | some previous => exact abort.trans of_slots
  case h_2 | h_3 =>
    split at advanced <;> cases advanced
    exact of_slots
  case h_4 =>
    cases advanced
    exact spawn
  case h_5 => cases advanced

theorem Grows.lockWriteTx {opener : Opener} (locked : box.lockWriteTx opener = some next) :
    Grows box next := by
  obtain ⟨-, rfl⟩ := lockWriteTx_free locked
  exact of_slots

end Outbox

/-! ### The client that is not stopping -/

/-- `connect` has shown the connection it has installed. -/
def AioConnectAt.isUp : AioConnectAt → Bool
  | authenticating _ _ _ | spawning _ => true
  | _ => false

/-- `connect` is neither at its claim nor about to let messages in. -/
def AioConnectAt.elsewhere : AioConnectAt → Bool
  | .claimed | .authenticating .. => false
  | _ => true

/-- A step of a party other than `connect`, the dispatch task and the closing call. -/
def AioCall.isBeside : AioCall → Bool
  | .connect _ | .task _ | .close _ => false
  | _ => true

/-- The dispatch task makes attempts to reconnect, or replays the connection it has opened. -/
def LoopAt.retries : LoopAt → Bool
  | .reading _ | .deciding _ _ | .reporting _ _ _ | .returned _ | .shuttingDown | .ended | .dropped =>
    false
  | _ => true

namespace AioRun

variable {sh : Shared} {run next : AioRun}

/-- Where the client is connected, while no call has asked it to stop: in the hands of `connect` past the
installed writer, or of a dispatch task from the connection it has opened on. -/
structure Stands (run : AioRun) : Prop where
  task : run.task.isOver = false → run.task.Stands run.mgr run.client
  calm : run.task.isOver = true → run.client.connection = .connected → run.connect.isUp = true
  shown : ∀ connection data frames, run.connect = .authenticating connection data frames →
    run.client.connection = .connected
  opened : ∀ connection, run.connect = .spawning connection → run.client.Up
  given : ∀ connection, run.connect.receives = some connection → run.outbox.Holds connection
  reads : run.task.unreported = true → run.outbox.Holds run.taskConnection
  replays : ∀ failures, run.task = .replaying failures →
    ∃ connection, run.incoming = some connection ∧ run.outbox.Holds connection
  sink : run.outbox.startAt = some .spawn → run.outbox.wsSink = some run.outbox.opened

theorem Stands.start (config : ReconnectionConfig) : Stands { mgr := .new config } where
  task := nofun
  calm := nofun
  shown := nofun
  opened := nofun
  given := nofun
  reads := nofun
  replays := nofun
  sink := nofun

/-- What a step of `connect` does to the state: it leaves `Connected` where that is in its own hands, or
sets it there, or has spawned the dispatch task. -/
theorem connect_connected {input : AioConnectInput} (stepped : run.connectStep sh input = some next)
    (connected : next.client.connection = .connected) : next.connect.isUp = true ∨
      next.task.isOver = false ∨ run.client.connection = .connected ∧ run.connect.isUp = false := by
  unfold connectStep at stepped
  split at stepped
  case h_1 phase =>
    cases stepped
    exact .inr (.inr ⟨connected, by rw [phase]; rfl⟩)
  case h_2 phase | h_3 phase | h_10 phase | h_11 phase | h_25 phase =>
    split at stepped <;> cases stepped
    exact .inr (.inr ⟨connected, by rw [phase]; rfl⟩)
  case h_4 now tls phase =>
    cases stepped
    have same := Client.callerConnecting_same sh now run.client
    exact .inr (.inr ⟨same.connection.symm.trans connected, by rw [phase]; rfl⟩)
  case h_5 phase | h_6 phase | h_8 phase | h_9 phase | h_12 phase | h_14 phase | h_15 phase
      | h_17 phase | h_19 phase =>
    cases stepped
    exact .inr (.inr ⟨connected, by rw [phase]; rfl⟩)
  case h_7 | h_13 | h_16 | h_18 =>
    cases stepped
    cases connected
  case h_20 phase | h_21 phase =>
    obtain ⟨outbox, -, rfl⟩ := Option.map_eq_some_iff.mp stepped
    exact .inr (.inr ⟨connected, by rw [phase]; rfl⟩)
  case h_22 | h_23 =>
    cases stepped
    exact .inl rfl
  case h_24 =>
    cases stepped
    exact .inr (.inl rfl)
  case h_26 => cases stepped

/-- Where a step of `connect` arrives: to let messages in with the state `Connected`, at its claim from the
first look, and past its looks from there or from the second. -/
structure Arrives (run next : AioRun) (input : AioConnectInput) : Prop where
  shown : ∀ connection data frames, next.connect = .authenticating connection data frames →
    next.client.connection = .connected
  claims : next.connect = .claimed → run.connect = .joining
  looks : next.connect.looked = true → run.connect.looked = true ∨ run.connect = .claimed ∧ input = .go

theorem Arrives.elsewhere {input : AioConnectInput} (elsewhere : next.connect.elsewhere = true)
    (looks : next.connect.looked = true → run.connect.looked = true ∨ run.connect = .claimed ∧ input = .go) :
    Arrives run next input where
  shown := fun connection data frames at_ => by rw [at_] at elsewhere; cases elsewhere
  claims := fun at_ => by rw [at_] at elsewhere; cases elsewhere
  looks := looks

theorem connect_arrives {input : AioConnectInput} (stepped : run.connectStep sh input = some next) :
    Arrives run next input := by
  unfold connectStep at stepped
  split at stepped
  case h_1 =>
    cases stepped
    refine .elsewhere ?_ fun looked => ?_
    · show AioConnectAt.elsewhere (if _ then _ else _) = true
      split <;> rfl
    · change AioConnectAt.looked (if _ then _ else _) = true at looked
      split at looked <;> cases looked
  case h_2 phase =>
    split at stepped <;> cases stepped
    refine ⟨fun connection data frames at_ => ?_, fun _ => phase, fun looked => ?_⟩
    · change (if _ then _ else _) = _ at at_
      split at at_ <;> cases at_
    · change AioConnectAt.looked (if _ then _ else _) = true at looked
      split at looked <;> cases looked
  case h_3 phase =>
    split at stepped <;> cases stepped
    refine .elsewhere ?_ fun _ => .inr ⟨phase, rfl⟩
    show AioConnectAt.elsewhere (if _ then _ else _) = true
    split <;> rfl
  case h_4 phase | h_6 phase =>
    cases stepped
    refine .elsewhere ?_ fun _ => .inl (by rw [phase]; rfl)
    show AioConnectAt.elsewhere (if _ then _ else _) = true
    split <;> rfl
  case h_9 phase | h_15 phase =>
    cases stepped
    refine .elsewhere ?_ fun _ => .inl (by rw [phase]; rfl)
    show AioConnectAt.elsewhere (if _ then _ else _) = true
    split
    · rfl
    · split <;> rfl
  case h_10 phase | h_11 phase =>
    split at stepped <;> cases stepped
    exact .elsewhere rfl fun _ => .inl (by rw [phase]; rfl)
  case h_20 phase =>
    obtain ⟨outbox, -, rfl⟩ := Option.map_eq_some_iff.mp stepped
    exact .elsewhere rfl fun _ => .inl (by rw [phase]; rfl)
  case h_21 phase =>
    obtain ⟨outbox, -, rfl⟩ := Option.map_eq_some_iff.mp stepped
    refine .elsewhere ?_ fun _ => .inl (by rw [phase]; rfl)
    show AioConnectAt.elsewhere (if _ then _ else _) = true
    split <;> rfl
  case h_22 phase =>
    cases stepped
    refine ⟨fun _ _ _ _ => rfl, fun claimed => ?_, fun _ => .inl (by rw [phase]; rfl)⟩
    cases claimed
  case h_25 =>
    split at stepped <;> cases stepped
    refine .elsewhere rfl fun looked => ?_
    cases looked
  case h_26 => cases stepped
  all_goals
    rename_i phase
    cases stepped
    exact .elsewhere rfl fun _ => .inl (by rw [phase]; rfl)

/-- The state is `Connected` before the new connection's messages are let in. -/
theorem connect_shown {input : AioConnectInput} (stepped : run.connectStep sh input = some next)
    {connection : Nat} {data : Value} {frames : List WebSocketMessage}
    (authenticating : next.connect = .authenticating connection data frames) :
    next.client.connection = .connected :=
  (connect_arrives stepped).shown connection data frames authenticating

/-- `connect` is past its looks once it has found no dispatch task running under the gate. -/
theorem connect_looks {input : AioConnectInput} (stepped : run.connectStep sh input = some next)
    (unlooked : run.connect.looked = false) (looked : next.connect.looked = true) :
    run.connect = .claimed ∧ input = .go := by
  refine ((connect_arrives stepped).looks looked).resolve_left ?_
  rw [unlooked]
  exact Bool.false_ne_true

/-- `connect` claims the gate with its first look. -/
theorem connect_claims {input : AioConnectInput} (stepped : run.connectStep sh input = some next)
    (claimed : next.connect = .claimed) : run.connect = .joining :=
  (connect_arrives stepped).claims claimed

/-- Before `connect` has found no dispatch task running it only moves on itself, and at its end it stores
its own task's handle. -/
theorem connect_unlooked {input : AioConnectInput} (stepped : run.connectStep sh input = some next)
    (unlooked : run.connect.looked = false) :
    (∃ handle, run.connect = .storing handle ∧
        next = { run with dispatchHandle := some handle, connect := .idle }) ∨
      (∀ handle, run.connect ≠ .storing handle) ∧ next = { run with connect := next.connect } := by
  unfold connectStep at stepped
  split at stepped
  case h_1 phase =>
    cases stepped
    exact .inr ⟨by rw [phase]; nofun, rfl⟩
  case h_2 phase | h_3 phase =>
    split at stepped <;> cases stepped
    exact .inr ⟨by rw [phase]; nofun, rfl⟩
  case h_25 handle phase =>
    split at stepped <;> cases stepped
    exact .inl ⟨handle, phase, rfl⟩
  case h_26 => cases stepped
  all_goals
    rename_i phase
    rw [phase] at unlooked
    cases unlooked

/-- With the gate claimed and no dispatch task found running, `connect` goes on. -/
theorem connect_goes {input : AioConnectInput} (stepped : run.connectStep sh input = some next)
    (claimed : run.connect = .claimed) (free : run.dispatchHandle.any run.taskRunning = false) :
    next.connect = .conflict := by
  unfold connectStep at stepped
  rw [claimed] at stepped
  cases input with
  | go =>
    simp only [Option.ite_none_left_eq_some, Option.some.injEq, free] at stepped
    obtain ⟨-, rfl⟩ := stepped
    rfl
  | _ => cases stepped

/-- `connect` leaves the dispatch task where it is, or has spawned its own. -/
theorem connect_task {input : AioConnectInput} (stepped : run.connectStep sh input = some next) :
    next.task = run.task ∨ next.task = .reading none ∧ ∃ handle, next.connect = .storing handle := by
  cases connect_cases stepped with
  | spawns => exact .inr ⟨rfl, _, rfl⟩
  | _ => exact .inl rfl

/-- Beside a client that is not stopping, a `connect` past its looks has no task that runs. -/
theorem Inv.over_of_looked (inv : run.Inv) (going : run.shutdownRequested = false)
    (looked : run.connect.looked = true) : run.task.isOver = true :=
  (inv.alone looked).resolve_right fun quiet => by
    have both := quiet.1.symm.trans going
    cases both

theorem not_unreported {task : LoopAt} (ended : task.isOver = true) : task.unreported = false := by
  cases task <;> first | rfl | cases ended

theorem not_replaying {task : LoopAt} (ended : task.isOver = true) (failures : List ResubscribeFailure) :
    task ≠ .replaying failures := by
  intro replaying
  rw [replaying] at ended
  cases ended

/-- A step of an opening: there is no task that runs, so what concerns one is as before. -/
theorem Stands.opening (ended : run.task.isOver = true) {client : Client} {outbox : Outbox}
    {connect : AioConnectAt} (calm : client.connection = .connected → connect.isUp = true)
    (shown : ∀ connection data frames, connect = .authenticating connection data frames →
      client.connection = .connected)
    (opened : ∀ connection, connect = .spawning connection → client.Up)
    (given : ∀ connection, connect.receives = some connection → outbox.Holds connection)
    (sink : outbox.startAt = some .spawn → outbox.wsSink = some outbox.opened) :
    Stands { run with client, outbox, connect } where
  task := fun running => by
    have both := ended.symm.trans running
    cases both
  calm := fun _ => calm
  shown := shown
  opened := opened
  given := given
  reads := fun unreported => by
    have both := (not_unreported ended).symm.trans unreported
    cases both
  replays := fun failures replaying => absurd replaying (not_replaying ended failures)
  sink := sink

/-- Every step of `connect` leaves the client where the state has it. -/
theorem Stands.connect (stands : run.Stands) (inv : run.Inv) (going : run.shutdownRequested = false)
    {input : AioConnectInput} (stepped : run.connectStep sh input = some next) : next.Stands := by
  have still (unlooked : run.connect.looked = false) : next.client = run.client := by
    rcases connect_unlooked stepped unlooked with ⟨handle, -, same⟩ | ⟨-, same⟩ <;> rw [same]
  have connected := connect_connected stepped
  have shown := @connect_shown sh run next input stepped
  have over_ := inv.over_of_looked going
  -- a `connect` that has shown no connection finds the client unconnected
  have unshown {goal : Prop} (ended : run.task.isOver = true) (down : run.connect.isUp = false)
      (up : run.client.connection = .connected) : goal := by
    have both := (stands.calm ended up).symm.trans down
    cases both
  cases connect_cases stepped with
  | moves _ _ _ _ _ _ calm _ receives =>
    exact {
      task := fun running => by
        cases looked : run.connect.looked with
        | true =>
          have both := (over_ looked).symm.trans running
          cases both
        | false =>
          rw [still looked]
          exact stands.task running
      calm := fun ended up => by
        rcases connected up with isUp | running | ⟨before, down⟩
        · exact isUp
        · have both := ended.symm.trans running
          cases both
        · exact unshown ended down before
      shown := fun _ _ _ => shown
      opened := fun connection spawning => absurd spawning (calm connection)
      given := fun connection received => by
        rcases receives with none | same
        · rw [show _ = some connection from received] at none
          cases none
        · exact stands.given connection (same.symm.trans received)
      reads := stands.reads
      replays := stands.replays
      sink := stands.sink }
  | locks accepted locked =>
    have ended := over_ (by rw [accepted]; rfl)
    obtain ⟨-, rfl⟩ := Outbox.lockWriteTx_free locked
    exact .opening ended (unshown ended (by rw [accepted]; rfl)) nofun nofun nofun nofun
  | starts installing unspawned advanced =>
    have ended := over_ (by rw [installing]; rfl)
    refine .opening ended (stands.calm ended) stands.shown stands.opened (fun connection received => ?_)
      (Outbox.advance_sink advanced unspawned)
    rw [installing] at received
    cases received
  | installs installing spawn =>
    have ended := over_ (by rw [installing]; rfl)
    have holds := Outbox.Holds.spawn (stands.sink spawn)
    exact .opening ended (unshown ended (by rw [installing]; rfl)) nofun nofun
      (fun connection received => Option.some.inj received ▸ holds) nofun
  | @opens _ data frames authenticating =>
    have ended := over_ (by rw [authenticating]; rfl)
    obtain ⟨new, pushes, -⟩ := State.openConnection_quiet sh data frames
      ({ run.client.stream with reconnectedAt := none }, {})
    refine .opening ended (fun _ => rfl) nofun
      (fun _ _ => ⟨stands.shown _ _ _ authenticating, pushes.reported, pushes.claimed⟩)
      (fun connection received => stands.given connection ?_) stands.sink
    rw [authenticating]
    exact received
  | spawns spawning =>
    exact {
      task := fun _ => stands.opened _ spawning
      calm := nofun
      shown := nofun
      opened := nofun
      given := nofun
      reads := fun _ => stands.given _ (by rw [spawning]; rfl)
      replays := nofun
      sink := stands.sink }
  | stores storing =>
    exact {
      task := stands.task
      calm := fun ended up => unshown ended (by rw [storing]; rfl) up
      shown := nofun
      opened := nofun
      given := nofun
      reads := stands.reads
      replays := stands.replays
      sink := stands.sink }

/-! ### The dispatch task of a client that is not stopping -/

/-- A task that nobody asked to stop ends with a step of its own loop. -/
theorem task_halts (inv : run.Inv) (going : run.shutdownRequested = false) {input : TaskInput}
    (stepped : run.taskStep sh input = some next) (ended : next.task.isOver = true) :
    ∃ input, run.taskLoop sh input = some next := by
  unfold taskStep at stepped
  split at stepped
  case h_1 =>
    split at stepped
    · exact ⟨_, stepped⟩
    · cases stepped
  case h_3 at_ =>
    split at stepped <;> cases stepped
    rw [show run.task = _ from at_] at ended
    cases ended
  case h_4 =>
    split at stepped
    · exact ⟨_, stepped⟩
    · cases stepped
  case h_5 at_ =>
    obtain ⟨outbox, -, rfl⟩ := Option.map_eq_some_iff.mp stepped
    rw [going, if_neg Bool.false_ne_true, show LoopAt.isOver run.task = false by rw [at_]; rfl] at ended
    cases ended
  case h_6 at_ =>
    split at stepped
    · cases stepped
    · obtain ⟨outbox, -, rfl⟩ := Option.map_eq_some_iff.mp stepped
      rw [show run.task = _ from at_] at ended
      cases ended
  case h_7 =>
    split at stepped <;> cases stepped
    cases ended
  case h_9 =>
    split at stepped
    · rw [going, if_neg Bool.false_ne_true] at stepped
      cases stepped
      cases ended
    · cases stepped
  case h_10 => exact ⟨_, stepped⟩
  case h_11 =>
    simp only [Option.ite_none_right_eq_some] at stepped
    have both := stepped.1.1.symm.trans going
    cases both
  case h_12 =>
    simp only [Option.ite_none_right_eq_some] at stepped
    have both := (inv.aborted stepped.1).1.symm.trans going
    cases both
  all_goals cases stepped

/-- The end of a task that nobody asked to stop closes the client. -/
theorem Stands.halts (stands : run.Stands) (inv : run.Inv) (going : run.shutdownRequested = false)
    {input : TaskInput} (stepped : run.taskStep sh input = some next)
    (ended : next.task.isOver = true) : next.task.Stands next.mgr next.client := by
  obtain ⟨moved, looped⟩ := task_halts inv going stepped ended
  obtain ⟨loop, dispatched, running, -, -, rfl⟩ := taskLoop_cases looped
  have before : run.loop.Stands := stands.task running
  exact LoopRun.dispatch_stands going before dispatched

/-- Where a step of the dispatch task's loop is in a replay, it was in it before. -/
theorem dispatch_replays {loop after : LoopRun} {input : Input}
    (stepped : loop.dispatchStep sh (.task input) = some after) (elsewhere : loop.pc ≠ .opened)
    {failures : List ResubscribeFailure} (replaying : after.pc = .replaying failures) :
    ∃ before, loop.pc = .replaying before := by
  have gate {result : Bool × Client × Outcome} {pc : LoopAt} (calm : ∀ failures, pc ≠ .replaying failures) :
      (loop.afterGate result pc).pc ≠ .replaying failures := by
    show (if result.1 then pc else .ended) ≠ _
    split
    · exact calm failures
    · intro over_
      cases over_
  simp only [LoopRun.dispatchStep] at stepped
  split at stepped
  case h_1 =>
    split at stepped
    · cases stepped
      cases replaying
    · split at stepped <;> cases stepped <;> cases replaying
  case h_2 =>
    cases stepped
    exact absurd replaying (gate fun _ replaying => by cases replaying)
  case h_3 pc => exact absurd pc elsewhere
  case h_4 pc => exact ⟨[], pc⟩
  case h_5 =>
    unfold LoopRun.step at stepped
    split at stepped
    case h_8 | h_10 | h_13 | h_17 | h_18 | h_21 | h_23 =>
      cases stepped
      exact absurd replaying (gate fun _ replaying => by cases replaying)
    case h_3 | h_9 | h_11 | h_19 | h_22 =>
      cases stepped
      change (if _ then _ else _) = _ at replaying
      split at replaying <;> cases replaying
    case h_6 =>
      split at stepped
      · cases stepped
        cases replaying
      · simp only at stepped
        split at stepped <;> cases stepped <;> cases replaying
    case h_15 =>
      split at stepped
      · cases stepped
        cases replaying
      · split at stepped <;> cases stepped <;> cases replaying
    case h_16 => exact ⟨_, ‹loop.pc = LoopAt.replaying (_ :: _)›⟩
    case h_24 => cases stepped
    all_goals
      cases stepped
      cases replaying

theorem looked_of_receives {connect : AioConnectAt} {connection : Nat}
    (receives : connect.receives = some connection) : connect.looked = true := by
  cases connect <;> first | rfl | cases receives

theorem looked_of_isUp {connect : AioConnectAt} (isUp : connect.isUp = true) :
    connect.looked = true := by
  cases connect <;> first | rfl | cases isUp

/-- A step of a task that runs, beside which no `connect` is past its looks. -/
theorem Stands.working (inv : run.Inv) (going : run.shutdownRequested = false)
    (running : run.task.isOver = false) {client : Client} {mgr : ReconnectionManager} {outbox : Outbox}
    {task : LoopAt} {taskConnection : Nat} {incoming : Option Nat} {retired : Bool}
    {reports : List Report} (stands : task.Stands mgr client)
    (reads : task.unreported = true → outbox.Holds taskConnection)
    (replays : ∀ failures, task = .replaying failures →
      ∃ connection, incoming = some connection ∧ outbox.Holds connection)
    (sink : outbox.startAt = some .spawn → outbox.wsSink = some outbox.opened) :
    Stands { run with
      client, mgr, outbox, task, taskConnection, incoming, retired, reports } := by
  have alone {goal : Prop} (looked : run.connect.looked = true) : goal := by
    have both := (inv.over_of_looked going looked).symm.trans running
    cases both
  exact {
    task := fun _ => stands
    calm := fun ended up => by
      have closed := stands.closed ended
      rw [show client.connection = _ from up] at closed
      cases closed
    shown := fun _ _ _ authenticating =>
      alone (by rw [show run.connect = _ from authenticating]; rfl)
    opened := fun _ spawning => alone (by rw [show run.connect = _ from spawning]; rfl)
    given := fun _ received => alone (looked_of_receives received)
    reads := reads
    replays := replays
    sink := sink }

/-- The step leaves a task that neither reads a connection nor replays one. -/
theorem Stands.between (inv : run.Inv) (going : run.shutdownRequested = false)
    (running : run.task.isOver = false) {client : Client} {mgr : ReconnectionManager} {outbox : Outbox}
    {task : LoopAt} {retired : Bool} (stands : task.Stands mgr client) (unread : task.unreported = false)
    (unreplayed : ∀ failures, task ≠ .replaying failures)
    (sink : outbox.startAt = some .spawn → outbox.wsSink = some outbox.opened) :
    Stands { run with client, mgr, outbox, task, retired } := by
  refine .working inv going running stands (fun unreported => ?_)
    (fun failures replaying => absurd replaying (unreplayed failures)) sink
  have both := unread.symm.trans unreported
  cases both

/-- Every step of the dispatch task leaves the client where the state has it. -/
theorem Stands.taskStep (stands : run.Stands) (inv : run.Inv) (going : run.shutdownRequested = false)
    {input : TaskInput} (stepped : run.taskStep sh input = some next) : next.Stands := by
  have halts := stands.halts inv going stepped
  cases task_cases stepped with
  | loops elsewhere retired handed replays looped =>
    obtain ⟨loop, dispatched, running, -, -, rfl⟩ := taskLoop_cases looped
    have before : run.loop.Stands := stands.task running
    have leads := dispatch_leads dispatched elsewhere replays
    refine .working inv going running (LoopRun.dispatch_stands going before dispatched)
      (fun unreported => stands.reads (leads.unreported unreported)) (fun failures replaying => ?_)
      stands.sink
    obtain ⟨failures, at_⟩ := dispatch_replays dispatched elsewhere replaying
    exact stands.replays failures at_
  | retires returned =>
    have running : run.task.isOver = false := by rw [returned]; rfl
    exact .between inv going running (stands.task running) (by rw [returned]; rfl)
      (by rw [returned]; nofun) stands.sink
  | locks opened _ locked =>
    have running : run.task.isOver = false := by rw [opened]; rfl
    have up := stands.task running
    obtain ⟨-, rfl⟩ := Outbox.lockWriteTx_free locked
    rw [opened] at up
    exact .between inv going running (by rw [opened]; exact up) (by rw [opened]; rfl)
      (by rw [opened]; nofun) nofun
  | starts opened unspawned advanced =>
    have running : run.task.isOver = false := by rw [opened]; rfl
    exact .between inv going running (stands.task running) (by rw [opened]; rfl) (by rw [opened]; nofun)
      (Outbox.advance_sink advanced unspawned)
  | installs opened spawn =>
    have running : run.task.isOver = false := by rw [opened]; rfl
    have up := stands.task running
    rw [opened] at up
    exact .working inv going running up nofun
      (fun _ _ => ⟨_, rfl, Outbox.Holds.spawn (stands.sink spawn)⟩) nofun
  | @reads connection replayed incoming =>
    have running : run.task.isOver = false := by rw [replayed]; rfl
    have up := stands.task running
    obtain ⟨given, same, holds⟩ := stands.replays _ replayed
    obtain rfl := Option.some.inj (incoming.symm.trans same)
    rw [replayed] at up
    exact .working inv going running up (fun _ => holds) nofun stands.sink
  | ends running ended =>
    exact .between inv going running.1 (halts ended) (not_unreported ended) (not_replaying ended) stands.sink
  | abandons running ended aborted abandoned =>
    have both := (inv.aborted aborted).1.symm.trans going
    cases both

/-! ### The other parties -/

theorem stands_same {mgr : ReconnectionManager} {before after : Client} {pc : LoopAt}
    (same : Client.Same before after) (stands : pc.Stands mgr before) : pc.Stands mgr after := by
  have closed (was : before.connection.isClosed = true) : after.connection.isClosed = true := by
    rw [same.connection]
    exact was
  cases pc with
  | reading | deciding | opened | replaying => exact same.up stands
  | reporting => exact ⟨same.up stands.1, stands.2⟩
  | returned => exact ⟨same.down stands.1, stands.2.imp_left closed⟩
  | ended | dropped => exact closed stands
  | _ => exact same.down stands

/-- A step of a party that leaves the state and the slots alone. -/
theorem Stands.beside (stands : run.Stands) {client : Client} {outbox : Outbox} {reports : List Report}
    (same : Client.Same run.client client) (slots : run.outbox.SameSlots outbox) :
    Stands { run with client, outbox, reports } where
  task := fun running => stands_same same (stands.task running)
  calm := fun ended up => stands.calm ended (same.connection.symm.trans up)
  shown := fun connection data frames authenticating =>
    same.connection.trans (stands.shown connection data frames authenticating)
  opened := fun connection spawning => same.up (stands.opened connection spawning)
  given := fun connection received => slots.holds (stands.given connection received)
  reads := fun unreported => slots.holds (stands.reads unreported)
  replays := fun failures replaying => by
    obtain ⟨connection, incoming, holds⟩ := stands.replays failures replaying
    exact ⟨connection, incoming, slots.holds holds⟩
  sink := fun spawn => by
    have before : run.outbox.startAt = some .spawn := by
      rw [Outbox.startAt, ← slots.starting]
      exact spawn
    exact slots.sink.trans ((stands.sink before).trans (congrArg some slots.opened.symm))

/-- What a step of one of the others does to the stream, the slots and the queues. -/
theorem beside_cases {call : AioCall} (beside : call.isBeside = true)
    (stepped : run.step sh call = some next) : ∃ (client : Client) (outbox : Outbox)
      (reports : List Report), next = { run with client, outbox, reports } ∧
        Client.Same run.client client ∧ run.outbox.SameSlots outbox ∧ run.outbox.Grows outbox := by
  cases call with
  | connect | task | close => cases beside
  | writer connection input =>
    simp only [AioRun.step, AioRun.writerStep] at stepped
    split at stepped
    case h_1 failure at_ =>
      cases stepped
      have runs : run.outbox.Runs connection := by rw [Outbox.Runs, at_]; rfl
      exact ⟨_, _, _, rfl, .refl _, .handOver, .handOver runs⟩
    case h_2 =>
      cases stepped
      exact ⟨_, _, _, rfl, Client.emitUnlessClosed_same sh _ _, ⟨rfl, rfl, rfl, rfl, rfl⟩, .finish⟩
    case h_3 =>
      obtain ⟨outbox, moved, rfl⟩ := Option.map_eq_some_iff.mp stepped
      exact ⟨_, _, _, rfl, .refl _, .writerStep moved, .writerStep moved⟩
  | cloneSender =>
    obtain ⟨outbox, cloned, rfl⟩ := Option.map_eq_some_iff.mp stepped
    exact ⟨_, _, _, rfl, .refl _, .cloneSender cloned, .cloneSender cloned⟩
  | put connection text =>
    obtain ⟨outbox, queued, rfl⟩ := Option.map_eq_some_iff.mp stepped
    exact ⟨_, _, _, rfl, .refl _, .put queued, .put queued⟩
  | dropSender connection =>
    obtain ⟨outbox, dropped, rfl⟩ := Option.map_eq_some_iff.mp stepped
    exact ⟨_, _, _, rfl, .refl _, .dropSender dropped, .dropSender dropped⟩
  | pop =>
    obtain ⟨⟨item, stream⟩, popped, rfl⟩ := Option.map_eq_some_iff.mp stepped
    unfold State.pop at popped
    split at popped <;> cases popped <;>
      exact ⟨_, _, _, rfl, ⟨rfl, rfl, rfl⟩, .refl _, .refl _⟩

theorem takeDispatch_stops (awaiting following : AioCloseAt) :
    (run.takeDispatch awaiting following).shutdownRequested = run.shutdownRequested := by
  unfold takeDispatch abortTask
  split
  · split <;> rfl
  · rfl

/-- Every step of a closing call leaves the client asked to stop. -/
theorem close_stops (inv : run.Inv) {input : AioCloseInput}
    (stepped : run.closeStep sh input = some next) : next.shutdownRequested = true := by
  unfold AioRun.closeStep at stepped
  split at stepped
  case h_1 | h_2 =>
    cases stepped
    rfl
  case h_18 phase | h_20 phase =>
    cases stepped
    rw [takeDispatch_stops]
    exact inv.stopping (by rw [phase]; nofun)
  case h_4 phase | h_19 phase | h_22 phase | h_24 phase =>
    obtain ⟨outbox, -, rfl⟩ := Option.map_eq_some_iff.mp stepped
    exact inv.stopping (by rw [phase]; nofun)
  case h_5 phase =>
    have stop := inv.stopping (by rw [phase]; nofun)
    split at stepped
    · split at stepped <;> cases stepped <;> exact stop
    · cases stepped
  case h_16 phase | h_23 phase =>
    have stop := inv.stopping (by rw [phase]; nofun)
    split at stepped <;> cases stepped <;> exact stop
  case h_3 phase | h_8 phase | h_10 phase | h_11 phase | h_17 phase =>
    have stop := inv.stopping (by rw [phase]; nofun)
    split at stepped <;> cases stepped
    exact stop
  case h_26 => cases stepped
  all_goals
    rename_i phase
    have stop := inv.stopping (by rw [phase]; nofun)
    cases stepped
    exact stop

/-- A step of `connect` or of the dispatch task asks nobody to stop. -/
theorem connect_stop {input : AioConnectInput} (stepped : run.connectStep sh input = some next) :
    next.shutdownRequested = run.shutdownRequested := by
  cases connect_cases stepped <;> rfl

theorem task_stop {input : TaskInput} (stepped : run.taskStep sh input = some next) :
    next.shutdownRequested = run.shutdownRequested := by
  cases task_cases stepped with
  | loops _ _ _ _ looped =>
    obtain ⟨loop, -, -, -, -, rfl⟩ := taskLoop_cases looped
    rfl
  | _ => rfl

/-- What `connect` does to the queues. -/
theorem connect_grows {input : AioConnectInput} (stepped : run.connectStep sh input = some next) :
    run.outbox.Grows next.outbox := by
  cases connect_cases stepped with
  | locks _ locked => exact .lockWriteTx locked
  | starts _ _ advanced => exact .advance advanced
  | installs => exact .spawn
  | moves | opens | spawns | stores => exact .refl _

/-- What the dispatch task does to the queues. -/
theorem task_grows {input : TaskInput} (stepped : run.taskStep sh input = some next) :
    run.outbox.Grows next.outbox := by
  cases task_cases stepped with
  | loops _ _ _ _ looped =>
    obtain ⟨loop, -, -, -, -, rfl⟩ := taskLoop_cases looped
    exact .refl _
  | retires => exact .of_slots
  | locks _ _ locked => exact .lockWriteTx locked
  | starts _ _ advanced => exact .advance advanced
  | installs => exact .spawn
  | reads | ends => exact .refl _
  | abandons _ _ _ abandoned =>
    unfold Outbox.abandon at abandoned
    split at abandoned <;> cases abandoned <;> exact .of_slots

/-- Where a task reports nothing of its connection any more, it does so again only once it has replayed
the next one. -/
theorem task_unreported {input : TaskInput} (stepped : run.taskStep sh input = some next)
    (unreported : next.task.unreported = true) :
    run.task.unreported = true ∨ run.task = .replaying [] := by
  cases task_cases stepped with
  | loops elsewhere _ _ replays looped =>
    obtain ⟨loop, dispatched, -, -, -, rfl⟩ := taskLoop_cases looped
    exact .inl ((dispatch_leads dispatched elsewhere replays).unreported unreported)
  | retires | locks | starts => exact .inl unreported
  | installs => cases unreported
  | reads replayed => exact .inr replayed
  | ends _ ended | abandons _ ended =>
    rw [not_unreported ended] at unreported
    cases unreported

/-! ### Where the dispatch task goes -/

/-- A task that is over takes no step, and what `connect` and the closing call have set stays. -/
theorem task_frame {input : TaskInput} (stepped : run.taskStep sh input = some next) :
    run.task.isOver = false ∧ next.connect = run.connect ∧ next.dispatchHandle = run.dispatchHandle ∧
      next.spawned = run.spawned ∧ next.closer = run.closer := by
  cases task_cases stepped with
  | loops _ _ _ _ looped =>
    obtain ⟨loop, -, running, -, -, rfl⟩ := taskLoop_cases looped
    exact ⟨running, rfl, rfl, rfl, rfl⟩
  | retires at_ | locks at_ | starts at_ | installs at_ | reads at_ =>
    exact ⟨by rw [at_]; rfl, rfl, rfl, rfl, rfl⟩
  | ends running | abandons running => exact ⟨running.1, rfl, rfl, rfl, rfl⟩

/-- From the end of its loop a task only retires the writer and looks at the flag. -/
theorem returned_input {close : ConnectionClose} (returned : run.task = .returned close)
    {input : TaskInput} (stepped : run.taskStep sh input = some next) :
    (input = .retire ∧ run.retired = false ∧ next.task = run.task) ∨
      (∃ moved, input = .go moved) ∧ (next.task.isOver = true ∨ next.task.retries = true) := by
  unfold taskStep at stepped
  rw [returned] at stepped
  cases input with
  | go moved =>
    simp only [Option.ite_none_right_eq_some] at stepped
    obtain ⟨loop, dispatched, -, -, -, rfl⟩ := taskLoop_cases stepped.2
    refine .inr ⟨⟨moved, rfl⟩, ?_⟩
    have pc : run.loop.pc = .returned close := returned
    simp only [LoopRun.dispatchStep] at dispatched
    rw [pc] at dispatched
    cases moved with
    | tick now =>
      simp only at dispatched
      split at dispatched
      · cases dispatched
        exact .inl rfl
      · split at dispatched <;> cases dispatched
        · exact .inr rfl
        · exact .inl rfl
    | _ => simp [LoopRun.step, pc] at dispatched
  | retire =>
    simp only [Option.ite_none_left_eq_some, Option.some.injEq] at stepped
    obtain ⟨fresh, rfl⟩ := stepped
    exact .inl ⟨rfl, Bool.eq_false_iff.mpr fresh, returned.symm⟩
  | writeFailed | lock | start | installed => cases stepped
  | woken | drop => simp [wakes, LoopAt.cancelled] at stepped

/-- A task that is dropped was aborted, and is over. -/
theorem drop_ends (stepped : run.taskStep sh .drop = some next) :
    run.taskAborted = true ∧ next.task.isOver = true := by
  unfold taskStep at stepped
  split at stepped
  case h_12 =>
    simp only [Option.ite_none_right_eq_some] at stepped
    obtain ⟨aborted, stepped⟩ := stepped
    obtain ⟨task, cancelled, stepped⟩ := Option.bind_eq_some_iff.mp stepped
    have ended := (isOver_of_cancelled cancelled).2
    split at stepped
    · obtain ⟨outbox, -, rfl⟩ := Option.map_eq_some_iff.mp stepped
      exact ⟨aborted, ended⟩
    · cases stepped
      exact ⟨aborted, ended⟩
  all_goals contradiction

/-- A task is dropped only once the client is asked to stop. -/
theorem task_undropped (inv : run.Inv) (going : run.shutdownRequested = false) {input : TaskInput}
    (stepped : run.taskStep sh input = some next) : input ≠ .drop := by
  rintro rfl
  have both := (inv.aborted (drop_ends stepped).1).1.symm.trans going
  cases both

/-- Where a step of the loop leads: into a reconnect only from one or from the end of a connection, and
out of one only to the end of the task. -/
structure Stays (before after : LoopAt) : Prop where
  begins : after.retries = true → before.retries = true ∨ ∃ close, before = .returned close
  goes : before.retries = true → after.isOver = true ∨ after.retries = true

theorem Stays.calm {before after : LoopAt} (calm : after.retries = false)
    (elsewhere : before.retries = false) : Stays before after where
  begins := fun now => by rw [calm] at now; cases now
  goes := fun now => by rw [elsewhere] at now; cases now

theorem Stays.retries {before after : LoopAt} (was : before.retries = true)
    (goes : after.isOver = true ∨ after.retries = true) : Stays before after :=
  ⟨fun _ => .inl was, fun _ => goes⟩

theorem Stays.gate {before after : LoopAt} {loop : LoopRun} {result : Bool × Client × Outcome}
    (was : before.retries = true) (goes : after.retries = true) :
    Stays before (loop.afterGate result after).pc := by
  show Stays before (if result.1 then after else .ended)
  split
  · exact .retries was (.inr goes)
  · exact .retries was (.inl rfl)

theorem step_stays {loop after : LoopRun} {input : Input}
    (stepped : loop.step sh .aio input = some after) : Stays loop.pc after.pc := by
  unfold LoopRun.step at stepped
  split at stepped
  case h_1 pc | h_2 pc | h_4 pc | h_5 pc =>
    cases stepped
    rw [pc]
    exact .calm rfl rfl
  case h_3 pc =>
    cases stepped
    rw [pc]
    show Stays _ (if loop.stop then _ else _)
    split <;> exact .calm rfl rfl
  case h_6 pc =>
    rw [pc]
    split at stepped
    · cases stepped
      exact .retries rfl (.inl rfl)
    · simp only at stepped
      split at stepped <;> cases stepped <;> exact .retries rfl (.inr rfl)
  case h_7 pc | h_20 pc =>
    cases stepped
    rw [pc]
    exact .retries rfl (.inl rfl)
  case h_8 pc | h_10 pc | h_13 pc | h_17 pc | h_18 pc | h_21 pc | h_23 pc =>
    cases stepped
    rw [pc]
    exact .gate rfl rfl
  case h_9 pc | h_11 pc | h_19 pc | h_22 pc =>
    cases stepped
    rw [pc]
    show Stays _ (if loop.stop then _ else _)
    split
    · exact .retries rfl (.inl rfl)
    · exact .retries rfl (.inr rfl)
  case h_15 pc =>
    rw [pc]
    split at stepped
    · cases stepped
      exact .retries rfl (.inl rfl)
    · split at stepped <;> cases stepped <;> exact .retries rfl (.inr rfl)
  case h_24 => cases stepped
  all_goals
    rename_i pc
    cases stepped
    rw [pc]
    exact .retries rfl (.inr rfl)

theorem dispatch_stays {loop after : LoopRun} {input : Input}
    (stepped : loop.dispatchStep sh (.task input) = some after) (elsewhere : loop.pc ≠ .opened)
    (replays : loop.pc = .replaying [] → ∀ now, input ≠ .tick now) : Stays loop.pc after.pc := by
  simp only [LoopRun.dispatchStep] at stepped
  split at stepped
  case h_1 close now pc =>
    rw [pc]
    split at stepped
    · cases stepped
      exact .calm rfl rfl
    · split at stepped <;> cases stepped
      · exact ⟨fun _ => .inr ⟨close, rfl⟩, fun retries => by cases retries⟩
      · exact .calm rfl rfl
  case h_2 pc =>
    cases stepped
    rw [pc]
    exact .gate rfl rfl
  case h_3 pc => exact absurd pc elsewhere
  case h_4 pc => exact absurd rfl (replays pc _)
  case h_5 => exact step_stays stepped

theorem not_retries {task : LoopAt} (ended : task.isOver = true) : task.retries = false := by
  cases task <;> first | rfl | cases ended

/-- A step of the dispatch task that is not the end of a replay. -/
theorem task_stays {input : TaskInput} (stepped : run.taskStep sh input = some next)
    (unreplayed : run.task ≠ .replaying []) : Stays run.task next.task := by
  cases task_cases stepped with
  | loops elsewhere _ _ replays looped =>
    obtain ⟨loop, dispatched, -, -, -, rfl⟩ := taskLoop_cases looped
    exact dispatch_stays dispatched elsewhere replays
  | retires at_ =>
    show Stays run.task run.task
    rw [at_]
    exact .calm rfl rfl
  | locks at_ | starts at_ =>
    show Stays run.task run.task
    rw [at_]
    exact .retries rfl (.inr rfl)
  | installs at_ =>
    rw [at_]
    exact .retries rfl (.inr rfl)
  | reads replayed => exact absurd replayed unreplayed
  | @ends _ task running ended | @abandons task _ running ended =>
    refine ⟨fun retries => ?_, fun _ => .inl ended⟩
    rw [show LoopAt.retries task = false from not_retries ended] at retries
    cases retries

/-- A replay leads to the connection being read, or to the end of the task. -/
theorem task_replayed {input : TaskInput} (stepped : run.taskStep sh input = some next)
    (replaying : run.task = .replaying []) : next.task = .reading none ∨ next.task.isOver = true := by
  cases task_cases stepped with
  | loops elsewhere retired handed replays looped =>
    obtain ⟨loop, dispatched, -, -, -, rfl⟩ := taskLoop_cases looped
    have pc : run.loop.pc = .replaying [] := replaying
    simp only [LoopRun.dispatchStep] at dispatched
    split at dispatched
    case h_4 => exact absurd rfl (replays replaying _)
    case h_5 => simp [LoopRun.step, pc] at dispatched
    case h_1 at_ | h_2 at_ | h_3 at_ =>
      rw [pc] at at_
      cases at_
  | retires at_ | locks at_ | starts at_ | installs at_ =>
    rw [replaying] at at_
    cases at_
  | reads => exact .inl rfl
  | ends _ ended | abandons _ ended => exact .inr ended

/-- What a task that comes from a replay to its connection has done. -/
theorem replaying_input {input : TaskInput} (stepped : run.taskStep sh input = some next)
    (replaying : run.task = .replaying []) (unreported : next.task.unreported = true) :
    ∃ moved, input = .go moved := by
  cases input with
  | go moved => exact ⟨moved, rfl⟩
  | writeFailed | retire | lock | start | installed =>
    unfold taskStep at stepped
    rw [replaying] at stepped
    cases stepped
  | woken => simp [taskStep, replaying, wakes] at stepped
  | drop =>
    rw [not_unreported (drop_ends stepped).2] at unreported
    cases unreported

/-- A connection's writer is started by the step that stores its handle. -/
theorem opened_input {input : TaskInput} (stepped : run.taskStep sh input = some next)
    (opened : run.task = .opened) {failures : List ResubscribeFailure}
    (replaying : next.task = .replaying failures) : ∃ failures, input = .installed failures := by
  cases input with
  | installed failures => exact ⟨failures, rfl⟩
  | writeFailed | retire | go =>
    unfold taskStep at stepped
    rw [opened] at stepped
    cases stepped
  | lock =>
    unfold taskStep at stepped
    rw [opened] at stepped
    obtain ⟨outbox, -, rfl⟩ := Option.map_eq_some_iff.mp stepped
    change AioRun.task (if _ then _ else _) = _ at replaying
    split at replaying <;> cases replaying
  | start =>
    unfold taskStep at stepped
    rw [opened] at stepped
    simp only [Option.ite_none_left_eq_some] at stepped
    obtain ⟨outbox, -, rfl⟩ := Option.map_eq_some_iff.mp stepped.2
    cases replaying
  | woken => simp [taskStep, opened, wakes] at stepped
  | drop =>
    have ended := (drop_ends stepped).2
    rw [replaying] at ended
    cases ended

/-- Until a call asks the client to stop, a step of the loop at a replay leads to its end. -/
theorem dispatch_goes {loop after : LoopRun} {input : Input} (going : loop.stop = false)
    (stepped : loop.dispatchStep sh (.task input) = some after)
    (at_ : loop.pc = .opened ∨ ∃ failures, loop.pc = .replaying failures) :
    after.pc = .reading none ∨ ∃ failures, after.pc = .replaying failures := by
  rcases at_ with pc | ⟨failures, pc⟩
  · simp only [LoopRun.dispatchStep] at stepped
    rw [pc] at stepped
    cases input with
    | unsent failures =>
      simp only [going] at stepped
      cases stepped
      exact .inr ⟨failures, rfl⟩
    | _ => simp [LoopRun.step, pc] at stepped
  · simp only [LoopRun.dispatchStep] at stepped
    rw [pc] at stepped
    cases failures with
    | nil =>
      cases input with
      | tick now =>
        simp only [going] at stepped
        cases stepped
        exact .inl rfl
      | _ => simp [LoopRun.step, pc] at stepped
    | cons failure rest =>
      cases input with
      | tick now =>
        simp only [LoopRun.step, pc] at stepped
        cases stepped
        exact .inr ⟨rest, rfl⟩
      | _ => simp [LoopRun.step, pc] at stepped

/-- Until a call asks the client to stop, a new connection is replayed, and read then. -/
theorem task_goes (inv : run.Inv) (going : run.shutdownRequested = false) {input : TaskInput}
    (stepped : run.taskStep sh input = some next)
    (at_ : run.task = .opened ∨ ∃ failures, run.task = .replaying failures) :
    next.task = .opened ∨ next.task = .reading none ∨ ∃ failures, next.task = .replaying failures := by
  have loops {moved : Input} (looped : run.taskLoop sh moved = some next) :
      next.task = .opened ∨ next.task = .reading none ∨ ∃ failures, next.task = .replaying failures := by
    obtain ⟨loop, dispatched, -, -, -, rfl⟩ := taskLoop_cases looped
    exact .inr (dispatch_goes going dispatched at_)
  have halts := task_halts inv going stepped
  cases task_cases stepped with
  | loops _ _ _ _ looped => exact loops looped
  | retires returned =>
    rcases at_ with at_ | ⟨failures, at_⟩ <;> rw [at_] at returned <;> cases returned
  | locks opened | starts opened => exact .inl opened
  | installs => exact .inr (.inr ⟨_, rfl⟩)
  | reads => exact .inr (.inl rfl)
  | ends _ ended | abandons _ ended =>
    obtain ⟨moved, looped⟩ := halts ended
    exact loops looped

/-! ### Whose connection it is -/

/-- A connection is `connect`'s, or the one the dispatch task reads. -/
def Gives (run : AioRun) (connection : Nat) : Prop :=
  run.connect.receives = some connection ∨
    run.task.unreported = true ∧ run.taskConnection = connection

/-- `connect` has the connection it had, the next one, or none. -/
theorem connect_gives {input : AioConnectInput} (stepped : run.connectStep sh input = some next)
    {connection : Nat} (gives : next.Gives connection) :
    connection = run.outbox.opened ∨ run.Gives connection := by
  cases connect_cases stepped with
  | moves _ _ _ _ _ _ _ _ receives =>
    rcases gives with own | read
    · rcases receives with none | same
      · rw [show _ = some connection from own] at none
        cases none
      · exact .inr (.inl (same.symm.trans own))
    · exact .inr (.inr read)
  | locks | stores => exact .inr (.inr (gives.resolve_left nofun))
  | starts => exact .inr gives
  | installs =>
    rcases gives with own | read
    · exact .inl (Option.some.inj own).symm
    · exact .inr (.inr read)
  | opens authenticating =>
    exact .inr (gives.imp_left fun own => by rw [authenticating]; exact own)
  | spawns spawning =>
    obtain ⟨-, rfl⟩ := gives.resolve_left nofun
    exact .inr (.inl (by rw [spawning]; rfl))

/-- Beside a task that runs, `connect` has no connection. -/
theorem Inv.receives_none (inv : run.Inv) (going : run.shutdownRequested = false)
    (running : run.task.isOver = false) : run.connect.receives = none := by
  cases own : run.connect.receives with
  | none => rfl
  | some connection =>
    have both := (inv.over_of_looked going (looked_of_receives own)).symm.trans running
    cases both

/-- The dispatch task reads the connection it read, or the one it has replayed. -/
theorem task_gives (inv : run.Inv) (going : run.shutdownRequested = false) {input : TaskInput}
    (stepped : run.taskStep sh input = some next) {connection : Nat} (gives : next.Gives connection) :
    run.Gives connection ∨ run.task = .replaying [] ∧ next.task.unreported = true ∧
      run.incoming = some connection := by
  obtain ⟨running, connect, -⟩ := task_frame stepped
  rcases gives with own | ⟨unreported, read⟩
  · rw [connect, inv.receives_none going running] at own
    cases own
  cases task_cases stepped with
  | loops elsewhere _ _ replays looped =>
    obtain ⟨loop, dispatched, -, -, -, rfl⟩ := taskLoop_cases looped
    exact .inl (.inr ⟨(dispatch_leads dispatched elsewhere replays).unreported unreported, read⟩)
  | retires | locks | starts => exact .inl (.inr ⟨unreported, read⟩)
  | installs => cases unreported
  | reads replayed incoming => exact .inr ⟨replayed, rfl, read ▸ incoming⟩
  | ends _ ended | abandons _ ended =>
    rw [not_unreported ended] at unreported
    cases unreported

theorem installed_opened {failures : List ResubscribeFailure}
    (stepped : run.taskStep sh (.installed failures) = some next) : run.task = .opened ∧
      next = { run with
        outbox := run.outbox.spawn
        incoming := some run.outbox.opened
        task := .replaying failures } := by
  have opened : run.task = .opened := by
    by_contra elsewhere
    unfold taskStep at stepped
    split at stepped <;> contradiction
  unfold taskStep at stepped
  rw [opened] at stepped
  simp only [Option.ite_none_right_eq_some, Option.some.injEq] at stepped
  exact ⟨opened, stepped.2.symm⟩

/-- A task in a replay was in it before, or has just installed its connection. -/
theorem task_replays {input : TaskInput} (stepped : run.taskStep sh input = some next)
    (uninstalled : ∀ failures, input ≠ .installed failures) {failures : List ResubscribeFailure}
    (replaying : next.task = .replaying failures) :
    (∃ before, run.task = .replaying before) ∧ next.incoming = run.incoming := by
  cases task_cases stepped with
  | loops elsewhere _ _ _ looped =>
    obtain ⟨loop, dispatched, -, -, -, rfl⟩ := taskLoop_cases looped
    exact ⟨dispatch_replays dispatched elsewhere replaying, rfl⟩
  | retires | locks | starts => exact ⟨⟨failures, replaying⟩, rfl⟩
  | installs opened =>
    obtain ⟨given, same⟩ := opened_input stepped opened rfl
    exact absurd same (uninstalled given)
  | reads => cases replaying
  | ends _ ended | abandons _ ended =>
    rw [show LoopAt.isOver _ = LoopAt.isOver (.replaying failures) from congrArg _ replaying] at ended
    cases ended

end AioRun

end FugleMarketdata
