/-
**Outbound frames stay on their connection.** What the writers of `core/src/websocket/aio/writer.rs` write
where, and what the async client's stream says of failed writes: the `Error` and `Disconnected` items
that the dispatch task, the writers and the closing call queue, read off the steps taken, by the step
that queued an item and the connection that step was of.

* `AioRun.reportOf` — what an item queued by a step reports;
* `AioRun.told` — what a step reported on the stream; by `step_told` no more than it counted as reported;
* `outbound_stays` — one writer at a time, each frame on the socket of the channel it entered, in order,
  and a failed write on the stream at most once and never after its connection was reported lost there.
-/

import FugleMarketdata.Websocket.Outbound

namespace FugleMarketdata

open StepMachines StepMachine

/-! ### What an item reports -/

/-- The connection ended because a write of it failed. -/
def Ending.isWriteFailed : Ending → Bool
  | writeFailed _ _ => true
  | _ => false

namespace AioRun

/-- What an item queued by a step reports. An `Error` a writer queues is its own connection's failed
write, and one the dispatch task queues is where a failed write ended the connection it reads; a
`Disconnected` is that connection's loss, or the client's close where the closing call queues it. -/
def reportOf (run : AioRun) (call : AioCall) : StreamItem → Option Report
  | .event (.error _) =>
    match call with
    | .writer connection _ => some (.writeFailed connection)
    | .task _ =>
      if run.task.ends.any Ending.isWriteFailed then some (.writeFailed run.taskConnection) else none
    | _ => none
  | .event (.disconnected _ _ _ _) =>
    match call with
    | .task _ => some (.lost run.taskConnection)
    | .close _ => some .closed
    | _ => none
  | _ => none

/-- What the items a step queued report, in order. -/
def told (step : Taken AioRun AioCall) : List Report :=
  (queuedBy step.before.client.stream step.after.client.stream).filterMap
    (step.before.reportOf step.label)

end AioRun

/-! ### The items a section queues -/

/-- Items among which no connection is reported lost. -/
def NoLoss (items : List StreamItem) : Prop :=
  ∀ code reason intent willReconnect,
    .event (.disconnected code reason intent willReconnect) ∉ items

theorem noLoss_nil : NoLoss [] := fun _ _ _ _ member => by cases member

/-- A section that leaves the client alone reports nothing. -/
theorem noLoss_same {before after : Client} (same : after = before) :
    NoLoss (queuedBy before.stream after.stream) := by
  rw [same, queuedBy_self]
  exact noLoss_nil

theorem Quiet.noLoss {items : List StreamItem} (quiet : Quiet items) : NoLoss items := by
  intro code reason intent willReconnect member
  have silent := quiet _ member
  cases silent

/-- A section of these kinds reports no connection lost. -/
theorem Section.noLoss {before : Client} {result : Client × Outcome} {kind : EndKind}
    (ran : Section before result kind) (other : ∀ disconnect, kind ≠ .lost disconnect) :
    NoLoss (queuedBy before.stream result.1.stream) := by
  cases ran.effect with
  | quiet _ _ _ items _ => exact items.noLoss
  | lost => exact absurd rfl (other _)
  | opened _ _ _ items => exact items.noLoss
  | gaveUp _ _ _ _ _ either _ =>
    rcases either with none | one
    · rw [none]
      exact noLoss_nil
    · rw [one]
      intro code reason intent willReconnect member
      cases List.mem_singleton.mp member

namespace Client

variable (sh : Shared)

theorem pushMessage_noLoss (now : Nat) (message : WebSocketMessage) (client : Client) :
    NoLoss (queuedBy client.stream (client.pushMessage sh now message).1.stream) := by
  unfold pushMessage
  split
  · rw [queuedBy_self]
    exact noLoss_nil
  · obtain ⟨first, pushes, silent⟩ := State.pushMessageLocked_pushes sh message (client.stream, {})
    obtain ⟨second, pushesReport, silentReport⟩ := State.pushReport_pushes sh now false
      (State.pushMessageLocked sh message (client.stream, {}))
    show NoLoss (queuedBy client.stream
      (State.pushReport sh now false (State.pushMessageLocked sh message (client.stream, {}))).1)
    rw [queuedBy_eq (pushes.trans pushesReport).items]
    exact (quiet_append (quiet_of_lifecycle silent) (quiet_of_lifecycle silentReport)).noLoss

theorem reconnectFailed_noLoss (code : Option Nat) (attempts : Nat) (reason : String)
    (intent : DisconnectIntent) (client : Client) :
    NoLoss (queuedBy client.stream
      (client.reconnectFailed sh code attempts reason intent).1.stream) := by
  rcases reconnectFailed_section sh code attempts reason intent client with ⟨-, refused⟩ | gaveUp
  · exact noLoss_same (congrArg Prod.fst refused)
  · exact gaveUp.noLoss nofun

theorem reconnectAuthenticated_noLoss (now : Nat) (data : Value) (frames : List WebSocketMessage)
    (client : Client) :
    NoLoss (queuedBy client.stream
      (client.reconnectAuthenticated sh now data frames).2.1.stream) := by
  rcases reconnectAuthenticated_section sh now data frames client with refused | opened
  · exact noLoss_same (congrArg (·.2.1) refused)
  · exact opened.noLoss nofun

/-- Losing a connection queues what was pushed before, quiet items, and the `Disconnected` last, where
that was not claimed. -/
theorem loseConnection_items (now : Nat) (disconnect : Disconnect) {client : Client}
    {work : State × Outcome} {pre : List StreamItem} (pushed : Pushes (client.stream, {}) work pre) :
    ∃ reports last,
      queuedBy client.stream (client.loseConnection sh now disconnect work).1.stream =
        pre ++ (reports ++ last) ∧
      lifecycle reports = [] ∧
      (last = [] ∨
        client.stream.disconnectClaimed = false ∧ last = [.event disconnect.event]) := by
  unfold loseConnection
  rw [show work.1.disconnectClaimed = client.stream.disconnectClaimed from pushed.claimed]
  cases claimed : client.stream.disconnectClaimed with
  | true =>
    refine ⟨[], [], ?_, rfl, .inl rfl⟩
    show queuedBy client.stream work.1 = _
    rw [queuedBy_eq pushed.items]
    simp
  | false =>
    obtain ⟨reports, last, pushes, silent, either, -⟩ :=
      State.pushDisconnected_pushes sh now disconnect work
    refine ⟨reports, last, queuedBy_eq (pushes.items.trans ?_), silent, either.imp_right fun one => ⟨rfl, one⟩⟩
    show work.1.items ++ (reports ++ last) = _
    rw [pushed.items, List.append_assoc]

/-- A connection that failed queues its event first, unless the close has been reported. -/
theorem connectionFailed_items (now : Nat) (event : ConnectionEvent) (reason : String)
    (willReconnect : Bool) (client : Client) : ∃ pre reports last,
      queuedBy client.stream
          (client.connectionFailed sh now event reason willReconnect).2.1.stream =
        pre ++ (reports ++ last) ∧
      lifecycle reports = [] ∧
      (client.stream.closeReported = true → pre = [] ∧ last = []) ∧
      (pre = [] ∨ pre = [.event event]) ∧
      (last = [] ∨ client.stream.disconnectClaimed = false ∧
        ∃ code reason intent willReconnect,
          last = [.event (.disconnected code reason intent willReconnect)]) := by
  unfold connectionFailed unlessClosed
  cases closed : client.stream.closeReported with
  | true => exact ⟨[], [], [], queuedBy_self _, rfl, fun _ => ⟨rfl, rfl⟩, .inl rfl, .inl rfl⟩
  | false =>
    obtain ⟨pre, pushes, first, -⟩ := State.pushEvent_pushes sh event (client.stream, {})
    obtain ⟨reports, last, items, silent, either⟩ :=
      client.loseConnection_items sh now { code := none, reason, intent := .network, willReconnect }
        pushes
    exact ⟨pre, reports, last, items, silent, nofun, first,
      either.imp_right fun one => ⟨one.1, _, _, _, _, one.2⟩⟩

/-- Closing the client queues quiet items and the `Disconnected` last, unless the close has been
reported. -/
theorem clientClosed_items (now code : Nat) (reason : String) (client : Client) : ∃ reports last,
    queuedBy client.stream (client.clientClosed sh now code reason).1.stream = reports ++ last ∧
      lifecycle reports = [] ∧
      (last = [] ∨ client.stream.closeReported = false ∧
        last = [.event (.disconnected (some code) reason .client false)]) := by
  unfold clientClosed
  cases closed : client.stream.closeReported with
  | true =>
    refine ⟨[], [], ?_, rfl, .inl rfl⟩
    cases client.connection.isClosed <;> simp [closed, queuedBy]
  | false =>
    obtain ⟨reports, last, pushes, silent, either, -⟩ := State.pushDisconnected_pushes sh now
      { code := some code, reason, intent := .client, willReconnect := false } (client.stream, {})
    refine ⟨reports, last, ?_, silent, either.imp_right fun one => ⟨rfl, one⟩⟩
    simp only [closed, Bool.false_and, Bool.false_eq_true, if_false, Bool.not_false, if_true]
    exact queuedBy_eq pushes.items

end Client

/-! ### A step of the dispatch task's loop -/

namespace LoopRun

variable (sh : Shared) {run next : LoopRun} {input : Input}

/-- The steps both clients share, but for the report of an end, report no connection lost. -/
theorem step_noLoss {kind : ClientKind} (stepped : run.step sh kind input = some next)
    (elsewhere : ∀ last ending willReconnect, run.pc ≠ .reporting last ending willReconnect) :
    NoLoss (queuedBy run.client.stream next.client.stream) := by
  unfold LoopRun.step at stepped
  split at stepped
  case h_1 =>
    cases stepped
    exact run.client.pushMessage_noLoss sh _ _
  case h_5 last ending willReconnect now pc => exact absurd pc (elsewhere _ _ _)
  case h_6 =>
    split at stepped
    · cases stepped
      exact noLoss_same rfl
    · simp only at stepped
      split at stepped <;> cases stepped <;> exact noLoss_same rfl
  case h_7 | h_20 =>
    cases stepped
    exact run.client.reconnectFailed_noLoss sh _ _ _ _
  case h_14 =>
    cases stepped
    exact (Client.startConnection_section run.client).noLoss nofun
  case h_15 =>
    split at stepped
    · cases stepped
      exact noLoss_same rfl
    · split at stepped <;> cases stepped <;> exact noLoss_same rfl
  case h_18 =>
    cases stepped
    exact (run.client.reconnectRejected_section sh _ _ _).noLoss nofun
  case h_2 | h_16 | h_23 =>
    cases stepped
    exact (run.client.emitUnlessClosed_section sh rfl).noLoss nofun
  case h_8 | h_10 | h_13 | h_17 | h_21 =>
    cases stepped
    exact (run.client.reconnectStep_section sh rfl).noLoss nofun
  case h_3 | h_4 | h_9 | h_11 | h_12 | h_19 | h_22 =>
    cases stepped
    exact noLoss_same rfl
  case h_24 => cases stepped

/-- Every step of the dispatch task but the report of an end reports no connection lost. -/
theorem dispatch_noLoss (stepped : run.dispatchStep sh (.task input) = some next)
    (elsewhere : ∀ last ending willReconnect, run.pc ≠ .reporting last ending willReconnect) :
    NoLoss (queuedBy run.client.stream next.client.stream) := by
  simp only [dispatchStep] at stepped
  split at stepped
  case h_1 =>
    split at stepped
    · cases stepped
      exact noLoss_same rfl
    · split at stepped <;> cases stepped <;> exact noLoss_same rfl
  case h_2 =>
    cases stepped
    exact run.client.reconnectAuthenticated_noLoss sh _ _ _
  case h_3 => split at stepped <;> cases stepped <;> exact noLoss_same rfl
  case h_4 =>
    cases stepped
    exact noLoss_same rfl
  case h_5 => exact step_noLoss sh stepped elsewhere

/-- Deciding whether a reconnect follows queues nothing. -/
theorem dispatch_deciding (stepped : run.dispatchStep sh (.task input) = some next)
    {last : Option Int} {ending : Ending} (pc : run.pc = .deciding last ending) :
    next.client = run.client := by
  cases input <;> simp [dispatchStep, LoopRun.step, pc] at stepped
  rw [← stepped]

/-- Reporting an end runs its section on the stream. -/
theorem dispatch_reporting (stepped : run.dispatchStep sh (.task input) = some next)
    {last : Option Int} {ending : Ending} {willReconnect : Bool}
    (pc : run.pc = .reporting last ending willReconnect) :
    ∃ now, next.client = (ending.report sh .aio now willReconnect run.client).1 := by
  cases input <;> simp [dispatchStep, LoopRun.step, pc] at stepped
  exact ⟨_, by rw [← stepped]; rfl⟩

end LoopRun

/-! ### What a step tells -/

namespace AioRun

variable {sh : Shared} {run next : AioRun} {call : AioCall}

/-- An item that says nothing about the connection reports nothing. -/
theorem reportOf_silent {items : List StreamItem} (silent : lifecycle items = []) :
    items.filterMap (run.reportOf call) = [] := by
  refine List.filterMap_eq_nil_iff.mpr fun item member => ?_
  have none : item.lifecycle = none := List.filterMap_eq_nil_iff.mp silent item member
  cases item with
  | message => rfl
  | event event => cases event <;> first | rfl | cases none

/-- Where no failed write ended the connection, what reports no loss reports nothing. -/
theorem reportOf_noLoss {items : List StreamItem} {input : TaskInput} (noLoss : NoLoss items)
    (written : run.task.ends.any Ending.isWriteFailed = false) :
    items.filterMap (run.reportOf (.task input)) = [] := by
  refine List.filterMap_eq_nil_iff.mpr fun item member => ?_
  cases item with
  | message => rfl
  | event event =>
    cases event with
    | disconnected code reason intent willReconnect => exact absurd member (noLoss _ _ _ _)
    | error info =>
      show (if run.task.ends.any Ending.isWriteFailed then _ else _) = _
      rw [written]
      rfl
    | _ => rfl

/-- What a step that leaves the client alone tells: nothing. -/
theorem told_same (same : next.client = run.client) :
    told { before := run, label := call, after := next } = [] := by
  show (queuedBy run.client.stream next.client.stream).filterMap _ = []
  rw [same, queuedBy_self]
  rfl

/-- What the last item of a lost connection tells, after what came before it. -/
theorem told_lost {pre reports last : List StreamItem} {input : TaskInput} {first : List Report}
    (silent : lifecycle reports = [])
    (told : (pre.filterMap (run.reportOf (.task input))).Sublist first)
    (either : last = [] ∨ run.client.stream.disconnectClaimed = false ∧
      ∃ code reason intent willReconnect,
        last = [.event (.disconnected code reason intent willReconnect)]) :
    ((pre ++ (reports ++ last)).filterMap (run.reportOf (.task input))).Sublist
      (first ++ if run.client.stream.disconnectClaimed then [] else [.lost run.taskConnection]) := by
  rw [List.filterMap_append, List.filterMap_append, reportOf_silent silent, List.nil_append]
  refine told.append ?_
  rcases either with rfl | ⟨unclaimed, code, reason, intent, willReconnect, rfl⟩
  · exact List.nil_sublist _
  · rw [unclaimed]
    exact List.Sublist.refl _

/-- Reporting an end tells no more than what it counts as reported. -/
theorem told_ending {last : Option Int} {ending : Ending} {willReconnect : Bool} {now : Nat}
    {input : TaskInput} (at_ : run.task = .reporting last ending willReconnect) :
    ((queuedBy run.client.stream
        (ending.report sh .aio now willReconnect run.client).1.stream).filterMap
      (run.reportOf (.task input))).Sublist (run.endReports ending) := by
  have written : run.task.ends.any Ending.isWriteFailed = ending.isWriteFailed := by rw [at_]; rfl
  have lost {disconnect : Disconnect} :
      ((queuedBy run.client.stream (run.client.loseConnection sh now disconnect
          (run.client.stream, {})).1.stream).filterMap (run.reportOf (.task input))).Sublist
        (if run.client.stream.disconnectClaimed then [] else [.lost run.taskConnection]) := by
    obtain ⟨reports, items, queued, silent, either⟩ :=
      run.client.loseConnection_items sh now disconnect (.refl _)
    rw [queued]
    exact told_lost silent (List.Sublist.refl _) (either.imp_right fun one => ⟨one.1, _, _, _, _, one.2⟩)
  have failed (event : ConnectionEvent) (reason : String) :
      ((queuedBy run.client.stream (run.client.connectionFailed sh now event reason
          willReconnect).2.1.stream).filterMap (run.reportOf (.task input))).Sublist
        (if run.client.stream.closeReported then []
        else (run.reportOf (.task input) (.event event)).toList ++
          if run.client.stream.disconnectClaimed then [] else [.lost run.taskConnection]) := by
    obtain ⟨pre, reports, items, queued, silent, shut, first, either⟩ :=
      run.client.connectionFailed_items sh now event reason willReconnect
    rw [queued]
    cases closed : run.client.stream.closeReported with
    | true =>
      obtain ⟨rfl, rfl⟩ := shut closed
      simp [reportOf_silent silent]
    | false =>
      refine told_lost silent ?_ either
      rcases first with rfl | rfl
      · exact List.nil_sublist _
      · rw [List.filterMap_cons]
        cases run.reportOf (.task input) (.event event) <;> exact List.Sublist.refl _
  have error (info : ErrorInfo) : run.reportOf (.task input) (.event (.error info)) =
      if ending.isWriteFailed then some (.writeFailed run.taskConnection) else none := by
    rw [← written]
    rfl
  cases ending with
  | peerClose code reason => exact lost
  | eof => exact lost
  | readFailed info text =>
    have told := failed (.error { info with message := ClientKind.aio.readErrorText ++ text })
      (ClientKind.aio.readErrorText ++ text)
    rw [error] at told
    exact told
  | writeFailed info text =>
    have told := failed (.error { info with message := "WebSocket write error: " ++ text })
      ("WebSocket write error: " ++ text)
    rw [error] at told
    exact told
  | silent elapsed =>
    exact failed (.heartbeatTimeout elapsed)
      ("Heartbeat timeout after " ++ toString (elapsed / 1000000 % 2 ^ 64) ++ "ms")

/-- A step of the dispatch task's loop tells no more than what it counts as reported. -/
theorem told_taskLoop {input : Input} {label : TaskInput} (stepped : run.taskLoop sh input = some next) :
    (told { before := run, label := .task label, after := next }).Sublist run.taskReports := by
  obtain ⟨loop, moved, -, -, -, rfl⟩ := taskLoop_cases stepped
  show ((queuedBy run.client.stream loop.client.stream).filterMap
    (run.reportOf (.task label))).Sublist run.taskReports
  cases at_ : run.task with
  | reporting last ending willReconnect =>
    obtain ⟨now, client⟩ := LoopRun.dispatch_reporting sh moved at_
    rw [client, taskReports, at_]
    exact told_ending at_
  | deciding last ending =>
    rw [LoopRun.dispatch_deciding sh moved at_]
    show ((queuedBy run.client.stream run.client.stream).filterMap _).Sublist _
    rw [queuedBy_self]
    exact List.nil_sublist _
  | _ =>
    have noLoss := LoopRun.dispatch_noLoss sh moved fun _ _ _ reporting => by
      cases at_.symm.trans reporting
    have nothing : (queuedBy run.client.stream loop.client.stream).filterMap
        (run.reportOf (.task label)) = [] := reportOf_noLoss noLoss (by rw [at_]; rfl)
    rw [nothing]
    exact List.nil_sublist _

/-- Reporting the close tells no more than that, where it was not reported before. -/
theorem told_close {now : Nat} {forced : Bool} {input : AioCloseInput} :
    (told
        { before := run, label := .close input, after := run.reportClose sh now forced }).Sublist
      (if run.client.stream.closeReported then [] else [.closed]) := by
  have closes (code : Nat) (reason : String) :
      ((queuedBy run.client.stream (run.client.clientClosed sh now code reason).1.stream).filterMap
        (run.reportOf (.close input))).Sublist
          (if run.client.stream.closeReported then [] else [.closed]) := by
    obtain ⟨reports, last, queued, silent, either⟩ :=
      run.client.clientClosed_items sh now code reason
    rw [queued, List.filterMap_append, reportOf_silent silent, List.nil_append]
    rcases either with rfl | ⟨fresh, rfl⟩
    · exact List.nil_sublist _
    · rw [fresh]
      exact List.Sublist.refl _
  cases forced with
  | true => exact closes 1006 "Force closed"
  | false => exact closes 1000 "Normal closure"

/-- A writer's report tells no more than that, where it went out. -/
theorem told_writer {connection : Nat} {input : RunWriterInput} (info : ErrorInfo) :
    ((queuedBy run.client.stream
        (run.client.emitUnlessClosed sh (.error info)).2.1.stream).filterMap
      (run.reportOf (.writer connection input))).Sublist
        (if (run.client.emitUnlessClosed sh (.error info)).1 then [.writeFailed connection] else []) := by
  unfold Client.emitUnlessClosed Client.unlessClosed
  cases run.client.stream.closeReported with
  | true =>
    show ((queuedBy run.client.stream run.client.stream).filterMap _).Sublist _
    rw [queuedBy_self]
    exact List.nil_sublist _
  | false =>
    obtain ⟨new, pushes, either, -⟩ := State.pushEvent_pushes sh (.error info) (run.client.stream, {})
    show ((queuedBy run.client.stream
      (State.pushEvent sh (.error info) (run.client.stream, {})).1).filterMap _).Sublist _
    rw [queuedBy_eq pushes.items]
    rcases either with rfl | rfl
    · exact List.nil_sublist _
    · exact List.Sublist.refl _

/-- A step that counts nothing and tells nothing. -/
theorem told_nothing (same : next.reports = run.reports)
    (nothing : told { before := run, label := call, after := next } = []) :
    ∃ reports, next.reports = run.reports ++ reports ∧
      (told { before := run, label := call, after := next }).Sublist reports :=
  ⟨[], same.trans (List.append_nil _).symm, nothing ▸ List.nil_sublist _⟩

/-- A step of a writer counts what it reports, and tells no more than that. -/
theorem writerStep_told {connection : Nat} {input : RunWriterInput}
    (stepped : run.writerStep sh connection input = some next) :
    ∃ reports, next.reports = run.reports ++ reports ∧
      (told { before := run, label := .writer connection input, after := next }).Sublist reports := by
  unfold AioRun.writerStep at stepped
  split at stepped
  case h_1 =>
    cases stepped
    exact told_nothing rfl (told_same rfl)
  case h_2 =>
    cases stepped
    exact ⟨_, rfl, told_writer _⟩
  case h_3 =>
    obtain ⟨outbox, moved, rfl⟩ := Option.map_eq_some_iff.mp stepped
    exact told_nothing rfl (told_same rfl)

/-- Every step counts what it reports, and tells no more than that. -/
theorem step_told (stepped : run.step sh call = some next) :
    ∃ reports, next.reports = run.reports ++ reports ∧
      (told { before := run, label := call, after := next }).Sublist reports := by
  have never (items : List StreamItem) (mute : ∀ item, run.reportOf call item = none) :
      items.filterMap (run.reportOf call) = [] :=
    List.filterMap_eq_nil_iff.mpr fun item _ => mute item
  cases call with
  | connect input =>
    refine told_nothing ?_ (never _ fun item => ?_)
    · cases connect_cases stepped <;> rfl
    · rcases item with message | event
      · rfl
      · cases event <;> rfl
  | close input =>
    cases close_cases stepped with
    | moves => exact told_nothing rfl (told_same rfl)
    | @reports forced now reporting =>
      exact ⟨_, rfl, told_close⟩
  | task input =>
    cases task_cases stepped with
    | loops _ _ _ _ stepped =>
      refine ⟨run.taskReports, ?_, told_taskLoop stepped⟩
      obtain ⟨loop, -, -, -, -, rfl⟩ := taskLoop_cases stepped
      rfl
    | _ => exact told_nothing rfl (told_same rfl)
  | writer connection input => exact writerStep_told stepped
  | cloneSender =>
    obtain ⟨outbox, cloned, rfl⟩ := Option.map_eq_some_iff.mp stepped
    exact told_nothing rfl (told_same rfl)
  | put connection text =>
    obtain ⟨outbox, queued, rfl⟩ := Option.map_eq_some_iff.mp stepped
    exact told_nothing rfl (told_same rfl)
  | dropSender connection =>
    obtain ⟨outbox, dropped, rfl⟩ := Option.map_eq_some_iff.mp stepped
    exact told_nothing rfl (told_same rfl)
  | pop =>
    obtain ⟨read, popped, rfl⟩ := Option.map_eq_some_iff.mp stepped
    refine told_nothing rfl (never _ fun item => ?_)
    rcases item with message | event
    · rfl
    · cases event <;> rfl

end AioRun

/-- What the steps taken told on the stream is, in order, among what was counted as reported. -/
def AioRun.Tells (run : AioRun) (taken : List (Taken AioRun AioCall)) : Prop :=
  (taken.flatMap told).Sublist run.reports

theorem aioRun_tells {sh : Shared} {config : ReconnectionConfig} {run : AioRun}
    {taken : List (Taken AioRun AioCall)}
    (reached : (aioRuns sh config).recorded.Reachable (run, taken)) : run.Tells taken := by
  have base (first : AioRun) (starts : (aioRuns sh config).start first) : first.Tells [] :=
    List.nil_sublist _
  refine recorded_invariant base ?_ reached
  intro before call after taken _ tells stepped
  obtain ⟨reports, same, new⟩ := AioRun.step_told stepped
  unfold AioRun.Tells
  rw [same, List.flatMap_append, List.flatMap_singleton]
  exact tells.append new

/-- **Outbound frames stay on their connection.** In every run of the async client no two writers run
at once, a writer that writes has its own connection's sink, what was written to a socket is what
entered its connection's queue first, in that order, and the stream reports a failed write once at most,
never after it reported the connection lost or the client closed. -/
theorem outbound_stays {sh : Shared} {config : ReconnectionConfig} {run : AioRun}
    {taken : List (Taken AioRun AioCall)}
    (reached : (aioRuns sh config).recorded.Reachable (run, taken)) :
    (∀ first second, run.outbox.Runs first → run.outbox.Runs second → first = second) ∧
      (∀ connection sink text,
        (run.outbox.connections connection).writer = .sending sink text → sink = connection) ∧
      (∀ connection,
        (run.outbox.connections connection).written <+: (run.outbox.connections connection).entered) ∧
      (taken.flatMap AioRun.told).Pairwise Report.Allows := by
  have reaches : (aioRuns sh config).Reachable run := reached.of_recorded
  have box := (aioRun_inv reaches).box
  refine ⟨fun first second one other => ?_, fun connection => (box.fits connection).sink,
    fun connection => (box.fits connection).order,
    (aioRun_reported reaches).order.sublist (aioRun_tells reached)⟩
  have same := (box.latest first one).trans (box.latest second other).symm
  omega

/-! ### A concrete run -/

/-- A whole `connect()` the server accepts. -/
def acceptedAioConnect : List AioCall :=
  ([.begin true, .go, .go, .conflict 0 true, .go, .go, .go, .go, .dialed none, .go, .go, .go,
    .verdict (.authenticated .null []), .go, .go, .go, .go, .go, .go, .go, .go, .go] :
    List AioConnectInput).map .connect

/-- The first connection is lost. The dispatch task stops its writer, opens the next connection and
replays nothing. -/
def connectionReplaced : List AioCall :=
  ([.go (.ending .eof), .go (.tick 0), .go (.tick 0), .retire, .go (.tick 0), .go (.hash 0),
    .go (.tick 0), .go (.tick 0), .go (.tick 0), .go (.dialed none), .go (.tick 0), .go (.tick 0),
    .go (.verdict (.authenticated .null [])), .go (.tick 0), .lock, .start] : List TaskInput).map .task ++
    .writer 0 .drop ::
      ([.start, .start, .installed [], .go (.tick 0)] : List TaskInput).map .task

/-- A frame is written and another stays queued when the connection is lost; the next frame goes to the
connection that replaces it, and the write after that fails. -/
def replacedConnection : List AioCall :=
  acceptedAioConnect ++ [.cloneSender, .put 0 "subscribe", .put 0 "unsubscribe"] ++
    List.replicate 4 (.writer 0 .go) ++ connectionReplaced ++
    [.cloneSender, .put 1 "subscribe again", .put 1 "unsubscribe again"] ++
    List.replicate 6 (.writer 1 .go) ++
    [.writer 1 (.fail { error := WRITER_GONE, text := "reset" }), .writer 1 .go, .pop, .pop, .pop,
      .task .writeFailed, .task (.go (.tick 0)), .task (.go (.tick 0))]

theorem outbound_stays_replaced :
    ∃ run taken, (aioRuns smallStream .default).recorded.run ({ mgr := .new .default }, [])
        replacedConnection = some (run, taken) ∧
      (run.outbox.connections 1).written = ["subscribe again"] ∧
      (run.outbox.connections 0).written <+: (run.outbox.connections 0).entered ∧
      taken.flatMap AioRun.told = [.lost 0, .writeFailed 1, .lost 1] ∧
      (taken.flatMap AioRun.told).Pairwise Report.Allows := by
  have ends : ((aioRuns smallStream .default).recorded.run ({ mgr := .new .default }, [])
      replacedConnection).any (fun (run, taken) => decide
        ((run.outbox.connections 1).written = ["subscribe again"] ∧
          taken.flatMap AioRun.told = [.lost 0, .writeFailed 1, .lost 1])) = true := by
    decide +kernel
  obtain ⟨⟨run, taken⟩, ran, last⟩ := (Option.any_eq_true ..).mp ends
  obtain ⟨written, told⟩ := of_decide_eq_true last
  have starts : (aioRuns smallStream .default).recorded.start ({ mgr := .new .default }, []) :=
    ⟨rfl, rfl⟩
  have reached := reachable_of_run replacedConnection (.init _ starts) ran
  obtain ⟨-, -, order, reports⟩ := outbound_stays reached
  exact ⟨run, taken, ran, written, order 0, told, reports⟩

end FugleMarketdata
