/-
**A supervisor told to stop.** What a step of the sync client's supervisor thread does to the flags of
the stream, and where the thread goes once `should_stop` is set.

* `ThreadEffect` — one step, by what becomes of the reported close;
* `LoopAt.active` — the thread may still report the connection lost or reconnect it;
* `LoopAt.rank`, `thread_rank` — once the stop flag is set and the close reported, every step brings
  the thread closer to its end, but for what it still reads before it looks at the flag.
-/

import FugleMarketdata.Websocket.Supervisor

namespace FugleMarketdata

/-- The calls that are steps of the supervisor thread. -/
def SupervisorCall.ofThread : SupervisorCall → Bool
  | .thread _ | .stopSeen | .abortSeen | .senderGone => true
  | _ => false

/-- The thread may still report the connection lost, or reconnect it. -/
def LoopAt.active (stop : Bool) : LoopAt → Bool
  | .reading _ | .returned _ => !stop
  | .shuttingDown | .ended | .dropped => false
  | _ => true

/-- Raising the stop flag makes no thread active. -/
theorem LoopAt.active_mono {pc : LoopAt} {before after : Bool}
    (raises : before = true → after = true) (active : pc.active after = true) :
    pc.active before = true := by
  cases before with
  | false => cases pc <;> first | rfl | cases active
  | true =>
    rw [raises rfl] at active
    exact active

/-- How many steps the thread has left at most once the stop flag is set and the close reported, but
for what it reads before it looks at the flag. -/
def LoopAt.rank : LoopAt → Nat
  | .ended | .dropped => 0
  | .returned _ | .dialing _ | .starting _ | .accepted _ _ => 2
  | .reading _ | .reporting _ _ _ => 3
  | .deciding _ _ => 4
  | .replaying failures => 4 + failures.length
  | _ => 1

/-- The thread reads a connection. -/
def LoopAt.isReading : LoopAt → Bool
  | .reading _ => true
  | _ => false

/-! ### Sections that leave the reported close alone -/

/-- The flags stay, and a `Closed` state recorded with a reported close stays `Closed`. -/
structure KeepsClose (before after : Client) : Prop where
  reported : after.stream.closeReported = before.stream.closeReported
  claimed : after.stream.disconnectClaimed = before.stream.disconnectClaimed
  isClosed : before.stream.closeReported = true → before.connection.isClosed = true →
    after.connection.isClosed = true

namespace KeepsClose

variable {before after : Client}

theorem refl (client : Client) : KeepsClose client client := ⟨rfl, rfl, fun _ => id⟩

theorem of_section {result : Client × Outcome} (quiet : Section before result .quiet) :
    KeepsClose before result.1 := by
  cases quiet.effect with
  | quiet reported claimed opened items kept =>
    exact ⟨reported, claimed, fun closed => (kept closed).2 ▸ id⟩

theorem of_pushes {outcome : Outcome} {new : List StreamItem}
    (pushes : Pushes (before.stream, {}) (after.stream, outcome) new)
    (same : after.connection = before.connection) : KeepsClose before after :=
  ⟨pushes.reported, pushes.claimed, fun _ => same ▸ id⟩

end KeepsClose

namespace Client

variable (sh : Shared)

theorem emit_keeps (event : ConnectionEvent) (client : Client) :
    KeepsClose client (client.emit sh event).1 := by
  obtain ⟨new, pushes, -⟩ := State.pushEvent_pushes sh event (client.stream, {})
  exact .of_pushes pushes rfl

theorem unauthenticated_keeps (message : String) (data : Value) (frames : List WebSocketMessage)
    (client : Client) : KeepsClose client (client.unauthenticated sh message data frames).1 := by
  obtain ⟨new, pushes, -⟩ := State.pushRejection_quiet sh message data frames (client.stream, {})
  exact .of_pushes pushes rfl

theorem startConnection_keeps (client : Client) : KeepsClose client client.startConnection :=
  .of_section (startConnection_section client)

theorem pushMessage_keeps (now : Nat) (message : WebSocketMessage) (client : Client) :
    KeepsClose client (client.pushMessage sh now message).1 := by
  unfold pushMessage
  split
  · exact .refl client
  · obtain ⟨first, pushes, -⟩ := State.pushMessageLocked_pushes sh message (client.stream, {})
    obtain ⟨second, pushesReport, -⟩ := State.pushReport_pushes sh now false
      (State.pushMessageLocked sh message (client.stream, {}))
    exact .of_pushes (pushes.trans pushesReport) rfl

theorem reconnectAuthenticated_cases (now : Nat) (data : Value) (frames : List WebSocketMessage)
    (client : Client) :
    client.reconnectAuthenticated sh now data frames = (false, client, {}) ∨
      client.stream.closeReported = false ∧
        (client.reconnectAuthenticated sh now data frames).2.1.stream.closeReported = false := by
  rcases reconnectAuthenticated_section sh now data frames client with refused | opened
  · exact .inl refused
  · cases opened.effect with
    | opened fresh reported => exact .inr ⟨fresh, reported⟩

/-- A connection lost is reported unless that has happened, and is claimed either way. -/
theorem loseConnection_cases {work : State × Outcome} {new : List StreamItem} (now : Nat)
    (disconnect : Disconnect) (client : Client) (pushes : Pushes (client.stream, {}) work new) :
    KeepsClose client (client.loseConnection sh now disconnect work).1 ∨
      client.stream.disconnectClaimed = false ∧
        (client.loseConnection sh now disconnect work).1.stream.disconnectClaimed = true := by
  unfold loseConnection
  split
  · exact .inl ⟨pushes.reported, pushes.claimed, fun _ => id⟩
  · rename_i unclaimed
    right
    obtain ⟨reports, last, pushed, -⟩ := State.pushDisconnected_pushes sh now disconnect work
    refine ⟨?_, pushed.claimed⟩
    rw [← pushes.claimed]
    exact Bool.not_eq_true _ ▸ unclaimed

theorem connectionFailed_cases (now : Nat) (event : ConnectionEvent) (reason : String)
    (willReconnect : Bool) (client : Client) :
    KeepsClose client (client.connectionFailed sh now event reason willReconnect).2.1 ∨
      client.stream.disconnectClaimed = false ∧
        (client.connectionFailed sh now event reason willReconnect).2.1.stream.disconnectClaimed =
          true := by
  unfold connectionFailed unlessClosed
  split
  · exact .inl (.refl client)
  · obtain ⟨new, pushes, -⟩ := State.pushEvent_pushes sh event (client.stream, {})
    exact loseConnection_cases sh now _ client pushes

/-- The client's close is reported and its state is `Closed`, whatever came before. -/
theorem clientClosed_closes (now code : Nat) (reason : String) (client : Client) :
    (client.clientClosed sh now code reason).1.stream.closeReported = true ∧
      (client.clientClosed sh now code reason).1.connection.isClosed = true ∧
      ((client.clientClosed sh now code reason).1.stream.disconnectClaimed = true ∨
        (client.clientClosed sh now code reason).1.stream = client.stream) := by
  cases reported : client.stream.closeReported with
  | false =>
    obtain ⟨reports, last, pushes, -⟩ := State.pushDisconnected_pushes sh now
      { code := some code, reason, intent := .client, willReconnect := false } (client.stream, {})
    unfold Client.clientClosed
    simp only [reported, Bool.false_and, Bool.false_eq_true, if_false, Bool.not_false, if_true]
    exact ⟨pushes.reported.trans (Bool.or_true _), rfl, .inl pushes.claimed⟩
  | true =>
    unfold Client.clientClosed
    cases closed : client.connection.isClosed with
    | false => simp [reported, ConnectionState.isClosed]
    | true => simp [reported, closed]

end Client

theorem Ending.report_cases (sh : Shared) (kind : ClientKind) (now : Nat) (willReconnect : Bool)
    (client : Client) (ending : Ending) :
    KeepsClose client (ending.report sh kind now willReconnect client).1 ∨
      client.stream.disconnectClaimed = false ∧
        (ending.report sh kind now willReconnect client).1.stream.disconnectClaimed = true := by
  cases ending with
  | peerClose code reason =>
    simp only [report]
    split
    · exact Client.loseConnection_cases sh now _ client (Pushes.refl _)
    · exact .inl (.refl client)
  | eof => exact Client.loseConnection_cases sh now _ client (Pushes.refl _)
  | readFailed info text => exact Client.connectionFailed_cases sh now _ _ willReconnect client
  | writeFailed info text => exact Client.connectionFailed_cases sh now _ _ willReconnect client
  | silent elapsed => exact Client.connectionFailed_cases sh now _ _ willReconnect client

namespace LoopRun

variable (sh : Shared) {run next : LoopRun}

/-! ### What a step of the thread does -/

/-- One step of the thread, by what becomes of the reported close. -/
inductive ThreadEffect (run next : LoopRun) : Prop
  /-- The reported close stays as it is. -/
  | keeps : KeepsClose run.client next.client → ThreadEffect run next
  /-- A connection is reported lost that was not claimed before. -/
  | lost : run.pc.active run.stop = true → run.client.stream.disconnectClaimed = false →
      next.client.stream.disconnectClaimed = true → ThreadEffect run next
  /-- A connection is opened, the close not being reported. -/
  | opened : run.client.stream.closeReported = false → next.client.stream.closeReported = false →
      ThreadEffect run next
  /-- The thread gives up and ends. -/
  | gaveUp : run.pc.active run.stop = true → run.client.stream.closeReported = false →
      next.pc = .ended → ThreadEffect run next

theorem reconnectFailed_effect {code : Option Nat} {attempts : Nat} {reason : String}
    {intent : DisconnectIntent} (active : run.pc.active run.stop = true) :
    ThreadEffect run
      (run.after (run.client.reconnectFailed sh code attempts reason intent) .ended) := by
  rcases Client.reconnectFailed_section sh code attempts reason intent run.client with
    ⟨-, refused⟩ | gaveUp
  · rw [refused]
    exact .keeps (.refl run.client)
  · cases gaveUp.effect with
    | gaveUp fresh => exact .gaveUp active fresh rfl

/-- The steps both clients share. -/
theorem step_effect {kind : ClientKind} {input : Input}
    (stepped : run.step sh kind input = some next) : ThreadEffect run next := by
  unfold LoopRun.step at stepped
  split at stepped
  case h_1 =>
    cases stepped
    exact .keeps (Client.pushMessage_keeps sh _ _ _)
  case h_5 last ending willReconnect now pc =>
    cases stepped
    rcases ending.report_cases sh kind now willReconnect run.client with keeps | ⟨before, after⟩
    · exact .keeps keeps
    · exact .lost (by rw [pc]; rfl) before after
  case h_6 =>
    split at stepped
    · cases stepped
      exact .keeps (.refl _)
    · simp only at stepped
      split at stepped <;> cases stepped <;> exact .keeps (.refl _)
  case h_7 pc | h_20 pc =>
    cases stepped
    exact reconnectFailed_effect sh (by rw [pc]; rfl)
  case h_14 =>
    cases stepped
    exact .keeps (Client.startConnection_keeps _)
  case h_15 =>
    split at stepped
    · cases stepped
      exact .keeps (.refl _)
    · split at stepped <;> cases stepped <;> exact .keeps (.refl _)
  case h_18 =>
    cases stepped
    exact .keeps (.of_section (Client.reconnectRejected_section sh _ _ _ _))
  case h_2 | h_16 | h_23 =>
    cases stepped
    exact .keeps (.of_section (Client.emitUnlessClosed_section sh rfl _))
  case h_8 | h_10 | h_13 | h_17 | h_21 =>
    cases stepped
    exact .keeps (.of_section (Client.reconnectStep_section sh rfl _))
  case h_3 | h_4 | h_9 | h_11 | h_12 | h_19 | h_22 =>
    cases stepped
    exact .keeps (.refl _)
  case h_24 => cases stepped

/-- **A step of the supervisor thread**, by what becomes of the reported close. -/
theorem thread_effect {call : SupervisorCall} (own : call.ofThread = true)
    (stepped : run.supervisorStep sh call = some next) : ThreadEffect run next := by
  cases call with
  | thread input =>
    simp only [supervisorStep] at stepped
    split at stepped
    case h_1 =>
      split at stepped
      · cases stepped
        exact .keeps (.refl _)
      · split at stepped <;> cases stepped <;> exact .keeps (.refl _)
    case h_2 =>
      cases stepped
      refine .keeps ⟨rfl, rfl, fun _ closed => ?_⟩
      show ConnectionState.isClosed (if _ then _ else _) = true
      rw [if_pos closed]
      exact closed
    case h_4 data frames failures now pc =>
      cases stepped
      rcases Client.reconnectAuthenticated_cases sh now data frames run.client with
        refused | ⟨before, after⟩
      · rw [refused]
        exact .keeps (.refl _)
      · exact .opened before after
    case h_3 | h_5 =>
      cases stepped
      exact .keeps (.refl _)
    case h_6 => exact step_effect sh stepped
  | stopSeen | abortSeen | senderGone =>
    simp only [supervisorStep] at stepped
    split at stepped
    · split at stepped <;> cases stepped
      exact .keeps (.refl _)
    · cases stepped
  | disconnect | forceClose | raise | clear | report | pop => cases own

/-- A thread that can no longer report or reconnect stays that way. -/
theorem thread_inactive {call : SupervisorCall} (own : call.ofThread = true)
    (stepped : run.supervisorStep sh call = some next) (idle : run.pc.active run.stop = false) :
    next.pc.active run.stop = false := by
  cases pc : run.pc with
  | reading last =>
    rw [pc] at idle
    have stop : run.stop = true := by simpa [LoopAt.active] using idle
    cases call with
    | thread input =>
      simp only [supervisorStep, pc] at stepped
      cases input <;> simp only [LoopRun.step, pc, stop] at stepped <;> cases stepped <;>
        rw [stop] <;> rfl
    | stopSeen | abortSeen | senderGone =>
      simp only [supervisorStep, pc, Option.ite_none_right_eq_some, Option.some.injEq] at stepped
      obtain ⟨-, rfl⟩ := stepped
      rw [stop]
      rfl
    | disconnect | forceClose | raise | clear | report | pop => cases own
  | returned close =>
    rw [pc] at idle
    have stop : run.stop = true := by simpa [LoopAt.active] using idle
    cases call with
    | thread input =>
      simp only [supervisorStep, pc] at stepped
      cases input <;> simp [LoopRun.step, pc, stop] at stepped
      rw [← stepped]
      rfl
    | stopSeen | abortSeen | senderGone => simp [supervisorStep, pc] at stepped
    | disconnect | forceClose | raise | clear | report | pop => cases own
  | shuttingDown =>
    cases call with
    | thread input =>
      simp only [supervisorStep, pc] at stepped
      cases input <;> simp [LoopRun.step, pc] at stepped
      rw [← stepped]
      rfl
    | stopSeen | abortSeen | senderGone => simp [supervisorStep, pc] at stepped
    | disconnect | forceClose | raise | clear | report | pop => cases own
  | ended | dropped =>
    cases call with
    | thread input => cases input <;> simp [supervisorStep, LoopRun.step, pc] at stepped
    | stopSeen | abortSeen | senderGone => simp [supervisorStep, pc] at stepped
    | disconnect | forceClose | raise | clear | report | pop => cases own
  | _ =>
    rw [pc] at idle
    cases idle

/-! ### The way out -/

/-- A section the reported close refuses. -/
theorem unlessClosed_reported {client : Client} {report : Client → Client × Outcome}
    (reported : client.stream.closeReported = true) :
    client.unlessClosed report = (false, client, {}) :=
  if_pos reported

theorem rank_afterGate {report : Client → Client × Outcome} {pc : LoopAt} {bound : Nat}
    (reported : run.client.stream.closeReported = true) (positive : 0 < bound) :
    (run.afterGate (run.client.unlessClosed report) pc).pc.rank < bound := by
  rw [unlessClosed_reported reported]
  exact positive

theorem step_rank {input : Input} (stop : run.stop = true)
    (reported : run.client.stream.closeReported = true)
    (stepped : run.step sh .sync input = some next) :
    next.pc.rank < run.pc.rank ∨ run.pc.isReading = true ∧ next.pc.isReading = true := by
  unfold LoopRun.step at stepped
  split at stepped
  case h_1 pc | h_2 pc =>
    cases stepped
    exact .inr ⟨by rw [pc]; rfl, rfl⟩
  case h_3 pc =>
    rw [stop] at stepped
    cases stepped
    left
    rw [pc]
    exact Nat.lt_succ_self 2
  case h_4 pc | h_5 pc =>
    cases stepped
    left
    rw [pc]
    exact Nat.lt_succ_self _
  case h_6 pc =>
    rw [stop] at stepped
    cases stepped
    left
    rw [pc]
    exact Nat.one_pos
  case h_8 pc | h_10 pc | h_13 pc | h_17 pc | h_18 pc | h_21 pc | h_23 pc =>
    cases stepped
    refine .inl (rank_afterGate reported ?_)
    rw [pc]
    exact Nat.one_pos
  case h_9 pc | h_11 pc | h_19 pc | h_22 pc =>
    rw [stop] at stepped
    cases stepped
    left
    rw [pc]
    exact Nat.succ_pos _
  case h_7 pc | h_12 pc | h_14 pc | h_20 pc =>
    cases stepped
    left
    rw [pc]
    exact Nat.lt_succ_self _
  case h_15 pc =>
    rw [stop] at stepped
    cases stepped
    left
    rw [pc]
    exact Nat.one_pos
  case h_16 failure rest now pc =>
    cases stepped
    left
    rw [pc]
    exact Nat.lt_succ_self _
  case h_24 => cases stepped

/-- **The way out.** With the stop flag set and the close reported, each step brings the thread
closer to its end, but for what it still reads. -/
theorem thread_rank {call : SupervisorCall} (own : call.ofThread = true) (stop : run.stop = true)
    (reported : run.client.stream.closeReported = true)
    (stepped : run.supervisorStep sh call = some next) :
    next.pc.rank < run.pc.rank ∨ run.pc.isReading = true ∧ next.pc.isReading = true := by
  cases call with
  | thread input =>
    simp only [supervisorStep] at stepped
    split at stepped
    case h_1 pc =>
      rw [stop] at stepped
      cases stepped
      left
      rw [pc]
      exact Nat.lt_succ_self _
    case h_2 pc | h_3 pc | h_5 pc =>
      cases stepped
      left
      rw [pc]
      exact Nat.lt_succ_self _
    case h_4 pc =>
      cases stepped
      refine .inl (rank_afterGate reported ?_)
      rw [pc]
      exact Nat.one_pos
    case h_6 => exact step_rank sh stop reported stepped
  | stopSeen | abortSeen | senderGone =>
    simp only [supervisorStep] at stepped
    split at stepped
    · rename_i pc
      simp only [Option.ite_none_right_eq_some, Option.some.injEq] at stepped
      obtain ⟨-, rfl⟩ := stepped
      left
      rw [pc]
      exact Nat.lt_succ_self 2
    · cases stepped
  | disconnect | forceClose | raise | clear | report | pop => cases own

/-- What the thread reads on does not keep it: it may look at the flag at once. -/
theorem stopSeen_enabled (stop : run.stop = true) (reading : run.pc.isReading = true) :
    ∃ next, run.supervisorStep sh .stopSeen = some next ∧ next.pc.rank < run.pc.rank := by
  cases pc : run.pc with
  | reading last =>
    refine ⟨{ run with
      pc := .returned { code := if run.abort then none else some 1000, lastErrorCode := last } },
      ?_, Nat.lt_succ_self 2⟩
    simp only [supervisorStep, pc, stop, if_true]
  | _ =>
    rw [pc] at reading
    cases reading

end LoopRun

end FugleMarketdata
