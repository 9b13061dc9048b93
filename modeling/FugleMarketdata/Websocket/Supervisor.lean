/-
**The sync client's supervisor.** `run_supervisor` with `owner_loop`, `reconnect_and_authenticate`
and `open_reconnected` of `core/src/websocket/sync/owner_thread.rs`, beside callers of `disconnect()`
and `force_close()` of `core/src/websocket/sync/client.rs`.

One thread reads the connection and reconnects it. It is told to stop by flags it polls, and
`force_close()` raises two of them, one after the other.
-/

import FugleMarketdata.Websocket.ReconnectLoop

namespace FugleMarketdata

open StepMachines StepMachine

/-- A step of the supervisor thread, of a caller, or of the consumer. -/
inductive SupervisorCall where
  | thread (input : Input)
  | stopSeen
  | abortSeen
  | senderGone
  | disconnect (caller : Nat)
  | forceClose (caller : Nat)
  | raise (caller : Nat)
  | clear (caller : Nat)
  | report (now caller : Nat)
  | pop

namespace LoopRun

variable (sh : Shared)

/-- The steps of the sync client. -/
def supervisorStep (run : LoopRun) : SupervisorCall → Option LoopRun
  | .thread input =>
    match run.pc, input with
    | .returned close, .tick _ =>
      if run.stop then some { run with pc := .shuttingDown }
      else if run.mgr.shouldReconnect close.code close.lastErrorCode then
        some { run with pc := .loopTop close }
      else some { run with pc := .ended }
    -- a `Closed` recorded with the connection's `Disconnected` stands
    | .shuttingDown, .tick _ =>
      let connection := if run.client.connection.isClosed then run.client.connection
        else .closed (some 1000) "Client disconnected" .client
      some { run with client := { run.client with connection }, pc := .ended }
    | .accepted data frames, .unsent failures =>
      some { run with
        senderLive := true, mgr := run.mgr.reset, pc := .opening data frames failures }
    | .opening data frames failures, .tick now =>
      some (run.afterGate (run.client.reconnectAuthenticated sh now data frames)
        (.replaying failures))
    | .replaying [], .tick _ => some { run with pc := .reading none }
    | _, _ => run.step sh .sync input
  | .stopSeen =>
    match run.pc with
    | .reading last =>
      if run.stop then
        some { run with
          pc := .returned { code := if run.abort then none else some 1000, lastErrorCode := last } }
      else none
    | _ => none
  -- `abort` is read on its own, and set before the stop flag
  | .abortSeen =>
    match run.pc with
    | .reading last =>
      if run.abort then some { run with pc := .returned { lastErrorCode := last } } else none
    | _ => none
  | .senderGone =>
    match run.pc with
    | .reading last =>
      if !run.senderLive then
        some { run with pc := .returned { code := some 1000, lastErrorCode := last } }
      else none
    | _ => none
  | .disconnect caller =>
    if run.closers caller = .idle then some (run.raise caller false) else none
  | .forceClose caller =>
    if run.closers caller = .idle then
      some { run with abort := true, closers := Function.update run.closers caller .aborting }
    else none
  | .raise caller =>
    if run.closers caller = .aborting then some (run.raise caller true) else none
  | .clear caller =>
    match run.closers caller with
    | .raised forced => some (run.clear caller forced)
    | _ => none
  | .report now caller =>
    match run.closers caller with
    | .cleared forced => some (run.reportClose sh now caller forced)
    | _ => none
  | .pop => run.pop

end LoopRun

/-- The sync client, from where a caller's `connect()` has authenticated a connection. -/
def supervisorRuns (sh : Shared) (config : ReconnectionConfig) : StepMachine LoopRun SupervisorCall where
  start := fun run => ∃ (client : Client) (data : Value) (frames : List WebSocketMessage),
    client.stream.receiverAlive = true ∧
      run = { client := (client.authenticated sh data frames).1, mgr := .new config }
  step := LoopRun.supervisorStep sh

namespace LoopRun

variable (sh : Shared) {run next : LoopRun}

/-- The owner loop stops because a caller asked it to. -/
theorem InPhase.stops {phase : Phase} {last : Option Int} {close : ConnectionClose}
    (here : run.InPhase phase) (pc : run.pc = .reading last) (asked : run.asked = true) :
    InPhase { run with pc := .returned close } phase := by
  refine here.goto rfl (by rw [pc]; rfl) fun _ fits closing => ?_
  rw [pc] at fits
  exact ⟨fits.2, Or.inl ⟨fits.1, closing asked⟩⟩

theorem InPhase.thread {phase : Phase} {input : Input} (here : run.InPhase phase)
    (stepped : run.supervisorStep sh (.thread input) = some next) (clean : next.refused = []) :
    ∃ phase, next.InPhase phase := by
  have fits := here.fits
  simp only [supervisorStep] at stepped
  split at stepped
  -- the owner loop returned
  · rename_i close now pc
    rw [pc] at fits
    split at stepped
    · rename_i stop
      cases stepped
      exact ⟨phase, here.goto rfl (by rw [pc]; rfl) fun _ _ asked => asked (asked_of_stop stop)⟩
    split at stepped
    · cases stepped
      refine ⟨phase, here.goto rfl (by rw [pc]; rfl) fun open_ _ _ => ?_⟩
      obtain ⟨zero, ⟨up, -⟩ | ⟨lost, -⟩⟩ := fits open_
      · exact ⟨0, Or.inr ⟨up, rfl⟩, zero⟩
      · exact ⟨0, Or.inl lost, zero⟩
    · rename_i declined
      cases stepped
      refine ⟨phase, here.goto rfl (by rw [pc]; rfl) fun open_ _ _ => ?_⟩
      obtain ⟨-, ⟨-, closing⟩ | ⟨-, promised⟩⟩ := fits open_
      · exact closing
      · exact (declined promised).elim
  · rename_i now pc
    rw [pc] at fits
    cases stepped
    have tracks := here.tracks
    exact ⟨phase, ⟨tracks.alive, tracks.followed, tracks.reported, tracks.unclaimed, tracks.claimed⟩,
      here.asked, fits, fun _ => rfl⟩
  -- the reconnected connection is opened
  · rename_i data frames failures pc
    rw [pc] at fits
    cases stepped
    refine ⟨phase, here.install rfl (by rw [pc]; rfl) fun open_ _ => ?_⟩
    obtain ⟨attempt, trying, -⟩ := fits open_
    exact ⟨⟨attempt, trying⟩, rfl⟩
  · rename_i data frames failures now pc
    rw [pc] at fits
    cases stepped
    refine here.afterGate (here.tracks.reconnectAuthenticated sh now data frames
      (after_refused clean).2 fun open_ => ?_)
    obtain ⟨trying, zero⟩ := fits open_
    exact ⟨trying, rfl, rfl, zero⟩
  · rename_i now pc
    rw [pc] at fits
    cases stepped
    exact ⟨phase, here.goto rfl (by rw [pc]; rfl) fun open_ _ _ => fits open_⟩
  · exact here.step sh stepped clean

/-- What a step of the thread leaves alone. -/
theorem supervisorStep_frame {input : Input}
    (stepped : run.supervisorStep sh (.thread input) = some next) :
    next.mgr.config = run.mgr.config ∧ (next.refused = [] → run.refused = []) := by
  simp only [supervisorStep] at stepped
  split at stepped
  case h_1 =>
    split at stepped
    · cases stepped
      exact ⟨rfl, id⟩
    · split at stepped <;> cases stepped <;> exact ⟨rfl, id⟩
  case h_4 =>
    cases stepped
    exact ⟨rfl, fun clean => (after_refused clean).1⟩
  case h_6 => exact step_frame sh stepped
  all_goals
    cases stepped
    exact ⟨rfl, id⟩

/-- Every step of the sync client keeps the invariant. -/
theorem Inv.supervisorStep {config : ReconnectionConfig} {call : SupervisorCall}
    (inv : run.Inv config) (stepped : run.supervisorStep sh call = some next) : next.Inv config := by
  have stops {last : Option Int} {close : ConnectionClose} (pc : run.pc = .reading last)
      (asked : run.asked = true) : Inv config { run with pc := .returned close } := by
    refine ⟨inv.config, fun clean => ?_⟩
    obtain ⟨phase, here⟩ := inv.phase clean
    exact ⟨phase, here.stops pc asked⟩
  cases call with
  | thread input =>
    obtain ⟨config, refused⟩ := supervisorStep_frame sh stepped
    refine ⟨config.trans inv.config, fun clean => ?_⟩
    obtain ⟨phase, here⟩ := inv.phase (refused clean)
    exact here.thread sh stepped clean
  | stopSeen | abortSeen | senderGone =>
    simp only [LoopRun.supervisorStep] at stepped
    split at stepped
    · rename_i last pc
      split at stepped
      · rename_i flag
        cases stepped
        exact stops pc (by simp [asked, flag])
      · cases stepped
    · cases stepped
  | disconnect caller =>
    simp only [LoopRun.supervisorStep, Option.ite_none_right_eq_some, Option.some.injEq] at stepped
    obtain ⟨-, rfl⟩ := stepped
    exact inv.raise caller false
  | forceClose caller =>
    simp only [LoopRun.supervisorStep, Option.ite_none_right_eq_some, Option.some.injEq] at stepped
    obtain ⟨-, rfl⟩ := stepped
    exact inv.moveCaller rfl run.stop true run.senderLive
  | raise caller =>
    simp only [LoopRun.supervisorStep, Option.ite_none_right_eq_some, Option.some.injEq] at stepped
    obtain ⟨-, rfl⟩ := stepped
    exact inv.raise caller true
  | clear caller =>
    simp only [LoopRun.supervisorStep] at stepped
    split at stepped
    · cases stepped
      exact inv.clear caller _
    · cases stepped
  | report now caller =>
    simp only [LoopRun.supervisorStep] at stepped
    split at stepped
    · cases stepped
      exact inv.reportClose sh now caller _
    · cases stepped
  | pop => exact inv.pop stepped

end LoopRun

/-- Every state the sync client reaches satisfies the invariant. -/
theorem supervisor_inv {sh : Shared} {config : ReconnectionConfig} {run : LoopRun}
    (reached : (supervisorRuns sh config).Reachable run) : run.Inv config := by
  have base (run : LoopRun) (starts : (supervisorRuns sh config).start run) : run.Inv config := by
    obtain ⟨client, data, frames, alive, rfl⟩ := starts
    exact LoopRun.Inv.start sh config data frames alive
  have keeps (run : LoopRun) (call : SupervisorCall) (next : LoopRun) (inv : run.Inv config)
      (stepped : (supervisorRuns sh config).step run call = some next) : next.Inv config :=
    inv.supervisorStep sh stepped
  exact reached.invariant base keeps

end FugleMarketdata
