/-
**The async client's dispatch task.** The task `spawn_dispatch_task` starts: `dispatch_messages` and
`try_reconnect` with `try_connect` of `core/src/websocket/aio/`, beside callers of `disconnect()` and
`force_close()` of `aio/client.rs`.

The task is dropped where it stands once a caller has asked the client to stop: by the wake-up that
ends a backoff or an attempt, or by an abort. While it lives its writer hands a failed write to it;
after that a writer that is still current reports the failure itself.
-/

import FugleMarketdata.Websocket.ReconnectLoop

namespace FugleMarketdata

open StepMachines StepMachine

/-- A step of the dispatch task, of a writer left behind, of a caller, or of the consumer. -/
inductive DispatchCall where
  | task (input : Input)
  | cancel
  | writerFailed (info : ErrorInfo) (text : String)
  | disconnect (caller : Nat)
  | forceClose (caller : Nat)
  | clear (caller : Nat)
  | report (now caller : Nat)
  | pop

/-- Where a task dropped at some point is left; it is not dropped where it awaits nothing. Its writer
is current while it reads a connection and from the moment the writer is installed. -/
def LoopAt.cancelled : LoopAt → Option LoopAt
  | .reading _ | .deciding _ _ | .replaying _ => some .dropped
  | .reporting _ _ _ | .returned _ | .shuttingDown | .ended | .dropped => none
  | _ => some .ended

namespace LoopRun

variable (sh : Shared)

/-- The steps of the async client. -/
def dispatchStep (run : LoopRun) : DispatchCall → Option LoopRun
  | .task input =>
    match run.pc, input with
    | .returned close, .tick _ =>
      if run.stop then some { run with pc := .ended }
      else if run.mgr.shouldReconnect close.code close.lastErrorCode then
        some { run with pc := .loopTop close }
      else some { run with pc := .ended }
    | .accepted data frames, .tick now =>
      some (run.afterGate (run.client.reconnectAuthenticated sh now data frames) .opened)
    -- the writer is installed unless shutdown was requested
    | .opened, .unsent failures =>
      if run.stop then some { run with mgr := run.mgr.reset, pc := .ended }
      else some { run with senderLive := true, mgr := run.mgr.reset, pc := .replaying failures }
    | .replaying [], .tick _ =>
      some { run with pc := if run.stop then .dropped else .reading none }
    | _, _ => run.step sh .aio input
  | .cancel =>
    if run.stop then run.pc.cancelled.map fun pc => { run with pc } else none
  | .writerFailed info text =>
    match run.pc with
    | .dropped =>
      some (run.after (run.client.emitUnlessClosed sh
        (.error { info with message := "WebSocket write error: " ++ text })).2 .dropped)
    | _ => none
  | .disconnect caller =>
    if run.closers caller = .idle then some (run.raise caller false) else none
  | .forceClose caller =>
    if run.closers caller = .idle then some (run.raise caller true) else none
  | .clear caller =>
    match run.closers caller with
    | .raised forced => some (run.clear caller forced)
    | _ => none
  | .report now caller =>
    match run.closers caller with
    | .cleared forced => some (run.reportClose sh now caller forced)
    | _ => none
  | .pop => run.pop

end LoopRun

/-- The async client, from where a caller's `connect()` has authenticated a connection. -/
def dispatchRuns (sh : Shared) (config : ReconnectionConfig) : StepMachine LoopRun DispatchCall where
  start := fun run => ∃ (client : Client) (data : Value) (frames : List WebSocketMessage),
    client.stream.receiverAlive = true ∧
      run = { client := (client.authenticated sh data frames).1, mgr := .new config }
  step := LoopRun.dispatchStep sh

namespace LoopRun

variable (sh : Shared) {run next : LoopRun}

theorem InPhase.task {phase : Phase} {input : Input} (here : run.InPhase phase)
    (stepped : run.dispatchStep sh (.task input) = some next) (clean : next.refused = []) :
    ∃ phase, next.InPhase phase := by
  have fits := here.fits
  simp only [dispatchStep] at stepped
  split at stepped
  -- the dispatch loop returned
  · rename_i close now pc
    rw [pc] at fits
    split at stepped
    · rename_i stop
      cases stepped
      exact ⟨phase, here.goto rfl (by rw [pc]; rfl) fun _ _ asked => asked (asked_of_stop stop)⟩
    split at stepped
    · cases stepped
      refine ⟨phase, here.goto rfl (by rw [pc]; rfl) fun open_ _ _ => ?_⟩
      obtain ⟨zero, ⟨up, -⟩ | ⟨lost, -⟩⟩ := fits open_
      · exact ⟨0, Or.inr ⟨up, rfl⟩, zero⟩
      · exact ⟨0, Or.inl lost, zero⟩
    · rename_i declined
      cases stepped
      refine ⟨phase, here.goto rfl (by rw [pc]; rfl) fun open_ _ _ => ?_⟩
      obtain ⟨-, ⟨-, closing⟩ | ⟨-, promised⟩⟩ := fits open_
      · exact closing
      · exact (declined promised).elim
  -- the reconnected connection is opened
  · rename_i data frames now pc
    rw [pc] at fits
    cases stepped
    refine here.afterGate (here.tracks.reconnectAuthenticated sh now data frames
      (after_refused clean).2 fun open_ => ?_)
    obtain ⟨attempt, trying, -⟩ := fits open_
    exact ⟨⟨attempt, trying⟩, rfl, rfl⟩
  · rename_i failures pc
    rw [pc] at fits
    split at stepped
    · rename_i stop
      cases stepped
      exact ⟨phase, here.goto rfl (by rw [pc]; rfl) fun _ _ asked => asked (asked_of_stop stop)⟩
    · cases stepped
      exact ⟨phase, here.install rfl (by rw [pc]; rfl) fun open_ _ => ⟨fits open_, rfl⟩⟩
  · rename_i now pc
    rw [pc] at fits
    cases stepped
    refine ⟨phase, here.goto rfl (by rw [pc]; rfl) fun open_ _ asked => ?_⟩
    cases stop : run.stop with
    | true => exact ⟨asked (asked_of_stop stop), (fits open_).1⟩
    | false => exact fits open_
  · exact here.step sh stepped clean

/-- Dropping the task leaves the rest to the caller that asked for it. -/
theorem InPhase.cancel {phase : Phase} {pc : LoopAt} (here : run.InPhase phase)
    (stop : run.stop = true) (cancelled : run.pc.cancelled = some pc) :
    InPhase { run with pc } phase := by
  have going : run.pc.isOver = false := by
    cases known : run.pc <;> first | rfl | rw [known] at cancelled; cases cancelled
  refine here.goto rfl going fun open_ fits asked => ?_
  have closing : run.Closing := asked (asked_of_stop stop)
  cases known : run.pc <;> rw [known] at cancelled fits <;> cases cancelled <;>
    first | exact closing | exact ⟨closing, fits.1⟩

/-- What a step of the task leaves alone. -/
theorem dispatchStep_frame {input : Input}
    (stepped : run.dispatchStep sh (.task input) = some next) :
    next.mgr.config = run.mgr.config ∧ (next.refused = [] → run.refused = []) := by
  simp only [dispatchStep] at stepped
  split at stepped
  case h_1 =>
    split at stepped
    · cases stepped
      exact ⟨rfl, id⟩
    · split at stepped <;> cases stepped <;> exact ⟨rfl, id⟩
  case h_2 =>
    cases stepped
    exact ⟨rfl, fun clean => (after_refused clean).1⟩
  case h_3 => split at stepped <;> cases stepped <;> exact ⟨rfl, id⟩
  case h_4 =>
    cases stepped
    exact ⟨rfl, id⟩
  case h_5 => exact step_frame sh stepped

/-- Every step of the async client keeps the invariant. -/
theorem Inv.dispatchStep {config : ReconnectionConfig} {call : DispatchCall}
    (inv : run.Inv config) (stepped : run.dispatchStep sh call = some next) : next.Inv config := by
  cases call with
  | task input =>
    obtain ⟨config, refused⟩ := dispatchStep_frame sh stepped
    refine ⟨config.trans inv.config, fun clean => ?_⟩
    obtain ⟨phase, here⟩ := inv.phase (refused clean)
    exact here.task sh stepped clean
  | cancel =>
    simp only [LoopRun.dispatchStep, Option.ite_none_right_eq_some, Option.map_eq_some_iff] at stepped
    obtain ⟨stop, pc, cancelled, rfl⟩ := stepped
    refine ⟨inv.config, fun clean => ?_⟩
    obtain ⟨phase, here⟩ := inv.phase clean
    exact ⟨phase, here.cancel stop cancelled⟩
  | writerFailed info text =>
    simp only [LoopRun.dispatchStep] at stepped
    split at stepped
    · rename_i pc
      cases stepped
      refine ⟨inv.config, fun clean => ?_⟩
      obtain ⟨before, cleanEvent⟩ := after_refused clean
      obtain ⟨phase, here⟩ := inv.phase before
      have fits := here.fits
      rw [pc] at fits
      exact ⟨phase, here.diagnostic sh (fun open_ => (fits open_).2) fits (fun _ => rfl) cleanEvent⟩
    · cases stepped
  | disconnect caller =>
    simp only [LoopRun.dispatchStep, Option.ite_none_right_eq_some, Option.some.injEq] at stepped
    obtain ⟨-, rfl⟩ := stepped
    exact inv.raise caller false
  | forceClose caller =>
    simp only [LoopRun.dispatchStep, Option.ite_none_right_eq_some, Option.some.injEq] at stepped
    obtain ⟨-, rfl⟩ := stepped
    exact inv.raise caller true
  | clear caller =>
    simp only [LoopRun.dispatchStep] at stepped
    split at stepped
    · cases stepped
      exact inv.clear caller _
    · cases stepped
  | report now caller =>
    simp only [LoopRun.dispatchStep] at stepped
    split at stepped
    · cases stepped
      exact inv.reportClose sh now caller _
    · cases stepped
  | pop => exact inv.pop stepped

end LoopRun

/-- Every state the async client reaches satisfies the invariant. -/
theorem dispatch_inv {sh : Shared} {config : ReconnectionConfig} {run : LoopRun}
    (reached : (dispatchRuns sh config).Reachable run) : run.Inv config := by
  have base (run : LoopRun) (starts : (dispatchRuns sh config).start run) : run.Inv config := by
    obtain ⟨client, data, frames, alive, rfl⟩ := starts
    exact LoopRun.Inv.start sh config data frames alive
  have keeps (run : LoopRun) (call : DispatchCall) (next : LoopRun) (inv : run.Inv config)
      (stepped : (dispatchRuns sh config).step run call = some next) : next.Inv config :=
    inv.dispatchStep sh stepped
  exact reached.invariant base keeps

end FugleMarketdata
