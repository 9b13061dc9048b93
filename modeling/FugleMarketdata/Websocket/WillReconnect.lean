/-
**will_reconnect tells the truth.** Both clients' runs, against the order of events that guarantee 3
of `core/src/websocket/connection_event.rs` promises.

* `willReconnect_truthful` — every run of either client keeps the promise, the attempts numbered up
  to `u32::MAX`;
* `attempts_saturate` — past that the numbers repeat.
-/

import FugleMarketdata.Websocket.DispatchTask
import FugleMarketdata.Websocket.Supervisor

namespace FugleMarketdata

open StepMachines StepMachine

/-- A client whose connection was just authenticated. -/
def LoopRun.connected : LoopRun where
  client := (({} : Client).authenticated smallStream .null []).1
  mgr := .new .default

/-- A transport error. -/
def refusedTransport : ErrorInfo where
  code := 3002
  sourceKind := .network
  message := "connection refused"

/-- The server restarts, and the consumer reads the `Authenticated` and the `Disconnected`. -/
def serverRestart : List SupervisorCall :=
  [.thread (.ending (.peerClose (some 1001) none)), .thread (.tick 0), .thread (.tick 0), .pop, .pop,
    .thread (.tick 0)]

/-- An attempt whose transport is refused; the consumer reads its events. -/
def failedAttempt : List SupervisorCall :=
  [.thread (.hash 0), .thread (.tick 0), .pop, .thread (.tick 0), .thread (.tick 0), .pop,
    .thread (.dialed (some refusedTransport)), .thread (.tick 0), .thread (.tick 0),
    .thread (.tick 0), .pop]

/-- The supervisor between two attempts, everything read. -/
def LoopRun.betweenAttempts (queued : List StreamItem) (attempt jitterPpm : Nat) : LoopRun where
  client := { stream := { disconnectClaimed := true } }
  mgr := { config := .default, currentAttempt := attempt, jitterPpm }
  pc := .loopTop { code := some 1001 }
  queued

/-- The `Disconnected` of a server restart. -/
def restarted : StreamItem :=
  .event (.disconnected (some 1001) "Server initiated close" .server true)

/-- The async client is closed while it waits to reconnect after a server restart. -/
def closedWhileWaiting : List DispatchCall :=
  [.task (.ending (.peerClose (some 1001) none)), .task (.tick 0), .task (.tick 0), .task (.tick 0),
    .task (.hash 0), .task (.tick 0), .disconnect 0, .cancel, .clear 0, .report 5 0]

/-- What a refused attempt queues. -/
def refusedAttempt (attempt : Nat) : List StreamItem :=
  [.event (.reconnecting attempt), .event .connecting, .event (.error refusedTransport)]

theorem serverRestart_runs : (supervisorRuns smallStream .default).run .connected serverRestart =
    some (.betweenAttempts [restarted] 0 0) := rfl

/-- **will_reconnect tells the truth.** In every run of either client in which no event is refused, a
`Disconnected` that announces no reconnect is followed by none, and one that announces it by attempts
numbered in order, within the limit, that end in one `Authenticated`, `ReconnectFailed` or final
`Disconnected`; each attempt says how it ended. -/
theorem willReconnect_truthful (sh : Shared) (config : ReconnectionConfig) :
    (∀ run, (supervisorRuns sh config).Reachable run → run.refused = [] →
      WillReconnectTruthful attemptNumber config.maxAttempts run.Finished run.queued) ∧
    (∀ run, (dispatchRuns sh config).Reachable run → run.refused = [] →
      WillReconnectTruthful attemptNumber config.maxAttempts run.Finished run.queued) :=
  ⟨fun _ reached clean => (supervisor_inv reached).truthful clean,
    fun _ reached clean => (dispatch_inv reached).truthful clean⟩

theorem willReconnect_truthful_restart :
    (∃ run, (supervisorRuns smallStream .default).run .connected serverRestart = some run ∧
      WillReconnectTruthful attemptNumber 0 run.Finished run.queued) ∧
    (∃ run, (dispatchRuns smallStream .default).run .connected closedWhileWaiting = some run ∧
      WillReconnectTruthful attemptNumber 0 run.Finished run.queued) := by
  have startSync : (supervisorRuns smallStream .default).Reachable .connected :=
    .init _ ⟨{}, .null, [], rfl, rfl⟩
  have startAio : (dispatchRuns smallStream .default).Reachable .connected :=
    .init _ ⟨{}, .null, [], rfl, rfl⟩
  refine ⟨⟨_, rfl, ?_⟩, ⟨_, rfl, ?_⟩⟩
  · exact (willReconnect_truthful smallStream .default).1 _
      (reachable_of_run serverRestart startSync rfl) rfl
  · exact (willReconnect_truthful smallStream .default).2 _
      (reachable_of_run closedWhileWaiting startAio rfl) rfl

/-- Each refused attempt is announced under the next number, which stops at `u32::MAX`. -/
theorem failedAttempt_runs (queued : List StreamItem) (attempt jitterPpm : Nat) :
    (supervisorRuns smallStream .default).run (.betweenAttempts queued attempt jitterPpm)
        failedAttempt =
      some (.betweenAttempts (queued ++ refusedAttempt (min (attempt + 1) U32_MAX))
        (min (attempt + 1) U32_MAX)
        (if attempt = 0 then jitter 0 JITTER_PPM_CEILING else jitterPpm)) := by
  have ran : (supervisorRuns smallStream .default).run (.betweenAttempts queued attempt jitterPpm)
      failedAttempt = some (.betweenAttempts
        (queued ++ [.event (.reconnecting (min (attempt + 1) U32_MAX))] ++ [.event .connecting] ++ [] ++
          [.event (.error refusedTransport)])
        (min (attempt + 1) U32_MAX)
        (if attempt = 0 then jitter 0 JITTER_PPM_CEILING else jitterPpm)) := rfl
  rw [ran]
  simp only [List.append_assoc, List.append_nil, List.cons_append, List.nil_append, refusedAttempt]

/-- Any number of attempts may be refused, one after the other. -/
theorem refusedAttempts_reachable (count : Nat) : ∃ after attempt jitterPpm,
    (supervisorRuns smallStream .default).Reachable
        (.betweenAttempts (restarted :: after) attempt jitterPpm) ∧
      (announced (lifecycle after)).length = count ∧ fromEnd (lifecycle after) = [] := by
  induction count with
  | zero =>
    have start : (supervisorRuns smallStream .default).Reachable .connected :=
      .init _ ⟨{}, .null, [], rfl, rfl⟩
    exact ⟨[], 0, 0, reachable_of_run serverRestart start serverRestart_runs, rfl, rfl⟩
  | succ count ih =>
    obtain ⟨after, attempt, jitterPpm, reached, counted, going⟩ := ih
    have next := reachable_of_run failedAttempt reached (failedAttempt_runs _ attempt jitterPpm)
    refine ⟨after ++ refusedAttempt (min (attempt + 1) U32_MAX), _, _, next, ?_, ?_⟩
    · rw [lifecycle_append, announced_append going, List.length_append, counted]
      rfl
    · rw [lifecycle_append, fromEnd_append going]
      rfl

/-- The attempts are not numbered 1, 2, 3, … without end: after `u32::MAX` of them, with no limit set,
the number repeats. -/
theorem attempts_saturate : ¬ ∀ (sh : Shared) (config : ReconnectionConfig) (run : LoopRun),
    (supervisorRuns sh config).Reachable run → run.refused = [] →
      WillReconnectTruthful id config.maxAttempts run.Finished run.queued := by
  intro always
  obtain ⟨after, attempt, jitterPpm, reached, counted, -⟩ := refusedAttempts_reachable (U32_MAX + 1)
  have claimed := (always smallStream .default _ reached rfl).resolved [] after _ _ _ rfl
  have kept := ((supervisor_inv reached).truthful rfl).resolved [] after _ _ _ rfl
  have same := kept.numbered.symm.trans claimed.numbered
  rw [counted] at same
  have last := List.map_inj_left.mp same U32_MAX (List.mem_range.mpr (Nat.lt_succ_self _))
  unfold attemptNumber at last
  simp only [id_eq] at last
  omega

end FugleMarketdata
