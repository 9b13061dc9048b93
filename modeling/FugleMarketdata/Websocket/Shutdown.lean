/-
**What a graceful disconnect flushes.** The frames whose `enqueue_write` returned `Ok` before
`disconnect()` was called, on a connection that is up while the shutdown runs.

* `disconnect_flushes` — on either client they are all written, in order, before the Close frame, in
  every run that meets the client's condition;
* `disconnect_overtakes` — the asynchronous client's Close frame may overtake them.
-/

import FugleMarketdata.Websocket.WriterTask
import FugleMarketdata.Websocket.OwnerLoop

namespace FugleMarketdata

open StepMachines StepMachine

/-- **A graceful disconnect flushes what was queued before it**: on the asynchronous client where no
such frame is left in the queue or in the writer task's hands when the Close frame is sent, on the
synchronous one where the liveness check does not give the connection up while one is queued. -/
theorem disconnect_flushes (async : AsyncShutdown) (sync : SyncShutdown) :
    (asyncShutdownRuns.ReachableUnder (fun conn call _ => conn.ClosesDrained call) async →
      async.Flushed) ∧
    (syncShutdownRuns.ReachableUnder (fun conn call _ => conn.KeptAlive call) sync →
      sync.Flushed) :=
  ⟨AsyncShutdown.flushed, SyncShutdown.flushed⟩

/-! ### Concrete runs -/

/-- A caller queues a frame. -/
def queued (json : String) : List WriteCall := [.cloneSender, .send json true]

/-- Two frames queued and written, then the whole shutdown of the asynchronous client. -/
def asyncDrained : List AsyncShutdownCall :=
  (queued "subscribe trades:2330" ++ queued "subscribe books:2330").map .enqueue ++
    List.replicate 6 .writer ++ List.replicate 4 .shutdown ++ [.writer, .shutdown, .dispatchEnds] ++
    List.replicate 3 .shutdown

/-- Two frames queued while the owner thread reads, then the whole shutdown of the synchronous
client. -/
def syncDrained : List SyncShutdownCall :=
  [.owner .go] ++ (queued "subscribe trades:2330" ++ queued "subscribe books:2330").map .enqueue ++
    [.shutdown, .shutdown, .owner (.received []), .owner .probe] ++ List.replicate 4 (.owner .go) ++
    List.replicate 3 .shutdown

theorem disconnect_flushes_twoFrames :
    (∃ conn, asyncShutdownRuns.run {} asyncDrained = some conn ∧ conn.shutdown = .returned ∧
      conn.socket.owed.map Outbound.json = ["subscribe trades:2330", "subscribe books:2330"]) ∧
    (∃ conn, syncShutdownRuns.run {} syncDrained = some conn ∧ conn.shutdown = .returned ∧
      conn.socket.owed.map Outbound.json = ["subscribe trades:2330", "subscribe books:2330"]) := by
  constructor
  · obtain ⟨conn, ran, returned, accepted⟩ : ∃ conn, asyncShutdownRuns.runUnder
        (fun conn call => conn.ClosesDrained call) {} asyncDrained = some conn ∧
        conn.shutdown = .returned ∧ conn.queue.accepted.map Outbound.json =
          ["subscribe trades:2330", "subscribe books:2330"] := ⟨_, rfl, rfl, rfl⟩
    have reached := reachableUnder_of_run asyncDrained (.start rfl) ran
    have flushed := (disconnect_flushes conn {}).1 reached (.inr returned)
    exact ⟨conn, run_of_runUnder _ ran, returned, flushed ▸ accepted⟩
  · obtain ⟨conn, ran, returned, accepted⟩ : ∃ conn, syncShutdownRuns.runUnder
        (fun conn call => conn.KeptAlive call) {} syncDrained = some conn ∧
        conn.shutdown = .returned ∧ conn.queue.accepted.map Outbound.json =
          ["subscribe trades:2330", "subscribe books:2330"] := ⟨_, rfl, rfl, rfl⟩
    have reached := reachableUnder_of_run syncDrained (.start rfl) ran
    have flushed := (disconnect_flushes {} conn).2 reached (.inr returned)
    exact ⟨conn, run_of_runUnder _ ran, returned, flushed ▸ accepted⟩

/-- The shutdown takes the sink's lock before the writer task takes the frame from the queue. -/
def asyncOvertaken : List AsyncShutdownCall :=
  (queued "subscribe trades:2330").map .enqueue ++ List.replicate 4 .shutdown

/-- In some run of the asynchronous client the Close frame is sent with the frame unwritten. -/
theorem disconnect_overtakes :
    ¬ ((∀ conn, asyncShutdownRuns.Reachable conn → conn.Flushed) ∧
      (∀ conn, syncShutdownRuns.Reachable conn → conn.Flushed)) := by
  rintro ⟨async, -⟩
  refine not_forall_reachable asyncOvertaken rfl ⟨_, rfl, fun flushed => ?_⟩ async
  cases flushed (.inl rfl)

end FugleMarketdata
