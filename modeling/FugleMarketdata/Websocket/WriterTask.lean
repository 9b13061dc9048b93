/-
**The asynchronous client's shutdown.** `shutdown_with_timeout` empties the sender slot, sends the
Close frame through the sink and only then waits for the writer task, which takes frames from the
queue one by one and writes each under the same lock on the sink.

* `AsyncShutdown.runWriterTask`, `AsyncShutdown.shutdownWithTimeout` — the two parties of that lock;
* `asyncShutdownRuns` — both, the calls that queue frames and the dispatch task, in every order,
  on a connection that is up: no write fails but for the Close, and the timeout does not run out;
* `AsyncShutdown.refines_pipe` — queue, writer task and socket are a pipe, closed by the Close frame;
* `AsyncShutdown.flushed`, `AsyncShutdown.closing_flushed_iff` — the frames queued before the call
  are all written exactly where none of them is left when the Close frame is sent.
-/

import FugleMarketdata.Websocket.WriteQueue

namespace FugleMarketdata

open StepMachines StepMachine

/-! ### The parties -/

/-- Where the writer task is: it holds the sink's lock while it sends. -/
inductive WriterAt where
  | receiving
  | holding (frame : Outbound)
  | sending (frame : Outbound)
  | stopped
  deriving DecidableEq, Repr

/-- What the writer task has taken from the queue and not written. -/
def WriterAt.held : WriterAt → List Outbound
  | .holding frame => [frame]
  | .sending frame => [frame]
  | .receiving => []
  | .stopped => []

/-- The last step of `shutdown_with_timeout` that is done; `closing` holds the sink's lock. -/
inductive AsyncShutdownAt where
  | idle
  | requested
  | senderDropped
  | closing
  | closed
  | writerDone
  | dispatchDone
  | sinkCleared
  | returned
  deriving DecidableEq, Repr

/-- The steps after which the Close frame has been sent. -/
def AsyncShutdownAt.closeSent : AsyncShutdownAt → Bool
  | .idle | .requested | .senderDropped | .closing => false
  | .closed | .writerDone | .dispatchDone | .sinkCleared | .returned => true

/-- One connection: its queue and its socket, whether the sink is in its slot, the writer task, the
dispatch task and the call that shuts the client down. -/
structure AsyncShutdown where
  queue : WriteQueue := {}
  socket : Socket := {}
  sink : Bool := true
  writer : WriterAt := .receiving
  dispatching : Bool := true
  shutdown : AsyncShutdownAt := .idle
  deriving DecidableEq, Repr

namespace AsyncShutdown

/-- `shutdown_requested`, which the first step of the call sets. -/
def shutdownRequested (conn : AsyncShutdown) : Bool := conn.shutdown ≠ .idle

/-- The writer task ends, and the receiver with it. -/
def stopWriter (conn : AsyncShutdown) : AsyncShutdown := { conn with writer := .stopped }

/-- A step of `run_writer_task`. -/
def runWriterTask (conn : AsyncShutdown) : Option AsyncShutdown :=
  match conn.writer with
  | .receiving =>
    match conn.queue.tryRecv with
    | .ok (frame, queue) => some { conn with queue, writer := .holding frame }
    | .error .empty => none
    | .error .disconnected => some conn.stopWriter
  | .holding frame =>
    if conn.shutdown = .closing then none
    else if conn.sink then some { conn with writer := .sending frame }
    else some conn.stopWriter
  | .sending frame =>
    match conn.socket.send (.text frame) with
    | some socket => some { conn with socket, writer := .receiving }
    | none => some conn.stopWriter
  | .stopped => none

/-- The sink's lock is free for `send_close_frame`. -/
def writerSending (conn : AsyncShutdown) : Bool :=
  match conn.writer with
  | .sending _ => true
  | _ => false

/-- A step of `shutdown_with_timeout`, whose timeouts do not run out. -/
def shutdownWithTimeout (conn : AsyncShutdown) : Option AsyncShutdown :=
  match conn.shutdown with
  | .idle => some { conn with shutdown := .requested }
  | .requested =>
    some { conn with shutdown := .senderDropped, queue := { conn.queue with slot := false } }
  | .senderDropped =>
    if conn.writerSending then none
    else some { conn with shutdown := if conn.sink then .closing else .closed }
  | .closing => some { conn with shutdown := .closed, socket := conn.socket.close }
  | .closed => if conn.writer = .stopped then some { conn with shutdown := .writerDone } else none
  | .writerDone => if conn.dispatching then none else some { conn with shutdown := .dispatchDone }
  | .dispatchDone =>
    if conn.writerSending then none else some { conn with shutdown := .sinkCleared, sink := false }
  | .sinkCleared => some { conn with shutdown := .returned }
  | .returned => none

end AsyncShutdown

/-- A step of one of the parties; the dispatch task ends once shutdown is requested. -/
inductive AsyncShutdownCall where
  | enqueue (call : WriteCall)
  | writer
  | dispatchEnds
  | shutdown
  deriving DecidableEq, Repr

def AsyncShutdown.step (conn : AsyncShutdown) : AsyncShutdownCall → Option AsyncShutdown
  | .enqueue call =>
    let alive := conn.writer ≠ .stopped
    (conn.queue.enqueueWrite conn.shutdownRequested alive call).map fun queue => { conn with queue }
  | .writer => conn.runWriterTask
  | .dispatchEnds => if conn.shutdownRequested then some { conn with dispatching := false } else none
  | .shutdown => conn.shutdownWithTimeout

/-- A connection just opened, in every order of its parties' steps. -/
def asyncShutdownRuns : StepMachine AsyncShutdown AsyncShutdownCall where
  start := fun conn => conn = {}
  step := AsyncShutdown.step

namespace AsyncShutdown

variable {conn next : AsyncShutdown}

/-! ### What is flushed -/

/-- The owed frames still in the queue or in the writer task's hands. -/
def unwritten (conn : AsyncShutdown) : List Outbound :=
  (conn.writer.held ++ conn.queue.frames).filter Outbound.owed

/-- Once the Close frame is sent or the shutdown has returned, the socket has written exactly the
owed frames, in order; it writes nothing after the Close. -/
def Flushed (conn : AsyncShutdown) : Prop :=
  conn.socket.closeSent ∨ conn.shutdown = .returned → conn.socket.owed = conn.queue.accepted

/-- The condition: the Close frame is not sent while an owed frame waits. -/
def ClosesDrained (conn : AsyncShutdown) (call : AsyncShutdownCall) : Prop :=
  call = .shutdown → conn.shutdown = .closing → conn.unwritten = []

instance (conn : AsyncShutdown) (call : AsyncShutdownCall) : Decidable (conn.ClosesDrained call) :=
  inferInstanceAs (Decidable (call = .shutdown → conn.shutdown = .closing → conn.unwritten = []))

/-! ### The pipe -/

/-- What holds in every run: the Close frame is sent exactly by the step that says so, and the sink
stays in its slot until then. -/
structure Inv (conn : AsyncShutdown) : Prop where
  sent : conn.socket.closeSent = conn.shutdown.closeSent
  installed : conn.shutdown.closeSent = false → conn.sink = true

theorem Inv.runWriterTask (inv : conn.Inv) (stepped : conn.runWriterTask = some next) :
    next.Inv := by
  unfold AsyncShutdown.runWriterTask at stepped
  split at stepped
  · split at stepped <;> cases stepped <;> exact ⟨inv.sent, inv.installed⟩
  · split at stepped
    · cases stepped
    · split at stepped <;> cases stepped <;> exact ⟨inv.sent, inv.installed⟩
  · split at stepped
    · rename_i socket sent
      cases stepped
      obtain ⟨before, after, -⟩ := Socket.owed_send sent
      exact ⟨after.trans (before.symm.trans inv.sent), inv.installed⟩
    · cases stepped
      exact ⟨inv.sent, inv.installed⟩
  · cases stepped

theorem Inv.shutdownWithTimeout (inv : conn.Inv) (stepped : conn.shutdownWithTimeout = some next) :
    next.Inv := by
  obtain ⟨sent, installed⟩ := inv
  unfold AsyncShutdown.shutdownWithTimeout at stepped
  split at stepped <;> rename_i phase <;> rw [phase] at sent installed
  · cases stepped
    exact ⟨sent, installed⟩
  · cases stepped
    exact ⟨sent, installed⟩
  · split at stepped
    · cases stepped
    · have inSlot : conn.sink = true := installed rfl
      rw [inSlot] at stepped
      cases stepped
      exact ⟨sent, fun _ => rfl⟩
  · cases stepped
    exact ⟨rfl, nofun⟩
  · split at stepped <;> cases stepped
    exact ⟨sent, nofun⟩
  · split at stepped <;> cases stepped
    exact ⟨sent, nofun⟩
  · split at stepped <;> cases stepped
    exact ⟨sent, nofun⟩
  · cases stepped
    exact ⟨sent, nofun⟩
  · cases stepped

theorem step_inv (inv : conn.Inv) {call : AsyncShutdownCall} (stepped : conn.step call = some next) :
    next.Inv := by
  cases call with
  | enqueue call =>
    obtain ⟨queue, -, rfl⟩ := Option.map_eq_some_iff.mp stepped
    exact ⟨inv.sent, inv.installed⟩
  | writer => exact inv.runWriterTask stepped
  | dispatchEnds =>
    simp only [step, Option.ite_none_right_eq_some, Option.some.injEq] at stepped
    obtain ⟨-, rfl⟩ := stepped
    exact ⟨inv.sent, inv.installed⟩
  | shutdown => exact inv.shutdownWithTimeout stepped

theorem reachable_inv {allowed : AsyncShutdown → AsyncShutdownCall → AsyncShutdown → Prop}
    (reached : asyncShutdownRuns.ReachableUnder allowed conn) : conn.Inv := by
  have base (first : AsyncShutdown) (starts : asyncShutdownRuns.start first) : first.Inv := by
    cases starts
    exact ⟨rfl, fun _ => rfl⟩
  exact reached.invariant base fun _ _ _ inv stepped _ => step_inv inv stepped

/-- Queue, writer task and socket as a pipe, closed by the Close frame. -/
def pipe (conn : AsyncShutdown) : Pipe Outbound :=
  carried conn.queue conn.writer.held conn.socket conn.socket.closeSent

section Carried

variable {permitted : Pipe Outbound → PipeStep Outbound → Pipe Outbound → Prop}

theorem carries_runWriterTask (free : ClosesOnly permitted) (inv : conn.Inv)
    (carries : (pipeRuns Outbound).ReachableUnder permitted conn.pipe)
    (stepped : conn.runWriterTask = some next) :
    (pipeRuns Outbound).ReachableUnder permitted next.pipe := by
  unfold pipe at carries
  unfold AsyncShutdown.runWriterTask at stepped
  split at stepped
  case h_1 receiving =>
    rw [receiving] at carries
    split at stepped <;> cases stepped
    · rename_i received
      exact Carries.recv carries received
    · exact carries
  case h_2 frame holding =>
    rw [holding] at carries
    split at stepped
    · cases stepped
    split at stepped <;> cases stepped
    · exact carries
    · rename_i cleared
      have sent : conn.socket.closeSent = true := by
        by_contra stillOpen
        rw [inv.sent, Bool.not_eq_true] at stillOpen
        exact cleared (inv.installed stillOpen)
      exact Carries.lose free carries sent
  case h_3 frame sending =>
    rw [sending] at carries
    split at stepped <;> cases stepped
    · rename_i socket sent
      obtain ⟨before, after, -⟩ := Socket.owed_send sent
      have written := Carries.write free carries before sent
      rw [before, ← after] at written
      exact written
    · rename_i refused
      exact Carries.lose free carries (Socket.closeSent_of_send_none refused)
  case h_4 => cases stepped

theorem carries_shutdownWithTimeout
    (carries : (pipeRuns Outbound).ReachableUnder permitted conn.pipe)
    (permits : conn.shutdown = .closing →
      permitted conn.pipe .close { conn.pipe with closed := true })
    (stepped : conn.shutdownWithTimeout = some next) :
    (pipeRuns Outbound).ReachableUnder permitted next.pipe := by
  unfold AsyncShutdown.shutdownWithTimeout at stepped
  split at stepped
  case h_1 | h_2 | h_8 =>
    cases stepped
    exact carries
  case h_3 | h_5 | h_6 | h_7 =>
    split at stepped <;> cases stepped
    exact carries
  case h_4 closing =>
    cases stepped
    exact Carries.close carries (permits closing)
  case h_9 => cases stepped

/-- **Queue, writer task and socket are a pipe**, which the Close frame closes. -/
theorem refines_pipe (free : ClosesOnly permitted)
    {allowed : AsyncShutdown → AsyncShutdownCall → AsyncShutdown → Prop}
    (permits : ∀ conn next, allowed conn .shutdown next → conn.shutdown = .closing →
      permitted conn.pipe .close { conn.pipe with closed := true }) :
    Refines asyncShutdownRuns allowed (pipeRuns Outbound) permitted pipe where
  start := by
    rintro conn rfl
    rfl
  step := by
    intro conn call next reached stepped allows carries
    have inv := reachable_inv reached
    cases call with
    | enqueue call =>
      obtain ⟨queue, queued, rfl⟩ := Option.map_eq_some_iff.mp stepped
      refine Carries.enqueueWrite free carries (fun early => ?_) queued
      have before : conn.shutdown = .idle := by
        simpa [shutdownRequested] using early
      rw [inv.sent, before]
      rfl
    | writer => exact carries_runWriterTask free inv carries stepped
    | dispatchEnds =>
      simp only [asyncShutdownRuns, step, Option.ite_none_right_eq_some,
        Option.some.injEq] at stepped
      obtain ⟨-, rfl⟩ := stepped
      exact carries
    | shutdown => exact carries_shutdownWithTimeout carries (permits conn next allows) stepped

end Carried

/-! ### When the shutdown flushes -/

/-- **The asynchronous shutdown flushes** in every run in which the Close frame is never sent while
an owed frame waits. -/
theorem flushed
    (reached : asyncShutdownRuns.ReachableUnder (fun conn call _ => conn.ClosesDrained call) conn) :
    conn.Flushed := by
  intro done
  have sent : conn.socket.closeSent = true := by
    rcases done with sent | returned
    · exact sent
    · rw [(reachable_inv reached).sent, returned]
      rfl
  have refines : Refines asyncShutdownRuns (fun conn call _ => conn.ClosesDrained call)
      (pipeRuns Outbound) (fun pipe step _ => pipe.ClosesEmpty step) pipe :=
    refines_pipe closesOnly_closesEmpty fun _ _ drained closing _ => drained rfl closing
  exact Pipe.delivered (refines.reachable reached) sent

/-- In any run, the step that sends the Close frame flushes exactly when no owed frame waits. -/
theorem closing_flushed_iff (reached : asyncShutdownRuns.Reachable conn)
    (closing : conn.shutdown = .closing) (stepped : conn.step .shutdown = some next) :
    next.Flushed ↔ conn.unwritten = [] := by
  have refines : Refines asyncShutdownRuns (fun _ _ _ => True) (pipeRuns Outbound)
      (fun _ _ _ => True) pipe :=
    refines_pipe (fun _ _ _ _ => trivial) fun _ _ _ _ => trivial
  have stillOpen : conn.socket.closeSent = false := by
    rw [(reachable_inv reached).sent, closing]
    rfl
  have written := Pipe.closed_iff (refines.reachable reached) stillOpen rfl
  simp only [step, shutdownWithTimeout, closing, Option.some.injEq] at stepped
  subst stepped
  exact ⟨fun flushed => written.mp (flushed (.inl rfl)), fun drained _ => written.mpr drained⟩

end AsyncShutdown

end FugleMarketdata
