/-
**The synchronous client's shutdown.** The owner thread alone writes to the socket. Once it sees
`should_stop` at the top of its loop it drains the queue and then sends the Close frame; a connection
the liveness check declares dead before that is given up without either.

* `SyncShutdown.ownerLoop`, `SyncShutdown.shutdownWithTimeout` — the owner thread and the caller;
* `syncShutdownRuns` — both and the calls that queue frames, in every order, on a connection that is
  up: the peer does not close, nothing fails but a write after the Close, and the timeout does not
  run out;
* `SyncShutdown.refines_pipe` — queue and socket are a pipe, closed by the end of the owner loop;
* `SyncShutdown.flushed` — the frames queued before the call are all written, unless the connection
  is declared dead with one of them still in the queue.
-/

import FugleMarketdata.Websocket.WriteQueue

namespace FugleMarketdata

open StepMachines StepMachine

/-! ### The parties -/

/-- The frame of a health-check probe. -/
def probeFrame : Outbound where
  json := "\x7b\"event\":\"ping\",\"data\":\x7b\"state\":\"fugle-sdk:probe\"\x7d\x7d"
  owed := false

/-- Where the owner loop is: the check at its top, the read, the liveness check, the drain; after
`should_stop` the drain before the Close, and the wait for the peer's Close. -/
inductive OwnerAt where
  | loopTop
  | reading
  | checking
  | draining
  | stopping
  | awaitingAck
  | exited
  deriving DecidableEq, Repr

/-- The owner loop is past the check of `should_stop` for good. -/
def OwnerAt.stops : OwnerAt → Bool
  | .loopTop | .reading | .checking | .draining => false
  | .stopping | .awaitingAck | .exited => true

/-- The owner loop writes nothing more. -/
def OwnerAt.silent : OwnerAt → Bool
  | .loopTop | .reading | .checking | .draining | .stopping => false
  | .awaitingAck | .exited => true

theorem OwnerAt.silent_of_stops {owner : OwnerAt} (going : owner.stops = false) :
    owner.silent = false := by
  cases owner <;> first | rfl | cases going

/-- What the owner loop meets: nothing, a frame read with the unsubscribe frames it calls for, a
`Ping`, a probe that is due, or a connection past its liveness deadline. -/
inductive OwnerInput where
  | go
  | received (cancels : List String)
  | ping (payload : List UInt8)
  | probe
  | dead
  deriving DecidableEq, Repr

/-- The last step of `shutdown_with_timeout` that is done. -/
inductive SyncShutdownAt where
  | idle
  | requested
  | senderDropped
  | signaled
  | joined
  | returned
  deriving DecidableEq, Repr

/-- The steps after which the owner thread has exited. -/
def SyncShutdownAt.afterExit : SyncShutdownAt → Bool
  | .idle | .requested | .senderDropped => false
  | .signaled | .joined | .returned => true

/-- One connection: its queue and its socket, the unsubscribe frames written ahead of the queue, the
owner thread and the call that shuts the client down. -/
structure SyncShutdown where
  queue : WriteQueue := {}
  socket : Socket := {}
  cancelFrames : List String := []
  owner : OwnerAt := .loopTop
  shutdown : SyncShutdownAt := .idle
  deriving DecidableEq, Repr

namespace SyncShutdown

/-- `should_stop`, which the first step of the call sets. -/
def shouldStop (conn : SyncShutdown) : Bool := conn.shutdown ≠ .idle

/-- The owner loop returns, and drops the receiver. -/
def exit (conn : SyncShutdown) : SyncShutdown := { conn with owner := .exited }

def sendClose (conn : SyncShutdown) : SyncShutdown := { conn with socket := conn.socket.close }

/-- A step of `owner_loop`. -/
def ownerLoop (conn : SyncShutdown) (input : OwnerInput) : Option SyncShutdown :=
  match conn.owner, input with
  | .loopTop, .go => some { conn with owner := if conn.shouldStop then .stopping else .reading }
  | .reading, .received cancels =>
    some { conn with owner := .checking, cancelFrames := conn.cancelFrames ++ cancels }
  | .reading, .ping payload =>
    let socket := (conn.socket.send (.pong payload)).getD conn.socket
    some { conn with owner := .checking, socket }
  | .checking, .go => some { conn with owner := .draining }
  | .checking, .probe =>
    match conn.socket.send (.text probeFrame) with
    | some socket => some { conn with socket }
    | none => some conn.exit
  | .checking, .dead => if conn.shouldStop then some conn.exit else none
  | .draining, .go =>
    match conn.cancelFrames with
    | json :: cancelFrames =>
      match conn.socket.send (.text { json, owed := false }) with
      | some socket => some { conn with socket, cancelFrames }
      | none => some conn.exit
    | [] =>
      match conn.queue.tryRecv with
      | .ok (frame, queue) =>
        match conn.socket.send (.text frame) with
        | some socket => some { conn with socket, queue }
        | none => some { conn with queue }.exit
      | .error .empty => some { conn with owner := .loopTop }
      | .error .disconnected => some conn.sendClose.exit
  | .stopping, .go =>
    match conn.queue.tryRecv with
    | .ok (frame, queue) =>
      match conn.socket.send (.text frame) with
      | some socket => some { conn with socket, queue }
      | none => some { conn with queue, owner := .awaitingAck }.sendClose
    | .error _ => some { conn with owner := .awaitingAck }.sendClose
  | .awaitingAck, .go => some conn.exit
  | _, _ => none

/-- A step of `shutdown_with_timeout`, whose wait for the exit signal does not time out. -/
def shutdownWithTimeout (conn : SyncShutdown) : Option SyncShutdown :=
  match conn.shutdown with
  | .idle => some { conn with shutdown := .requested }
  | .requested =>
    some { conn with shutdown := .senderDropped, queue := { conn.queue with slot := false } }
  | .senderDropped => if conn.owner = .exited then some { conn with shutdown := .signaled } else none
  | .signaled => some { conn with shutdown := .joined }
  | .joined => some { conn with shutdown := .returned }
  | .returned => none

end SyncShutdown

/-- A step of one of the parties. -/
inductive SyncShutdownCall where
  | enqueue (call : WriteCall)
  | owner (input : OwnerInput)
  | shutdown
  deriving DecidableEq, Repr

def SyncShutdown.step (conn : SyncShutdown) : SyncShutdownCall → Option SyncShutdown
  | .enqueue call =>
    let alive := conn.owner ≠ .exited
    (conn.queue.enqueueWrite conn.shouldStop alive call).map fun queue => { conn with queue }
  | .owner input => conn.ownerLoop input
  | .shutdown => conn.shutdownWithTimeout

/-- A connection just opened, in every order of its parties' steps. -/
def syncShutdownRuns : StepMachine SyncShutdown SyncShutdownCall where
  start := fun conn => conn = {}
  step := SyncShutdown.step

namespace SyncShutdown

variable {conn next : SyncShutdown}

/-! ### What is flushed -/

/-- The owed frames still in the queue. -/
def unwritten (conn : SyncShutdown) : List Outbound := conn.queue.frames.filter Outbound.owed

/-- Once the Close frame is sent or the shutdown has returned, the socket has written exactly the
owed frames, in order; it writes nothing after the Close. -/
def Flushed (conn : SyncShutdown) : Prop :=
  conn.socket.closeSent ∨ conn.shutdown = .returned → conn.socket.owed = conn.queue.accepted

/-- The condition: the liveness check does not give the connection up while an owed frame waits. -/
def KeptAlive (conn : SyncShutdown) (call : SyncShutdownCall) : Prop :=
  call = .owner .dead → conn.unwritten = []

instance (conn : SyncShutdown) (call : SyncShutdownCall) : Decidable (conn.KeptAlive call) :=
  inferInstanceAs (Decidable (call = .owner .dead → conn.unwritten = []))

/-! ### What a step of the owner loop does -/

/-- One step of the owner loop, by what becomes of queue and socket. -/
inductive OwnerEffect (conn : SyncShutdown) (input : OwnerInput) : SyncShutdown → Prop
  /-- It goes on; it stops where it stopped already, or sees `should_stop`. -/
  | goes (owner : OwnerAt) (cancelFrames : List String) :
      owner.silent = conn.owner.silent →
      (owner.stops = true → conn.owner.stops = true ∨ conn.shouldStop = true) →
      OwnerEffect conn input { conn with owner, cancelFrames }
  /-- It writes a frame of its own. -/
  | passes (frame : WsFrame) (socket : Socket) (owner : OwnerAt) (cancelFrames : List String) :
      frame.owed? = none → conn.socket.send frame = some socket → owner.silent = conn.owner.silent →
      owner.stops = conn.owner.stops → OwnerEffect conn input { conn with socket, owner, cancelFrames }
  /-- It writes the next frame of the queue. -/
  | writes (frame : Outbound) (queue : WriteQueue) (socket : Socket) :
      conn.owner.silent = false → conn.queue.tryRecv = .ok (frame, queue) →
      conn.socket.send (.text frame) = some socket → OwnerEffect conn input { conn with queue, socket }
  /-- A write after the Close fails. -/
  | fails (owner : OwnerAt) : conn.socket.closeSent = true →
      OwnerEffect conn input { conn with owner }
  /-- A frame taken from the queue after the Close is lost. -/
  | drops (frame : Outbound) (queue : WriteQueue) (owner : OwnerAt) :
      conn.socket.closeSent = true → conn.queue.tryRecv = .ok (frame, queue) →
      OwnerEffect conn input { conn with queue, owner }
  /-- With the queue empty it sends the Close frame. -/
  | closes (owner : OwnerAt) :
      conn.queue.frames = [] → conn.owner.stops = true ∨ conn.queue.slot = false →
      OwnerEffect conn input { conn with owner, socket := conn.socket.close }
  /-- It gives a silent connection up. -/
  | givesUp : input = .dead → conn.shouldStop = true → OwnerEffect conn input conn.exit

theorem ownerLoop_effect {input : OwnerInput} (stepped : conn.ownerLoop input = some next) :
    OwnerEffect conn input next := by
  unfold ownerLoop at stepped
  split at stepped
  case h_1 top =>
    cases stepped
    cases stops : conn.shouldStop with
    | true => exact .goes .stopping conn.cancelFrames (by rw [top]; rfl) fun _ => .inr stops
    | false => exact .goes .reading conn.cancelFrames (by rw [top]; rfl) nofun
  case h_2 cancels reading =>
    cases stepped
    exact .goes .checking _ (by rw [reading]; rfl) nofun
  case h_3 payload reading =>
    cases stepped
    cases sent : conn.socket.send (.pong payload) with
    | none => exact .goes .checking conn.cancelFrames (by rw [reading]; rfl) nofun
    | some socket =>
      exact .passes (.pong payload) socket .checking conn.cancelFrames rfl sent (by rw [reading]; rfl)
        (by rw [reading]; rfl)
  case h_4 checking =>
    cases stepped
    exact .goes .draining conn.cancelFrames (by rw [checking]; rfl) nofun
  case h_5 checking =>
    split at stepped <;> cases stepped
    · rename_i socket sent
      exact .passes (.text probeFrame) socket conn.owner conn.cancelFrames rfl sent rfl rfl
    · rename_i refused
      exact .fails .exited (Socket.closeSent_of_send_none refused)
  case h_6 checking =>
    simp only [Option.ite_none_right_eq_some, Option.some.injEq] at stepped
    obtain ⟨stops, rfl⟩ := stepped
    exact .givesUp rfl stops
  case h_7 draining =>
    split at stepped
    · split at stepped <;> cases stepped
      · rename_i socket sent
        exact .passes _ socket conn.owner _ rfl sent rfl rfl
      · rename_i refused
        exact .fails .exited (Socket.closeSent_of_send_none refused)
    split at stepped
    · rename_i received
      split at stepped <;> cases stepped
      · rename_i socket sent
        exact .writes _ _ socket (by rw [draining]; rfl) received sent
      · rename_i refused
        exact .drops _ _ .exited (Socket.closeSent_of_send_none refused) received
    · cases stepped
      exact .goes .loopTop conn.cancelFrames (by rw [draining]; rfl) nofun
    · rename_i alone
      cases stepped
      obtain ⟨nothing, dropped⟩ := WriteQueue.tryRecv_error alone
      exact .closes .exited nothing (.inr (dropped rfl))
  case h_8 stopping =>
    split at stepped
    · rename_i received
      split at stepped <;> cases stepped
      · rename_i socket sent
        exact .writes _ _ socket (by rw [stopping]; rfl) received sent
      · rename_i refused
        have sent := Socket.closeSent_of_send_none refused
        unfold sendClose
        rw [Socket.close_of_closeSent sent]
        exact .drops _ _ .awaitingAck sent received
    · rename_i alone
      cases stepped
      exact .closes .awaitingAck (WriteQueue.tryRecv_error alone).1 (.inl (by rw [stopping]; rfl))
  case h_9 awaiting =>
    cases stepped
    exact .goes .exited conn.cancelFrames (by rw [awaiting]; rfl) fun _ => .inl (by rw [awaiting]; rfl)
  case h_10 => cases stepped

theorem ownerLoop_moves {input : OwnerInput} (stepped : conn.ownerLoop input = some next) :
    conn.owner ≠ .exited := by
  intro exited
  simp [ownerLoop, exited] at stepped

theorem OwnerEffect.shutdown {input : OwnerInput} (effect : OwnerEffect conn input next) :
    next.shutdown = conn.shutdown := by
  cases effect <;> rfl

/-! ### Every run -/

/-- What holds in every run: nothing is stopped before the call, and the call goes on only once the
owner thread has exited. -/
structure Inv (conn : SyncShutdown) : Prop where
  running : conn.shouldStop = false →
    conn.queue.slot = true ∧ conn.socket.closeSent = false ∧ conn.owner.stops = false
  exited : conn.shutdown.afterExit = true → conn.owner = .exited

theorem Inv.ownerLoop (inv : conn.Inv) {input : OwnerInput}
    (stepped : conn.ownerLoop input = some next) : next.Inv := by
  have effect := ownerLoop_effect stepped
  have same := effect.shutdown
  refine ⟨fun runs => ?_, fun done => ?_⟩
  · have before : conn.shouldStop = false := by
      unfold shouldStop at runs
      rwa [same] at runs
    obtain ⟨slot, unsent, going⟩ := inv.running before
    cases effect with
    | goes owner cancelFrames silent stops =>
      refine ⟨slot, unsent, ?_⟩
      show owner.stops = false
      by_contra stopped
      rcases stops (Bool.not_eq_false _ ▸ stopped) with was | asked
      · rw [going] at was
        cases was
      · rw [before] at asked
        cases asked
    | passes frame socket owner cancelFrames unowed sent silent stops =>
      exact ⟨slot, (Socket.owed_send sent).2.1, stops.trans going⟩
    | writes frame queue socket writing received sent =>
      exact ⟨(WriteQueue.tryRecv_ok received).2.2.trans slot, (Socket.owed_send sent).2.1, going⟩
    | fails owner sent =>
      rw [unsent] at sent
      cases sent
    | drops frame queue owner sent received =>
      rw [unsent] at sent
      cases sent
    | closes owner nothing reason =>
      rw [going, slot] at reason
      rcases reason with stopped | dropped
      · cases stopped
      · cases dropped
    | givesUp dead asked =>
      rw [before] at asked
      cases asked
  · rw [same] at done
    exact absurd (inv.exited done) (ownerLoop_moves stepped)

theorem Inv.shutdownWithTimeout (inv : conn.Inv) (stepped : conn.shutdownWithTimeout = some next) :
    next.Inv := by
  unfold SyncShutdown.shutdownWithTimeout at stepped
  split at stepped
  case h_1 | h_2 =>
    cases stepped
    exact ⟨nofun, nofun⟩
  case h_3 =>
    simp only [Option.ite_none_right_eq_some, Option.some.injEq] at stepped
    obtain ⟨exited, rfl⟩ := stepped
    exact ⟨nofun, fun _ => exited⟩
  case h_4 phase =>
    cases stepped
    exact ⟨nofun, fun _ => inv.exited (by rw [phase]; rfl)⟩
  case h_5 phase =>
    cases stepped
    exact ⟨nofun, fun _ => inv.exited (by rw [phase]; rfl)⟩
  case h_6 => cases stepped

theorem step_inv (inv : conn.Inv) {call : SyncShutdownCall} (stepped : conn.step call = some next) :
    next.Inv := by
  cases call with
  | enqueue call =>
    obtain ⟨queue, queued, rfl⟩ := Option.map_eq_some_iff.mp stepped
    refine ⟨fun runs => ?_, inv.exited⟩
    obtain ⟨slot, unsent, going⟩ := inv.running runs
    exact ⟨(WriteQueue.enqueueWrite_slot queued).trans slot, unsent, going⟩
  | owner input => exact inv.ownerLoop stepped
  | shutdown => exact inv.shutdownWithTimeout stepped

theorem reachable_inv {allowed : SyncShutdown → SyncShutdownCall → SyncShutdown → Prop}
    (reached : syncShutdownRuns.ReachableUnder allowed conn) : conn.Inv := by
  have base (first : SyncShutdown) (starts : syncShutdownRuns.start first) : first.Inv := by
    cases starts
    exact ⟨fun _ => ⟨rfl, rfl, rfl⟩, nofun⟩
  exact reached.invariant base fun _ _ _ inv stepped _ => step_inv inv stepped

/-! ### The pipe -/

/-- The connection has sent its Close frame or was given up. -/
def ended (conn : SyncShutdown) : Bool := conn.socket.closeSent || conn.owner.silent

/-- Queue and socket as a pipe, closed by the Close frame or by giving the connection up. -/
def pipe (conn : SyncShutdown) : Pipe Outbound := carried conn.queue [] conn.socket conn.ended

theorem ended_of_closeSent (sent : conn.socket.closeSent = true) : conn.ended = true := by
  unfold ended
  rw [sent, Bool.true_or]

theorem ended_of_send {frame : WsFrame} {socket : Socket} (sent : conn.socket.send frame = some socket)
    {owner : OwnerAt} (silent : owner.silent = conn.owner.silent) :
    (socket.closeSent || owner.silent) = conn.ended := by
  obtain ⟨before, after, -⟩ := Socket.owed_send sent
  unfold ended
  rw [before, after, silent]

theorem carries_ownerLoop {input : OwnerInput}
    (carries : Carries (fun pipe step _ => pipe.ClosesEmpty step) conn.queue [] conn.socket conn.ended)
    (alive : input = .dead → conn.unwritten = []) (stepped : conn.ownerLoop input = some next) :
    Carries (fun pipe step _ => pipe.ClosesEmpty step) next.queue [] next.socket next.ended := by
  cases ownerLoop_effect stepped with
  | goes owner cancelFrames silent stops =>
    unfold ended
    rw [silent]
    exact carries
  | passes frame socket owner cancelFrames unowed sent silent stops =>
    have passed := carries.pass unowed sent
    rw [← ended_of_send sent silent] at passed
    exact passed
  | writes frame queue socket writing received sent =>
    have stillOpen : conn.ended = false := by
      unfold ended
      rw [(Socket.owed_send sent).1, writing, Bool.or_false]
    have written := (carries.recv received).write closesOnly_closesEmpty stillOpen sent
    rw [← ended_of_send sent rfl] at written
    exact written
  | fails owner sent =>
    have still : ended { conn with owner } = true := ended_of_closeSent sent
    rw [ended_of_closeSent sent, ← still] at carries
    exact carries
  | drops frame queue owner sent received =>
    have lost := (carries.recv received).lose closesOnly_closesEmpty (ended_of_closeSent sent)
    have still : ended { conn with queue, owner } = true := ended_of_closeSent sent
    rw [ended_of_closeSent sent, ← still] at lost
    exact lost
  | closes owner nothing reason =>
    refine carries.close fun _ => ?_
    show (([] : List Outbound) ++ conn.queue.frames).filter Outbound.owed = []
    rw [nothing]
    rfl
  | givesUp dead asked =>
    have given : conn.exit.ended = true := Bool.or_true _
    rw [given]
    exact carries.close fun _ => alive dead

/-- **Queue and socket are a pipe**, closed only when it is empty where the liveness check does not
give the connection up while an owed frame waits. -/
theorem refines_pipe :
    Refines syncShutdownRuns (fun conn call _ => conn.KeptAlive call) (pipeRuns Outbound)
      (fun pipe step _ => pipe.ClosesEmpty step) pipe where
  start := by
    rintro conn rfl
    rfl
  step := by
    intro conn call next reached stepped alive carries
    cases call with
    | enqueue call =>
      obtain ⟨queue, queued, rfl⟩ := Option.map_eq_some_iff.mp stepped
      refine Carries.enqueueWrite closesOnly_closesEmpty carries (fun runs => ?_) queued
      obtain ⟨-, unsent, going⟩ := (reachable_inv reached).running runs
      unfold ended
      rw [unsent, OwnerAt.silent_of_stops going]
      rfl
    | owner input =>
      exact carries_ownerLoop carries (fun dead => alive (congrArg SyncShutdownCall.owner dead)) stepped
    | shutdown =>
      simp only [syncShutdownRuns, step, shutdownWithTimeout] at stepped
      split at stepped
      case h_3 =>
        split at stepped <;> cases stepped
        exact carries
      case h_6 => cases stepped
      all_goals
        cases stepped
        exact carries

/-! ### When the shutdown flushes -/

/-- **The synchronous shutdown flushes** in every run in which the liveness check does not give the
connection up while an owed frame waits. -/
theorem flushed
    (reached : syncShutdownRuns.ReachableUnder (fun conn call _ => conn.KeptAlive call) conn) :
    conn.Flushed := by
  intro done
  have ended : conn.ended = true := by
    rcases done with sent | returned
    · exact ended_of_closeSent sent
    · have exited : conn.owner = .exited := (reachable_inv reached).exited (by rw [returned]; rfl)
      unfold SyncShutdown.ended
      rw [exited]
      exact Bool.or_true _
  exact Pipe.delivered (refines_pipe.reachable reached) ended

end SyncShutdown

end FugleMarketdata
