/-
**The write queue.** What the two clients share on the way out: the bounded channel that
`enqueue_write` fills, and the socket its frames are written to.

Which frames a shutdown owes the wire is marked on the frames: those whose `enqueue_write` returned
`Ok` before the shutdown was called. No code reads the mark.

* `WriteQueue.enqueueWrite` — the steps of the calls that queue a frame;
* `WriteQueue.tryRecv` — the receiving end;
* `Socket.send` — a socket refuses frames once its Close frame is sent, so what it has written came
  before the Close;
* `carried` — queue and socket as a pipe of the owed frames, with one lemma per thing that happens.
-/

import FugleMarketdata.Lib.Pipe
import Mathlib.Tactic.Common

namespace FugleMarketdata

open StepMachines StepMachine

/-! ### The queue -/

/-- A text frame on its way out. -/
structure Outbound where
  json : String
  owed : Bool
  deriving DecidableEq, Repr

/-- Outbound queue capacity, of either client. -/
def writeQueueCapacity : Nat := 64

/-- The channel of one connection: whether the client's slot still holds its sender, how many calls
under way hold a clone of it, and the frames in it. `accepted` are the owed frames, in the order in
which they were queued. -/
structure WriteQueue where
  slot : Bool := true
  senders : Nat := 0
  frames : List Outbound := []
  accepted : List Outbound := []
  deriving DecidableEq, Repr

/-- A step of a call that queues a frame: a caller's `enqueue_write`, or the client itself, which
queues its probes and cancels the same way. -/
inductive WriteCall where
  | cloneSender
  | send (json : String) (byCaller : Bool)
  | refused
  deriving DecidableEq, Repr

/-- `enqueue_write`: the sender is cloned out of its slot first; the send waits for room and fails
once the receiver is gone. With the slot empty the call fails at once, which changes nothing.
`requested` is whether the shutdown has been called, `alive` whether the receiver is left. -/
def WriteQueue.enqueueWrite (queue : WriteQueue) (requested alive : Bool) :
    WriteCall → Option WriteQueue
  | .cloneSender => if queue.slot then some { queue with senders := queue.senders + 1 } else none
  | .send json byCaller =>
    let frame : Outbound := { json, owed := byCaller && !requested }
    if 0 < queue.senders ∧ alive ∧ queue.frames.length < writeQueueCapacity then
      some { queue with
        senders := queue.senders - 1
        frames := queue.frames ++ [frame]
        accepted := queue.accepted ++ [frame].filter Outbound.owed }
    else none
  | .refused =>
    if 0 < queue.senders ∧ !alive then some { queue with senders := queue.senders - 1 }
    else none

theorem WriteQueue.enqueueWrite_slot {queue next : WriteQueue} {requested alive : Bool}
    {call : WriteCall} (stepped : queue.enqueueWrite requested alive call = some next) :
    next.slot = queue.slot := by
  cases call <;> simp only [enqueueWrite, Option.ite_none_right_eq_some, Option.some.injEq] at stepped
    <;> obtain ⟨-, rfl⟩ := stepped <;> rfl

/-- Why the receiving end got no frame. -/
inductive TryRecvError where
  | empty
  | disconnected
  deriving DecidableEq, Repr

/-- The receiving end: the next frame; `empty` while a sender is left, `disconnected` once none is. -/
def WriteQueue.tryRecv (queue : WriteQueue) : Except TryRecvError (Outbound × WriteQueue) :=
  match queue.frames with
  | frame :: rest => .ok (frame, { queue with frames := rest })
  | [] => .error (if queue.slot ∨ 0 < queue.senders then .empty else .disconnected)

theorem WriteQueue.tryRecv_ok {queue rest : WriteQueue} {frame : Outbound}
    (received : queue.tryRecv = .ok (frame, rest)) :
    queue.frames = frame :: rest.frames ∧ rest.accepted = queue.accepted ∧
      rest.slot = queue.slot := by
  unfold tryRecv at received
  split at received
  · rename_i held
    cases received
    exact ⟨held, rfl, rfl⟩
  · cases received

theorem WriteQueue.tryRecv_error {queue : WriteQueue} {error : TryRecvError}
    (failed : queue.tryRecv = .error error) :
    queue.frames = [] ∧ (error = .disconnected → queue.slot = false) := by
  unfold tryRecv at failed
  split at failed
  · cases failed
  · rename_i nothing
    refine ⟨nothing, ?_⟩
    rintro rfl
    simp only [Except.error.injEq] at failed
    split at failed
    · cases failed
    · rename_i alone
      simpa using (not_or.mp alone).1

/-! ### The socket -/

/-- A frame on the wire other than the Close. -/
inductive WsFrame where
  | text (frame : Outbound)
  | pong (payload : List UInt8)
  deriving DecidableEq, Repr

/-- The write half: the frames written, and whether the Close frame followed them. -/
structure Socket where
  written : List WsFrame := []
  closeSent : Bool := false
  deriving DecidableEq, Repr

/-- A frame sent after the Close is refused. -/
def Socket.send (socket : Socket) (frame : WsFrame) : Option Socket :=
  if socket.closeSent then none else some { socket with written := socket.written ++ [frame] }

def Socket.close (socket : Socket) : Socket := { socket with closeSent := true }

theorem Socket.close_of_closeSent {socket : Socket} (sent : socket.closeSent = true) :
    socket.close = socket := by
  unfold close
  rw [← sent]

/-- The owed frame among the frames on the wire. -/
def WsFrame.owed? : WsFrame → Option Outbound
  | .text frame => if frame.owed then some frame else none
  | .pong _ => none

/-- The owed frames written, in order. -/
def Socket.owed (socket : Socket) : List Outbound := socket.written.filterMap WsFrame.owed?

theorem Socket.owed_send {socket next : Socket} {frame : WsFrame}
    (sent : socket.send frame = some next) :
    socket.closeSent = false ∧ next.closeSent = false ∧
      next.owed = socket.owed ++ frame.owed?.toList := by
  simp only [send, Option.ite_none_left_eq_some, Bool.not_eq_true, Option.some.injEq] at sent
  obtain ⟨before, rfl⟩ := sent
  refine ⟨before, before, ?_⟩
  unfold owed
  rw [List.filterMap_append]
  cases found : frame.owed? <;> simp [found]

theorem Socket.closeSent_of_send_none {socket : Socket} {frame : WsFrame}
    (failed : socket.send frame = none) : socket.closeSent = true := by
  by_contra before
  rw [send, if_neg before] at failed
  cases failed

/-! ### Queue and socket as a pipe -/

/-- The pipe of the owed frames: `held` is what a writer took from the queue and has not written,
and nothing is written any more once it is `closed`. -/
def carried (queue : WriteQueue) (held : List Outbound) (socket : Socket) (closed : Bool) :
    Pipe Outbound where
  accepted := queue.accepted
  inside := (held ++ queue.frames).filter Outbound.owed
  written := socket.owed
  closed := closed

/-- Queue and socket have come about as a pipe does, along steps that are all `permitted`. -/
abbrev Carries (permitted : Pipe Outbound → PipeStep Outbound → Pipe Outbound → Prop)
    (queue : WriteQueue) (held : List Outbound) (socket : Socket) (closed : Bool) : Prop :=
  (pipeRuns Outbound).ReachableUnder permitted (carried queue held socket closed)

/-- Only closing the pipe is ever refused. -/
def ClosesOnly (permitted : Pipe Outbound → PipeStep Outbound → Pipe Outbound → Prop) : Prop :=
  ∀ pipe call after, call ≠ .close → permitted pipe call after

theorem closesOnly_closesEmpty : ClosesOnly fun pipe call _ => pipe.ClosesEmpty call :=
  fun _ _ _ other same => absurd same other

namespace Carries

variable {permitted : Pipe Outbound → PipeStep Outbound → Pipe Outbound → Prop}
  {queue next : WriteQueue} {held : List Outbound} {socket : Socket} {closed : Bool}
  {frame : Outbound}

/-- The same pipe, the same runs. -/
theorem of_eq {held' : List Outbound} {after : Socket}
    (carries : Carries permitted queue held socket closed)
    (same : carried next held' after closed = carried queue held socket closed) :
    Carries permitted next held' after closed := by
  unfold Carries
  rw [same]
  exact carries

/-- A shutdown called is the only thing that closes the pipe, and what is queued after the call is
not owed. -/
theorem enqueueWrite (free : ClosesOnly permitted) {requested alive : Bool} {call : WriteCall}
    (carries : Carries permitted queue held socket closed)
    (before : requested = false → closed = false)
    (stepped : queue.enqueueWrite requested alive call = some next) :
    Carries permitted next held socket closed := by
  cases call with
  | cloneSender =>
    simp only [WriteQueue.enqueueWrite, Option.ite_none_right_eq_some, Option.some.injEq] at stepped
    obtain ⟨-, rfl⟩ := stepped
    exact carries
  | refused =>
    simp only [WriteQueue.enqueueWrite, Option.ite_none_right_eq_some, Option.some.injEq] at stepped
    obtain ⟨-, rfl⟩ := stepped
    exact carries
  | send json byCaller =>
    simp only [WriteQueue.enqueueWrite, Option.ite_none_right_eq_some, Option.some.injEq] at stepped
    obtain ⟨-, rfl⟩ := stepped
    by_cases owed : (byCaller && !requested) = true
    · have early : requested = false := by
        rw [Bool.and_eq_true, Bool.not_eq_true'] at owed
        exact owed.2
      refine carries.step (a := .accept { json, owed := byCaller && !requested }) ?_
        (free _ _ _ nofun)
      simp [pipeRuns, Pipe.step, carried, before early, owed, List.filter_append]
    · refine carries.of_eq ?_
      simp [carried, owed, List.filter_append]

/-- A received frame is still inside, in the receiver's hands. -/
theorem recv (carries : Carries permitted queue [] socket closed)
    (received : queue.tryRecv = .ok (frame, next)) :
    Carries permitted next [frame] socket closed := by
  obtain ⟨held, accepted, -⟩ := WriteQueue.tryRecv_ok received
  refine carries.of_eq ?_
  unfold carried
  rw [held, accepted, List.nil_append, List.singleton_append]

/-- The held frame is written. -/
theorem write (free : ClosesOnly permitted) {after : Socket}
    (carries : Carries permitted queue [frame] socket closed) (stillOpen : closed = false)
    (sent : socket.send (.text frame) = some after) : Carries permitted queue [] after closed := by
  obtain ⟨-, -, owed⟩ := Socket.owed_send sent
  by_cases mark : frame.owed = true
  · refine carries.step (a := .write) ?_ (free _ _ _ nofun)
    simp [pipeRuns, Pipe.step, carried, stillOpen, mark, owed, WsFrame.owed?]
  · refine carries.of_eq ?_
    simp [carried, mark, owed, WsFrame.owed?]

/-- The held frame is lost: nothing is written any more. -/
theorem lose (free : ClosesOnly permitted) (carries : Carries permitted queue [frame] socket closed)
    (done : closed = true) : Carries permitted queue [] socket closed := by
  by_cases mark : frame.owed = true
  · refine carries.step (a := .lose) ?_ (free _ _ _ nofun)
    simp [pipeRuns, Pipe.step, carried, done, mark]
  · refine carries.of_eq ?_
    simp [carried, mark]

/-- A frame that is not owed is written past the queue. -/
theorem pass {after : Socket} {other : WsFrame}
    (carries : Carries permitted queue held socket closed) (unowed : other.owed? = none)
    (sent : socket.send other = some after) : Carries permitted queue held after closed := by
  obtain ⟨-, -, owed⟩ := Socket.owed_send sent
  refine carries.of_eq ?_
  unfold carried
  rw [owed, unowed, Option.toList_none, List.append_nil]

/-- The connection is closed. -/
theorem close (carries : Carries permitted queue held socket closed)
    (permits : permitted (carried queue held socket closed) .close (carried queue held socket true)) :
    Carries permitted queue held socket true :=
  carries.step (a := .close) rfl permits

end Carries

end FugleMarketdata
