/-
**The waits of the async dispatch loop.** `dispatch_messages`, `send_cancels` and `send_probe` of
`core/src/websocket/aio/dispatch.rs`, cut where the loop waits, beside the writer task, the callers that
share the write queue, and a clock.

* `DispatchLoop.turn` — one turn of the loop; it is not enabled where the loop waits;
* `DispatchLoop.step` — a turn, or what happens around the loop: a frame arrives, time passes, a slot of
  the write queue is filled, freed or promised to a waiting send, the writer fails or stops;
* `liveness_unhindered` — as long as the queue has room for the cancels a frame leaves, every wait has a
  deadline, and a connection on which nothing more arrives is declared dead;
* `fullQueue_waitsForever` — a full queue and an ack that leaves a cancel stop the clock.
-/

import FugleMarketdata.Websocket.Liveness
import FugleMarketdata.Websocket.ReadLoops
import FugleMarketdata.Websocket.WriteQueue

namespace FugleMarketdata

open StepMachines StepMachine

/-! ### The write path -/

/-- A failed write, handed from the writer task to its dispatch loop. -/
structure WriteFailure where
  error : ErrorInfo
  text : String

/-- A frame in the write queue: a caller's, or one of the loop's own. -/
inductive WriteFrame where
  | json (text : String)
  | cancels (request : WebSocketRequest)
  | probe

/-- The write path of the connection. A send that finds the queue full waits; a slot that comes free may
be promised to it, and is then no longer free: `promised` to callers, `held` for the loop itself.
`report` is what the writer left for the loop, with a failed write or without. -/
structure WritePath where
  frames : List WriteFrame := []
  promised : Nat := 0
  held : Nat := 0
  slot : Bool := true
  receiver : Bool := true
  report : Option (Option WriteFailure) := none

namespace WritePath

def hasRoom (path : WritePath) : Bool :=
  path.frames.length + path.promised + path.held < writeQueueCapacity

/-- `try_send`. -/
inductive TrySend where
  | sent (path : WritePath)
  | full
  | closed

def trySend (path : WritePath) (frame : WriteFrame) : TrySend :=
  if !path.receiver then .closed
  else if path.hasRoom then .sent { path with frames := path.frames ++ [frame] }
  else .full

/-- A waiting send of the loop puts its frame in the slot promised to it. -/
def putHeld (path : WritePath) (frame : WriteFrame) : WritePath :=
  { path with frames := path.frames ++ [frame], held := path.held - 1 }

/-- A waiting send of the loop is dropped, with the slot promised to it, if any. -/
def drop (path : WritePath) (send : Option Bool) : WritePath :=
  if send = some true then { path with held := path.held - 1 } else path

end WritePath

/-! ### The loop -/

/-- Most frames read after a failed write before it is reported. -/
def WRITE_FAILURE_DRAIN_LIMIT : Nat := 256

/-- What ended one wait of the dispatch loop. -/
inductive Next where
  | frame (inbound : Inbound)
  | deadline
  | probeQueued
  | writeFailed (failure : WriteFailure)
  | reportWriteFailure (failure : WriteFailure)
  | writerGone

/-- Where the loop is: about to poll, in its wait, in the wait of `send_cancels` for room (and whether a
slot is promised to it), returned, or aborted. -/
inductive DispatchAt where
  | top
  | wait (deadline : Option Nat)
  | sendCancels (request : WebSocketRequest) (promised : Bool) (msg : WebSocketMessage)
  | returned (ending : Ending)
  | aborted

/-- The loop and what is around it. `probeSend` is a probe that waits for room, with whether a slot is
promised to it; `watching` is whether the writer has not reported yet; `inbox` is what has arrived and is
not read yet. -/
structure DispatchLoop where
  now : Nat
  pc : DispatchAt := .top
  read : ReadState
  liveness : Option Liveness
  probeSend : Option Bool := none
  watching : Bool := true
  pendingWriteFailure : Option (WriteFailure × Nat) := none
  path : WritePath := {}
  inbox : List Inbound := []
  stop : Bool := false

/-- The arms of a data frame up to its cancels: the message to push and the ids to cancel, unless it was
taken as a pong or could not be parsed. -/
def AioRead.accept (reading : Reading) (binary : Bool) (arrived : Nat)
    (parsed : Except ErrorInfo WebSocketMessage) (state : ReadState) :
    ReadState × Option (WebSocketMessage × List String) :=
  match parsed with
  | .ok msg =>
    let (intercepted, latency) := state.latency.interceptPong msg arrived
    let state := { state with latency }
    if intercepted then (state, none)
    else
      let lastErrorCode := msg.errorCode.or state.lastErrorCode
      let (cancels, subscriptions) := handleSubscribedEvent state.subscriptions msg
      ({ state with lastErrorCode, subscriptions }, some (msg, cancels))
  | .error info =>
    ({ state with client := (state.client.emitUnlessClosed reading.sh (unparsed binary info)).2.1 }, none)

namespace DispatchLoop

variable (reading : Reading)

/-- Return with an ending; it is reported unless a shutdown was requested. -/
def finish (ending : Ending) (loop : DispatchLoop) : DispatchLoop :=
  let will := willReconnectAfter reading.reconnection ending.intent
    (ending.close loop.read.lastErrorCode) loop.stop
  let client :=
    if loop.stop then loop.read.client
    else (ending.report reading.sh .aio loop.now will loop.read.client).1
  { loop with
    pc := .returned ending
    read := { loop.read with client, latency := loop.read.latency.failAll } }

/-- Push a message and go on. -/
def push (msg : WebSocketMessage) (loop : DispatchLoop) : DispatchLoop :=
  { loop with
    pc := .top
    read := { loop.read with
      client := (loop.read.client.pushMessage reading.sh loop.now msg).1 } }

/-- `send_cancels`, then the push: only a full queue makes it wait. -/
def queueCancels (msg : WebSocketMessage) (cancels : List String) (loop : DispatchLoop) : DispatchLoop :=
  if cancels.isEmpty || !loop.path.slot then loop.push reading msg
  else
    match loop.path.trySend (.cancels (frameUnsubscribe cancels)) with
    | .sent path =>
      ({ loop with path, read := AioRead.sendCancels loop.read cancels }).push reading msg
    | .closed => loop.push reading msg
    | .full => { loop with pc := .sendCancels (frameUnsubscribe cancels) false msg }

/-- A data frame. -/
def onData (binary : Bool) (parsed : Except ErrorInfo WebSocketMessage) (loop : DispatchLoop) :
    DispatchLoop :=
  match AioRead.accept reading binary loop.now parsed loop.read with
  | (read, none) => { loop with read, pc := .top }
  | (read, some (msg, cancels)) => ({ loop with read }).queueCancels reading msg cancels

/-- Any frame proves the connection alive. -/
def heard (loop : DispatchLoop) : DispatchLoop :=
  { loop with liveness := loop.liveness.map fun liveness => liveness.onInbound loop.now }

/-- One item of the read half. -/
def onFrame (inbound : Inbound) (loop : DispatchLoop) : DispatchLoop :=
  match inbound with
  | .ended => loop.finish reading .eof
  | .transportError error =>
    loop.finish reading (.readFailed (LoginError.ofTransport error).info error.text)
  | .close frame =>
    loop.heard.finish reading (.peerClose (frame.map CloseFrame.code) (frame.map CloseFrame.reason))
  | .text text => loop.heard.onData reading false (reading.wire.parseTextFrame text)
  | .binary data => loop.heard.onData reading true (reading.wire.parseBinaryFrame data)
  | .ping _ | .pong _ => { loop.heard with pc := .top }

/-- `send_probe`: a probe that finds the queue full waits for room beside the read. -/
def sendProbe (loop : DispatchLoop) : DispatchLoop :=
  let (path, probeSend) :=
    if !loop.path.slot then (loop.path, none)
    else
      match loop.path.trySend .probe with
      | .sent path => (path, none)
      | .closed => (loop.path, none)
      | .full => (loop.path, some false)
  { loop with path := path.drop loop.probeSend, probeSend }

/-- What ends the wait, if anything does by now: reads are polled first, then the deadline that bounds
them, a failed write, and the held-back probe. Behind a failed write only frames that are there count. -/
def next (deadline : Option Nat) (loop : DispatchLoop) : Option Next :=
  match loop.pendingWriteFailure with
  | some (failure, drained) =>
    match (if drained < WRITE_FAILURE_DRAIN_LIMIT then loop.inbox.head? else none) with
    | some inbound => some (.frame inbound)
    | none => some (.reportWriteFailure failure)
  | none =>
    match loop.inbox.head? with
    | some inbound => some (.frame inbound)
    | none =>
      if deadline.any (· ≤ loop.now) then some .deadline
      else
        match (if loop.watching then loop.path.report else none) with
        | some (some failure) => some (.writeFailed failure)
        | some none => some .writerGone
        | none =>
          match loop.probeSend with
          | some promised => if promised || !loop.path.receiver then some .probeQueued else none
          | none => none

/-- What follows the wait. -/
def onNext (loop : DispatchLoop) : Next → DispatchLoop
  | .frame inbound =>
    let pendingWriteFailure := loop.pendingWriteFailure.map fun (failure, drained) =>
      (failure, drained + 1)
    ({ loop with inbox := loop.inbox.tail, pendingWriteFailure }).onFrame reading inbound
  | .deadline => { loop with pc := .top }
  | .probeQueued =>
    let path := if loop.probeSend = some true then loop.path.putHeld .probe else loop.path
    { loop with path, probeSend := none, pc := .top }
  | .writeFailed failure =>
    { loop with watching := false, pendingWriteFailure := some (failure, 0), pc := .top }
  | .reportWriteFailure failure =>
    ({ loop with pendingWriteFailure := none }).finish reading (.writeFailed failure.error failure.text)
  | .writerGone => { loop with watching := false, pc := .top }

/-- One turn of the loop, up to its next wait at most. -/
def turn (loop : DispatchLoop) : Option DispatchLoop :=
  match loop.pc with
  | .top =>
    match loop.liveness with
    | none => some { loop with pc := .wait none }
    | some liveness =>
      match liveness.poll loop.now with
      | (.wait deadline, liveness) =>
        some { loop with liveness := some liveness, pc := .wait (some deadline) }
      | (.sendProbe, liveness) => some ({ loop with liveness := some liveness }).sendProbe
      | (.dead elapsed, liveness) =>
        some (({ loop with liveness := some liveness }).finish reading (.silent elapsed))
  | .wait deadline => (loop.next deadline).map (loop.onNext reading)
  | .sendCancels request promised msg =>
    if promised then
      some (({ loop with
        path := loop.path.putHeld (.cancels request)
        read := { loop.read with cancels := loop.read.cancels ++ [request] } }).push reading msg)
    else if !loop.path.receiver then some (loop.push reading msg)
    else none
  | .returned _ | .aborted => none

end DispatchLoop

/-! ### What is around the loop -/

/-- A turn of the loop, or a step of what is around it. Callers share the client, the subscriptions and the
latency calls with the loop, and may leave them in any state. -/
inductive DispatchStep where
  | turn
  | elapse (time : Nat)
  | arrive (inbound : Inbound)
  | share (client : Client) (subscriptions : SubscriptionManager) (latency : LatencyWaiters)
  -- the write queue
  | promise
  | put (text : Option String)
  | promiseProbe
  | promiseCancels
  | take
  | clearSlot
  -- the writer
  | writerFailed (failure : WriteFailure)
  | writerGone
  -- the callers that close the client
  | requestShutdown
  | abort

def DispatchStep.isTurn : DispatchStep → Bool
  | turn => true
  | _ => false

def DispatchStep.isArrival : DispatchStep → Bool
  | arrive _ => true
  | _ => false

namespace DispatchLoop

variable (reading : Reading)

def step (loop : DispatchLoop) : DispatchStep → Option DispatchLoop
  | .turn => loop.turn reading
  | .elapse time => some { loop with now := loop.now + time }
  | .arrive inbound => some { loop with inbox := loop.inbox ++ [inbound] }
  | .share client subscriptions latency =>
    some { loop with read := { loop.read with client, subscriptions, latency } }
  | .promise =>
    if loop.path.hasRoom then
      some { loop with path := { loop.path with promised := loop.path.promised + 1 } }
    else none
  | .put text =>
    if 0 < loop.path.promised then
      let frames := loop.path.frames ++ (text.map WriteFrame.json).toList
      some { loop with path := { loop.path with promised := loop.path.promised - 1, frames } }
    else none
  | .promiseProbe =>
    if loop.probeSend = some false ∧ loop.path.hasRoom then
      some { loop with
        probeSend := some true, path := { loop.path with held := loop.path.held + 1 } }
    else none
  | .promiseCancels =>
    match loop.pc with
    | .sendCancels request false msg =>
      if loop.path.hasRoom then
        some { loop with
          pc := .sendCancels request true msg, path := { loop.path with held := loop.path.held + 1 } }
      else none
    | _ => none
  | .take =>
    if loop.path.receiver && !loop.path.frames.isEmpty then
      some { loop with path := { loop.path with frames := loop.path.frames.tail } }
    else none
  | .clearSlot => some { loop with path := { loop.path with slot := false } }
  | .writerFailed failure =>
    match loop.path.report with
    | none => some { loop with path := { loop.path with report := some (some failure) } }
    | some _ => none
  | .writerGone =>
    some { loop with
      path := { loop.path with receiver := false, report := loop.path.report.or (some none) } }
  | .requestShutdown => some { loop with stop := true }
  | .abort =>
    match loop.pc with
    | .returned _ => none
    | _ => some { loop with pc := .aborted }

end DispatchLoop

/-- The loop of a connection, from its start: nothing is held back, and what callers have queued by then
and what has arrived may be anything. -/
def dispatchLoops (reading : Reading) (health : HealthCheckConfig) :
    StepMachine DispatchLoop DispatchStep where
  start := fun loop => ∃ (now : Nat) (read : ReadState) (path : WritePath) (inbox : List Inbound)
    (stop : Bool), path.held = 0 ∧
      path.frames.length + path.promised ≤ writeQueueCapacity ∧
      loop = { now, read, path, inbox, stop, liveness := Liveness.new health now }
  step := DispatchLoop.step reading

/-! ### What a frame does to the wait -/

namespace DispatchLoop

variable (reading : Reading) {loop after : DispatchLoop}

/-- The ids to cancel that a frame leaves. -/
def cancelsOf (loop : DispatchLoop) : Inbound → List String
  | .text text => (AioRead.accept reading false loop.now (reading.wire.parseTextFrame text) loop.read).2.elim
      [] Prod.snd
  | .binary data => (AioRead.accept reading true loop.now (reading.wire.parseBinaryFrame data)
      loop.read).2.elim [] Prod.snd
  | _ => []

/-- Cancels can be queued, or dropped, without a wait. -/
def takes (loop : DispatchLoop) (cancels : List String) : Bool :=
  cancels.isEmpty || !loop.path.slot || !loop.path.receiver || loop.path.hasRoom

/-- The frame that the loop reads next, if it reads one, leaves no cancels that would have to wait. -/
def roomForCancels (loop : DispatchLoop) : Bool :=
  match loop.pc with
  | .wait deadline =>
    match loop.next deadline with
    | some (.frame inbound) => loop.takes (loop.cancelsOf reading inbound)
    | _ => true
  | _ => true

/-- A step that leaves the clock, the silence and what is held back alone. -/
structure Stays (loop after : DispatchLoop) : Prop where
  now : after.now = loop.now
  inbox : after.inbox = loop.inbox
  watching : after.watching = loop.watching
  probeSend : after.probeSend = loop.probeSend
  liveness : after.liveness = loop.liveness

theorem finish_stays (ending : Ending) (loop : DispatchLoop) :
    loop.Stays (loop.finish reading ending) := ⟨rfl, rfl, rfl, rfl, rfl⟩

theorem queueCancels_spec (loop : DispatchLoop) {cancels : List String} (takes : loop.takes cancels = true)
    (msg : WebSocketMessage) :
    loop.Stays (loop.queueCancels reading msg cancels) ∧
      (loop.queueCancels reading msg cancels).pc = .top := by
  unfold queueCancels
  by_cases skipped : (cancels.isEmpty || !loop.path.slot) = true
  · rw [if_pos skipped]
    exact ⟨⟨rfl, rfl, rfl, rfl, rfl⟩, rfl⟩
  · rw [if_neg skipped]
    have room : loop.path.receiver = true → loop.path.hasRoom = true := by
      intro there
      simpa [DispatchLoop.takes, skipped, there] using takes
    unfold WritePath.trySend
    by_cases there : loop.path.receiver = true
    · simp only [there, room there, Bool.not_true, Bool.false_eq_true, if_false, if_true]
      exact ⟨⟨rfl, rfl, rfl, rfl, rfl⟩, rfl⟩
    · simp only [there, Bool.not_false, if_true]
      exact ⟨⟨rfl, rfl, rfl, rfl, rfl⟩, rfl⟩

theorem onData_spec (loop : DispatchLoop) (binary : Bool) {parsed : Except ErrorInfo WebSocketMessage}
    (takes : loop.takes ((AioRead.accept reading binary loop.now parsed loop.read).2.elim [] Prod.snd) =
      true) :
    loop.Stays (loop.onData reading binary parsed) ∧ (loop.onData reading binary parsed).pc = .top := by
  unfold onData
  rcases accepted : AioRead.accept reading binary loop.now parsed loop.read with ⟨read, _ | ⟨msg, cancels⟩⟩
  · exact ⟨⟨rfl, rfl, rfl, rfl, rfl⟩, rfl⟩
  · rw [accepted] at takes
    obtain ⟨stays, top⟩ := queueCancels_spec reading { loop with read } takes msg
    exact ⟨⟨stays.now, stays.inbox, stays.watching, stays.probeSend, stays.liveness⟩, top⟩

/-- A frame ends the loop, or the loop goes on from its top with the silence over. -/
theorem onFrame_spec {inbound : Inbound}
    (takes : loop.takes (loop.cancelsOf reading inbound) = true) :
    (inbound.ending = none ∧ (loop.onFrame reading inbound).pc = .top ∧
        loop.heard.Stays (loop.onFrame reading inbound)) ∨
      ∃ ending, inbound.ending = some ending ∧ (loop.onFrame reading inbound).pc = .returned ending ∧
        (loop.Stays (loop.onFrame reading inbound) ∨ loop.heard.Stays (loop.onFrame reading inbound)) := by
  cases inbound with
  | text text =>
    obtain ⟨stays, top⟩ := onData_spec reading loop.heard false takes
    exact Or.inl ⟨rfl, top, stays⟩
  | binary data =>
    obtain ⟨stays, top⟩ := onData_spec reading loop.heard true takes
    exact Or.inl ⟨rfl, top, stays⟩
  | ping payload => exact Or.inl ⟨rfl, rfl, ⟨rfl, rfl, rfl, rfl, rfl⟩⟩
  | pong payload => exact Or.inl ⟨rfl, rfl, ⟨rfl, rfl, rfl, rfl, rfl⟩⟩
  | close frame => exact Or.inr ⟨_, rfl, rfl, Or.inr (finish_stays reading _ _)⟩
  | ended => exact Or.inr ⟨_, rfl, rfl, Or.inl (finish_stays reading _ _)⟩
  | transportError error => exact Or.inr ⟨_, rfl, rfl, Or.inl (finish_stays reading _ _)⟩

/-! ### Every wait has its deadline -/

/-- The deadline that is armed while the loop waits. -/
def armed (loop : DispatchLoop) : Option Nat :=
  match loop.pc with
  | .wait deadline => deadline
  | _ => none

/-- The loop waits for room in the write queue: with its cancels, or with a probe beside the read. -/
def waitsForRoom (loop : DispatchLoop) : Bool :=
  match loop.pc with
  | .sendCancels _ promised _ => !promised
  | .wait _ => loop.probeSend == some false
  | _ => false

/-- The loop returned or was aborted. -/
def isOver (loop : DispatchLoop) : Bool :=
  match loop.pc with
  | .returned _ | .aborted => true
  | _ => false

/-- The silence is tracked; a wait is until its deadline, and it is the wait of the read. -/
structure Watched (plan : Plan) (loop : DispatchLoop) : Prop where
  tracked : ∃ liveness, loop.liveness = some liveness ∧ liveness.plan = plan ∧ liveness.Past loop.now
  wait : ∀ deadline, loop.pc = .wait deadline → deadline = loop.liveness.map Liveness.deadline
  free : ∀ request promised msg, loop.pc ≠ .sendCancels request promised msg

/-- The deadline has passed. -/
def due (loop : DispatchLoop) : Bool :=
  loop.liveness.any fun liveness => liveness.deadline ≤ loop.now

/-- A probe may still be sent in the present silence. -/
def mayProbe (loop : DispatchLoop) : Bool := loop.liveness.any Liveness.mayProbe

/-- How many turns the loop has left at most where nothing more arrives: to read what has arrived, to send
a probe and get it queued, to hear from the writer, and to come round once more. -/
def rank (loop : DispatchLoop) : Nat :=
  7 * loop.inbox.length + 5 * loop.mayProbe.toNat + 2 * loop.watching.toNat +
    2 * loop.probeSend.isSome.toNat +
    match loop.pc with
    | .top => if loop.due then 1 else 3
    | .wait _ => 2
    | _ => 0

variable {plan : Plan}

theorem rank_le (loop : DispatchLoop) :
    loop.rank ≤ 7 * loop.inbox.length + 5 * loop.mayProbe.toNat + 2 * loop.watching.toNat +
      2 * loop.probeSend.isSome.toNat + 3 := by
  unfold rank
  split
  · split <;> omega
  · omega
  · omega

theorem rank_over (rests : loop.isOver = true) :
    loop.rank = 7 * loop.inbox.length + 5 * loop.mayProbe.toNat + 2 * loop.watching.toNat +
      2 * loop.probeSend.isSome.toNat := by
  unfold rank
  unfold isOver at rests
  split at rests
  · rename_i ending pc
    rw [pc, Nat.add_zero]
  · rename_i pc
    rw [pc, Nat.add_zero]
  · cases rests

/-- The loop goes on from its top, watched as before. -/
theorem Watched.toTop (watched : loop.Watched plan) (now : after.now = loop.now)
    (liveness : after.liveness = loop.liveness) (top : after.pc = .top) : after.Watched plan where
  tracked := by
    rw [liveness, now]
    exact watched.tracked
  wait := fun deadline waits => by rw [top] at waits; cases waits
  free := fun request promised msg sends => by rw [top] at sends; cases sends

theorem Watched.toReturned (watched : loop.Watched plan) (now : after.now = loop.now)
    (liveness : after.liveness = loop.liveness) {ending : Ending} (returned : after.pc = .returned ending) :
    after.Watched plan where
  tracked := by
    rw [liveness, now]
    exact watched.tracked
  wait := fun deadline waits => by rw [returned] at waits; cases waits
  free := fun request promised msg sends => by rw [returned] at sends; cases sends

theorem sendProbe_spec (loop : DispatchLoop) :
    loop.sendProbe.now = loop.now ∧ loop.sendProbe.inbox = loop.inbox ∧
      loop.sendProbe.watching = loop.watching ∧ loop.sendProbe.liveness = loop.liveness ∧
      loop.sendProbe.pc = loop.pc := by
  unfold sendProbe
  split
  exact ⟨rfl, rfl, rfl, rfl, rfl⟩

/-- What a turn leads to: it goes on to a wait or a next turn, or it returns with an ending of its own or
one that arrived. -/
structure Turned (plan : Plan) (loop after : DispatchLoop) : Prop where
  watched : after.Watched plan
  lower : after.rank < loop.rank
  inbox : ∀ inbound ∈ after.inbox, inbound ∈ loop.inbox
  ending : ∀ ending, after.pc = .returned ending →
    ending = .silent plan.window ∨ (∃ error text, ending = .writeFailed error text) ∨
      ∃ inbound ∈ loop.inbox, inbound.ending = some ending

/-- The top of the loop: the poll. -/
theorem turn_top (watched : loop.Watched plan) (top : loop.pc = .top)
    (turned : loop.turn reading = some after) : Turned plan loop after := by
  obtain ⟨liveness, tracked, planned, past⟩ := watched.tracked
  simp only [turn, top, tracked] at turned
  rcases Liveness.poll_cases liveness loop.now with ⟨waits, early⟩ | ⟨probes, late, may⟩ | ⟨dead, late⟩
  · simp only [waits, Option.some.injEq] at turned
    subst turned
    refine ⟨⟨⟨liveness, rfl, planned, past⟩, ?_, fun _ _ _ sends => by cases sends⟩, ?_, fun _ there => there,
      fun _ returned => by cases returned⟩
    · rintro _ ⟨⟩
      rfl
    · have early : ¬ liveness.deadline ≤ loop.now := by omega
      simp [rank, due, mayProbe, tracked, top, early]
  · simp only [probes, Option.some.injEq] at turned
    subst turned
    obtain ⟨now, inbox, watching, known, pc⟩ := sendProbe_spec { loop with
      pc := .top, liveness := some { liveness with probeSentAt := some loop.now } }
    have sent : ({ liveness with probeSentAt := some loop.now } : Liveness).Past loop.now :=
      ⟨past.inbound, fun at_ same => by cases same; exact Nat.le_refl _⟩
    refine ⟨⟨⟨_, known, planned, by rw [now]; exact sent⟩, ?_, ?_⟩, ?_, ?_, ?_⟩
    · intro deadline waits
      rw [pc] at waits
      cases waits
    · intro request promised msg sends
      rw [pc] at sends
      cases sends
    · refine Nat.lt_of_le_of_lt (rank_le _) ?_
      have once : ({ liveness with probeSentAt := some loop.now } : Liveness).mayProbe = false := by
        unfold Liveness.mayProbe
        split <;> simp_all
      have held := Bool.toNat_le (DispatchLoop.sendProbe { loop with
        pc := .top, liveness := some { liveness with probeSentAt := some loop.now } }).probeSend.isSome
      simp only [rank, due, mayProbe, tracked, top, inbox, watching, known, late, may, once,
        Option.any_some, decide_true, if_true, Bool.toNat_true, Bool.toNat_false]
      omega
    · rw [inbox]
      exact fun _ there => there
    · intro ending returned
      rw [pc] at returned
      cases returned
  · simp only [dead, Option.some.injEq] at turned
    subst turned
    refine ⟨watched.toReturned rfl tracked.symm rfl, ?_, fun _ there => there, ?_⟩
    · have before : 1 ≤ if loop.due then 1 else 3 := by split <;> omega
      simp only [rank, top, mayProbe, finish, tracked, Option.any_some]
      omega
    · rintro _ ⟨⟩
      exact Or.inl (by rw [planned])

/-- What is known of the loop where something ends its wait. -/
def Ends (deadline : Option Nat) (loop : DispatchLoop) : Next → Prop
  | .frame inbound => ∃ rest, loop.inbox = inbound :: rest
  | .deadline => deadline.any (· ≤ loop.now) = true
  | .probeQueued => loop.probeSend.isSome = true
  | .writeFailed _ | .writerGone => loop.watching = true
  | .reportWriteFailure _ => True

theorem next_ends {deadline : Option Nat} {ended : Next} (ends : loop.next deadline = some ended) :
    loop.Ends deadline ended := by
  unfold next at ends
  split at ends
  · split at ends <;> cases ends
    · rename_i first
      split at first
      · exact List.head?_eq_some_iff.mp first
      · cases first
    · trivial
  · split at ends
    · cases ends
      rename_i first
      exact List.head?_eq_some_iff.mp first
    · split at ends
      · cases ends
        assumption
      · split at ends
        · cases ends
          rename_i reported
          exact (Option.ite_none_right_eq_some.mp reported).1
        · cases ends
          rename_i reported
          exact (Option.ite_none_right_eq_some.mp reported).1
        · split at ends
          · rename_i held
            split at ends <;> cases ends
            show loop.probeSend.isSome = true
            rw [held]
            rfl
          · cases ends

/-- Where nothing ends the wait the deadline is still ahead. -/
theorem next_none {deadline : Option Nat} (waits : loop.next deadline = none) :
    deadline.any (· ≤ loop.now) = false := by
  unfold next at waits
  split at waits
  · split at waits <;> cases waits
  · split at waits
    · cases waits
    · split at waits
      · cases waits
      · rename_i ahead
        exact Bool.eq_false_iff.mpr ahead

theorem Watched.heard (watched : loop.Watched plan) :
    ∃ liveness, loop.heard.liveness = some liveness ∧ liveness.plan = plan ∧
      liveness.Past loop.now := by
  obtain ⟨liveness, tracked, planned, -⟩ := watched.tracked
  refine ⟨liveness.onInbound loop.now, ?_, planned, Nat.le_refl _, fun _ sent => by cases sent⟩
  simp only [DispatchLoop.heard, tracked, Option.map_some]

/-- A frame is read; `behind` is the loop without it. -/
theorem turn_frame {behind : DispatchLoop} (watched : behind.Watched plan) {inbound : Inbound}
    {rest : List Inbound} {deadline : Option Nat} (waits : loop.pc = .wait deadline)
    (arrived : loop.inbox = inbound :: rest) (inbox : behind.inbox = rest)
    (watching : behind.watching = loop.watching) (probeSend : behind.probeSend = loop.probeSend)
    (room : behind.takes (behind.cancelsOf reading inbound) = true) :
    Turned plan loop (behind.onFrame reading inbound) := by
  obtain ⟨liveness, tracked, planned, past⟩ := watched.heard
  have lower (after : DispatchLoop) (now : after.inbox = rest) (still : after.watching = loop.watching)
      (held : after.probeSend = loop.probeSend) : after.rank < loop.rank := by
    refine Nat.lt_of_le_of_lt (rank_le after) ?_
    have most := Bool.toNat_le after.mayProbe
    simp only [rank, waits, now, still, held, arrived, List.length_cons]
    omega
  have fewer (after : DispatchLoop) (now : after.inbox = rest) :
      ∀ other ∈ after.inbox, other ∈ loop.inbox := by
    intro other there
    rw [now] at there
    exact arrived ▸ List.mem_cons_of_mem _ there
  rcases onFrame_spec reading room with ⟨-, top, stays⟩ | ⟨ending, ends, returned, stays | stays⟩
  · refine ⟨⟨⟨liveness, stays.liveness.trans tracked, planned, stays.now ▸ past⟩, ?_, ?_⟩,
      lower _ (stays.inbox.trans inbox) (stays.watching.trans watching) (stays.probeSend.trans probeSend),
      fewer _ (stays.inbox.trans inbox), ?_⟩
    · intro deadline waits
      cases top.symm.trans waits
    · intro request promised msg sends
      cases top.symm.trans sends
    · intro ending returned
      cases top.symm.trans returned
  · refine ⟨watched.toReturned stays.now stays.liveness returned,
      lower _ (stays.inbox.trans inbox) (stays.watching.trans watching) (stays.probeSend.trans probeSend),
      fewer _ (stays.inbox.trans inbox), ?_⟩
    rintro other same
    cases returned.symm.trans same
    exact Or.inr (Or.inr ⟨inbound, arrived ▸ List.mem_cons_self, ends⟩)
  · refine ⟨⟨⟨liveness, stays.liveness.trans tracked, planned, stays.now ▸ past⟩, ?_, ?_⟩,
      lower _ (stays.inbox.trans inbox) (stays.watching.trans watching) (stays.probeSend.trans probeSend),
      fewer _ (stays.inbox.trans inbox), ?_⟩
    · intro deadline waits
      cases returned.symm.trans waits
    · intro request promised msg sends
      cases returned.symm.trans sends
    · rintro other same
      cases returned.symm.trans same
      exact Or.inr (Or.inr ⟨inbound, arrived ▸ List.mem_cons_self, ends⟩)

/-- The end of a wait. -/
theorem turn_wait (watched : loop.Watched plan) {deadline : Option Nat} (waits : loop.pc = .wait deadline)
    (room : loop.roomForCancels reading = true) (turned : loop.turn reading = some after) :
    Turned plan loop after := by
  simp only [turn, waits, Option.map_eq_some_iff] at turned
  obtain ⟨ended, ends, rfl⟩ := turned
  have known := next_ends ends
  simp only [roomForCancels, waits, ends] at room
  have most := Bool.toNat_le loop.mayProbe
  cases ended with
  | frame inbound =>
    obtain ⟨rest, arrived⟩ := known
    refine turn_frame reading ?_ waits arrived ?_ ?_ ?_ ?_
    · exact ⟨watched.tracked, watched.wait, watched.free⟩
    · exact congrArg List.tail arrived
    · rfl
    · rfl
    · exact room
  | deadline =>
    refine ⟨watched.toTop rfl rfl rfl, ?_, fun _ there => there, fun _ returned => by cases returned⟩
    have same := watched.wait _ waits
    obtain ⟨liveness, tracked, -, -⟩ := watched.tracked
    have late : liveness.deadline ≤ loop.now := by
      simpa [Ends, same, tracked] using known
    simp [rank, onNext, due, mayProbe, tracked, waits, late]
  | probeQueued =>
    refine ⟨watched.toTop rfl rfl rfl, ?_, fun _ there => there, fun _ returned => by cases returned⟩
    refine Nat.lt_of_le_of_lt (rank_le _) ?_
    have held : loop.probeSend.isSome = true := known
    simp only [rank, waits, held, onNext, mayProbe, Option.isSome_none, Bool.toNat_false, Bool.toNat_true]
    omega
  | writeFailed | writerGone =>
    refine ⟨watched.toTop rfl rfl rfl, ?_, fun _ there => there, fun _ returned => by cases returned⟩
    refine Nat.lt_of_le_of_lt (rank_le _) ?_
    have watching : loop.watching = true := known
    simp only [rank, waits, watching, onNext, mayProbe, Bool.toNat_false, Bool.toNat_true]
    omega
  | reportWriteFailure failure =>
    refine ⟨watched.toReturned rfl rfl rfl, ?_, fun _ there => there, ?_⟩
    · rw [rank_over rfl]
      simp only [rank, waits, onNext, finish, mayProbe]
      omega
    · rintro _ ⟨⟩
      exact Or.inr (Or.inl ⟨_, _, rfl⟩)

/-- Where nothing ends a watched wait its deadline is ahead, and no further than the window. -/
theorem Watched.ahead (watched : loop.Watched plan) {deadline : Option Nat}
    (waits : loop.pc = .wait deadline) (going : loop.next deadline = none) :
    ∃ at_, loop.armed = some at_ ∧ loop.now < at_ ∧ at_ ≤ loop.now + plan.window := by
  obtain ⟨liveness, tracked, rfl, past⟩ := watched.tracked
  have same := watched.wait _ waits
  have ahead := next_none going
  rw [same, tracked] at ahead
  refine ⟨liveness.deadline, ?_, by simpa using ahead, Liveness.deadline_le past⟩
  simp only [armed, waits, same, tracked, Option.map_some]

/-- What happens around a watched loop, short of an arrival, leaves it no more turns than before. -/
structure Around (plan : Plan) (loop after : DispatchLoop) (arrives : Bool) : Prop where
  watched : after.Watched plan
  calm : arrives = false → after.rank ≤ loop.rank ∧ after.inbox = loop.inbox
  ending : ∀ ending, after.pc = .returned ending → loop.pc = .returned ending

/-- A step that leaves the loop where it is. -/
theorem Watched.around (watched : loop.Watched plan) {arrives : Bool} (passed : loop.now ≤ after.now)
    (pc : after.pc = loop.pc) (liveness : after.liveness = loop.liveness)
    (watching : after.watching = loop.watching)
    (held : after.probeSend.isSome = loop.probeSend.isSome)
    (inbox : arrives = false → after.inbox = loop.inbox) : Around plan loop after arrives where
  watched := by
    obtain ⟨tracking, tracked, planned, past⟩ := watched.tracked
    refine ⟨⟨tracking, liveness.trans tracked, planned, past.mono passed⟩, ?_, ?_⟩
    · rw [pc, liveness]
      exact watched.wait
    · rw [pc]
      exact watched.free
  calm := by
    intro calm
    refine ⟨?_, inbox calm⟩
    have sooner : loop.due = true → after.due = true := by
      simp only [due, liveness, Option.any_eq_true, decide_eq_true_eq]
      rintro ⟨tracking, tracked, late⟩
      exact ⟨tracking, tracked, Nat.le_trans late passed⟩
    have latest : (match after.pc with
        | .top => if after.due then 1 else 3
        | .wait _ => 2
        | _ => 0) ≤ match loop.pc with
        | .top => if loop.due then 1 else 3
        | .wait _ => 2
        | _ => 0 := by
      rw [pc]
      split
      · by_cases late : loop.due = true
        · simp [late, sooner late]
        · simp only [late, Bool.false_eq_true, if_false]
          split <;> omega
      · exact Nat.le_refl _
      · exact Nat.le_refl _
    simp only [rank, mayProbe, inbox calm, liveness, watching, held]
    exact Nat.add_le_add_left latest _
  ending := fun ending returned => pc.symm.trans returned

theorem step_around {step : DispatchStep} (watched : loop.Watched plan) (turns : step.isTurn = false)
    (stepped : loop.step reading step = some after) : Around plan loop after step.isArrival := by
  have still {after : DispatchLoop} {arrives : Bool} (passed : loop.now ≤ after.now) (pc : after.pc = loop.pc)
      (liveness : after.liveness = loop.liveness) (watching : after.watching = loop.watching)
      (held : after.probeSend.isSome = loop.probeSend.isSome) (inbox : after.inbox = loop.inbox) :
      Around plan loop after arrives :=
    watched.around passed pc liveness watching held fun _ => inbox
  cases step with
  | turn => cases turns
  | elapse time =>
    cases stepped
    exact still (Nat.le_add_right _ _) rfl rfl rfl rfl rfl
  | arrive inbound =>
    cases stepped
    exact watched.around (Nat.le_refl _) rfl rfl rfl rfl fun calm => by cases calm
  | share client subscriptions latency =>
    cases stepped
    exact still (Nat.le_refl _) rfl rfl rfl rfl rfl
  | promise | put text | take =>
    simp only [DispatchLoop.step, Option.ite_none_right_eq_some, Option.some.injEq] at stepped
    obtain ⟨-, rfl⟩ := stepped
    exact still (Nat.le_refl _) rfl rfl rfl rfl rfl
  | promiseProbe =>
    simp only [DispatchLoop.step, Option.ite_none_right_eq_some, Option.some.injEq] at stepped
    obtain ⟨⟨held, -⟩, rfl⟩ := stepped
    exact still (Nat.le_refl _) rfl rfl rfl (by rw [held]; rfl) rfl
  | promiseCancels =>
    simp only [DispatchLoop.step] at stepped
    split at stepped
    · rename_i sends
      exact (watched.free _ _ _ sends).elim
    · cases stepped
  | clearSlot | writerGone | requestShutdown =>
    cases stepped
    exact still (Nat.le_refl _) rfl rfl rfl rfl rfl
  | writerFailed failure =>
    simp only [DispatchLoop.step] at stepped
    split at stepped <;> cases stepped
    exact still (Nat.le_refl _) rfl rfl rfl rfl rfl
  | abort =>
    simp only [DispatchLoop.step] at stepped
    split at stepped <;> cases stepped
    refine ⟨⟨watched.tracked, fun _ waits => (by cases waits), fun _ _ _ sends => by cases sends⟩, fun _ =>
      ⟨?_, rfl⟩, fun _ returned => by cases returned⟩
    rw [rank_over rfl]
    exact Nat.le_add_right _ _

/-- A turn of a watched loop that finds room. -/
theorem turn_spec (watched : loop.Watched plan) (room : loop.roomForCancels reading = true)
    (turned : loop.turn reading = some after) : Turned plan loop after := by
  cases pc : loop.pc with
  | top => exact turn_top reading watched pc turned
  | wait deadline => exact turn_wait reading watched pc room turned
  | sendCancels request promised msg => exact (watched.free _ _ _ pc).elim
  | returned ending | aborted =>
    simp only [turn, pc] at turned
    cases turned

theorem onData_noRoom (loop : DispatchLoop) (binary : Bool) {parsed : Except ErrorInfo WebSocketMessage}
    (room : loop.takes ((AioRead.accept reading binary loop.now parsed loop.read).2.elim [] Prod.snd) =
      false) :
    (loop.onData reading binary parsed).waitsForRoom = true ∧
      (loop.onData reading binary parsed).armed = none := by
  unfold onData
  rcases accepted : AioRead.accept reading binary loop.now parsed loop.read with ⟨read, _ | ⟨msg, cancels⟩⟩
  · rw [accepted] at room
    cases room
  · rw [accepted] at room
    simp only [takes, Option.elim_some, Bool.or_eq_false_iff, Bool.not_eq_false'] at room
    obtain ⟨⟨⟨some_, slot⟩, receiver⟩, full⟩ := room
    simp only [queueCancels, some_, slot, Bool.not_true, Bool.or_self, WritePath.trySend, receiver, full,
      Bool.false_eq_true, if_false]
    exact ⟨rfl, rfl⟩

/-- Where cancels do not find room the turn ends in a wait for it, with no deadline. -/
theorem turn_noRoom (room : loop.roomForCancels reading = false) :
    ∃ after, loop.turn reading = some after ∧ after.waitsForRoom = true ∧ after.armed = none := by
  unfold roomForCancels at room
  split at room
  · rename_i deadline waits
    split at room
    · rename_i inbound ends
      refine ⟨_, by simp only [turn, waits, ends, Option.map_some]; rfl, ?_⟩
      cases inbound with
      | text text => exact onData_noRoom reading (heard _) false room
      | binary data => exact onData_noRoom reading (heard _) true room
      | _ => cases room
    · cases room
  · cases room

/-- A turn finds room for the cancels of the frame it reads. -/
def FindsRoom (loop : DispatchLoop) (step : DispatchStep) : Prop :=
  step.isTurn = true → loop.roomForCancels reading = true

instance (step : DispatchStep) : Decidable (loop.FindsRoom reading step) :=
  inferInstanceAs (Decidable (_ → _))

theorem step_watched {step : DispatchStep} (watched : loop.Watched plan)
    (room : loop.FindsRoom reading step) (stepped : loop.step reading step = some after) :
    after.Watched plan := by
  by_cases turns : step.isTurn = true
  · cases step with
    | turn => exact (turn_spec reading watched (room turns) stepped).watched
    | _ => cases turns
  · exact (step_around reading watched (Bool.eq_false_iff.mpr turns) stepped).watched

/-- `later` ends, if it does, for silence, for a failed write, or with an end that had arrived by `loop`,
unless `loop` had ended. -/
def EndsOf (plan : Plan) (loop later : DispatchLoop) : Prop :=
  ∀ ending, later.pc = .returned ending → loop.pc = .returned ending ∨ ending = .silent plan.window ∨
    (∃ error text, ending = .writeFailed error text) ∨
      ∃ inbound ∈ loop.inbox, inbound.ending = some ending

/-- `later`, some turns after `loop` with no arrival in between: the turns are bounded, and it is over, has
a turn to take, or waits for a deadline at most a window away. -/
structure Fades (health : HealthCheckConfig) (loop : DispatchLoop) (turns : Nat) (later : DispatchLoop) :
    Prop where
  turns : turns ≤ 7 * loop.inbox.length + 12
  goes : later.isOver = true ∨ (later.turn reading).isSome = true ∨
    ∃ deadline, later.armed = some deadline ∧ later.now < deadline ∧
      deadline ≤ later.now + health.plan.window
  ends : EndsOf health.plan loop later

theorem rank_le_turns (loop : DispatchLoop) : loop.rank ≤ 7 * loop.inbox.length + 12 := by
  have most := rank_le loop
  have probes := Bool.toNat_le loop.mayProbe
  have watching := Bool.toNat_le loop.watching
  have held := Bool.toNat_le loop.probeSend.isSome
  omega

/-- A watched loop is over, has a turn to take, or waits for its deadline. -/
theorem Watched.goes (watched : loop.Watched plan) :
    loop.isOver = true ∨ (loop.turn reading).isSome = true ∨
      ∃ deadline, loop.armed = some deadline ∧ loop.now < deadline ∧
        deadline ≤ loop.now + plan.window := by
  cases pc : loop.pc with
  | top =>
    refine Or.inr (Or.inl ?_)
    obtain ⟨liveness, tracked, -⟩ := watched.tracked
    simp only [turn, pc, tracked]
    split <;> rfl
  | wait deadline =>
    cases ends : loop.next deadline with
    | none => exact Or.inr (Or.inr (watched.ahead pc ends))
    | some ended => exact Or.inr (Or.inl (by simp [turn, pc, ends]))
  | sendCancels request promised msg => exact (watched.free _ _ _ pc).elim
  | returned ending | aborted => exact Or.inl (by simp [isOver, pc])

end DispatchLoop

variable (reading : Reading) (health : HealthCheckConfig)

theorem dispatch_watched (enabled : health.enabled = true) {loop : DispatchLoop}
    (reached : (dispatchLoops reading health).ReachableUnder
      (fun loop step _ => loop.FindsRoom reading step) loop) : loop.Watched health.plan := by
  refine reached.invariant ?_ fun _ _ _ watched stepped room =>
    DispatchLoop.step_watched reading watched room stepped
  rintro _ ⟨now, read, path, inbox, stop, -, -, rfl⟩
  have tracked : Liveness.new health now = some { plan := health.plan, lastInbound := now } := if_pos enabled
  exact ⟨⟨_, tracked, rfl, Nat.le_refl _, fun _ sent => by cases sent⟩, fun _ waits => (by cases waits),
    fun _ _ _ sends => by cases sends⟩

/-- Nothing arrives, and a turn finds room for the cancels of what has arrived before. -/
def DispatchLoop.Silent (loop : DispatchLoop) (step : DispatchStep) : Prop :=
  step.isArrival = false ∧ loop.FindsRoom reading step

instance (loop : DispatchLoop) (step : DispatchStep) : Decidable (loop.Silent reading step) :=
  inferInstanceAs (Decidable (_ ∧ _))

theorem fading_step {plan : Plan} {loop now next : DispatchLoop} {step : DispatchStep}
    (inv : now.Watched plan ∧ (∀ inbound ∈ now.inbox, inbound ∈ loop.inbox) ∧ loop.EndsOf plan now)
    (quiet : now.Silent reading step) (stepped : now.step reading step = some next) :
    next.Watched plan ∧ (∀ inbound ∈ next.inbox, inbound ∈ loop.inbox) ∧ loop.EndsOf plan next := by
  obtain ⟨watched, arrived, ends⟩ := inv
  by_cases turns : step.isTurn = true
  · cases step with
    | turn =>
      have turned := DispatchLoop.turn_spec reading watched (quiet.2 turns) stepped
      refine ⟨turned.watched, fun inbound there => arrived inbound (turned.inbox inbound there), ?_⟩
      intro ending returned
      rcases turned.ending ending returned with silent | failed | ⟨inbound, there, last⟩
      · exact Or.inr (Or.inl silent)
      · exact Or.inr (Or.inr (Or.inl failed))
      · exact Or.inr (Or.inr (Or.inr ⟨inbound, arrived inbound there, last⟩))
    | _ => cases turns
  · have around := DispatchLoop.step_around reading watched (Bool.eq_false_iff.mpr turns) stepped
    obtain ⟨-, same⟩ := around.calm quiet.1
    exact ⟨around.watched, same ▸ arrived, fun ending returned => ends ending (around.ending ending returned)⟩

/-- **The write path does not hold up the verdict where the queue has room for the cancels.** In every run
whose turns find room for the cancels a frame leaves, whatever the writer does: a wait for room in the
write queue has a deadline armed beside it, and once nothing more arrives the connection is declared
dead, after a bounded number of turns and waits of at most a window each, unless it ends before. -/
theorem liveness_unhindered (enabled : health.enabled = true) {loop : DispatchLoop}
    (reached : (dispatchLoops reading health).ReachableUnder
      (fun loop step _ => loop.FindsRoom reading step) loop) :
    (loop.waitsForRoom = true → loop.armed.isSome = true) ∧
      ∀ (steps : List DispatchStep) (later : DispatchLoop),
        (dispatchLoops reading health).runUnder (DispatchLoop.Silent reading) loop steps = some later →
        loop.Fades reading health (steps.countP DispatchStep.isTurn) later := by
  have watched := dispatch_watched reading health enabled reached
  refine ⟨?_, fun steps later ran => ?_⟩
  · intro waits
    unfold DispatchLoop.waitsForRoom at waits
    split at waits
    · rename_i sends
      exact (watched.free _ _ _ sends).elim
    · rename_i deadline pc
      obtain ⟨liveness, tracked, -⟩ := watched.tracked
      have same := watched.wait _ pc
      simp [DispatchLoop.armed, pc, same, tracked]
    · cases waits
  · obtain ⟨⟨still, -, ends⟩, bounded⟩ := countP_le_rank
      (fun now => now.Watched health.plan ∧ (∀ inbound ∈ now.inbox, inbound ∈ loop.inbox) ∧
        loop.EndsOf health.plan now)
      DispatchLoop.rank DispatchStep.isTurn
      (fun now step next inv quiet stepped => fading_step reading inv quiet stepped)
      (fun now step next inv quiet stepped turns => by
        cases step with
        | turn => exact (DispatchLoop.turn_spec reading inv.1 (quiet.2 turns) stepped).lower
        | _ => cases turns)
      (fun now step next inv quiet stepped turns =>
        ((DispatchLoop.step_around reading inv.1 turns stepped).calm quiet.1).1)
      steps ⟨watched, fun _ there => there, fun _ returned => Or.inl returned⟩ ran
    exact ⟨(Nat.le_add_right _ _).trans (bounded.trans loop.rank_le_turns), still.goes reading, ends⟩

/-! ### The full queue -/

/-- What a text frame is taken for: the ack of a subscription, or a heartbeat. -/
def ackWire : Wire where
  parse := fun text =>
    if text = "ack" then
      .ok { event := "subscribed", channel := some "trades", symbol := some "2330", id := some "s1" }
    else .ok { event := "heartbeat", raw := text }
  utf8 := fun _ =>
    .error { code := 1002, sourceKind := .client, message := "Deserialization failed" }
  closedText := "Connection closed normally"

def ackReading : Reading where
  sh := smallStream
  wire := ackWire
  reconnection := .new .default

/-- A subscription that was unsubscribed before its ack, and frames of callers in the write queue. -/
def unsubscribedEarly (frames : Nat) : DispatchLoop where
  now := 0
  read :=
    { client := {}
      subscriptions := (({} : SubscriptionManager).subscribe trades2330).resolveUnsubscribe "trades:2330" |>.2
      latency := {} }
  liveness := Liveness.new {} 0
  path := { frames := List.replicate frames (.json "") }
  inbox := [.text "ack"]

/-- With one slot left the ack is handled and, 35 seconds of silence later, the connection is dead. -/
theorem liveness_unhindered_oneSlot :
    ∃ loop later, (dispatchLoops ackReading {}).runUnder (DispatchLoop.FindsRoom ackReading)
        (unsubscribedEarly 63) [.turn, .turn] = some loop ∧
      (dispatchLoops ackReading {}).runUnder (DispatchLoop.Silent ackReading) loop
        [.turn, .elapse 35000000000, .turn, .turn] = some later ∧
      later.pc = .returned (.silent 35000000000) ∧
      (loop.waitsForRoom = true → loop.armed.isSome = true) ∧ loop.Fades ackReading {} 3 later := by
  have runs : ∃ loop later, (dispatchLoops ackReading {}).runUnder (DispatchLoop.FindsRoom ackReading)
        (unsubscribedEarly 63) [.turn, .turn] = some loop ∧
      (dispatchLoops ackReading {}).runUnder (DispatchLoop.Silent ackReading) loop
        [.turn, .elapse 35000000000, .turn, .turn] = some later ∧
      later.pc = .returned (.silent 35000000000) := ⟨_, _, rfl, rfl, rfl⟩
  obtain ⟨loop, later, ran, silent, dead⟩ := runs
  have start : (dispatchLoops ackReading {}).ReachableUnder
      (fun loop step _ => loop.FindsRoom ackReading step) (unsubscribedEarly 63) :=
    .start ⟨0, _, _, _, _, rfl, by decide, rfl⟩
  obtain ⟨armed, fades⟩ := liveness_unhindered ackReading {} rfl (reachableUnder_of_run _ start ran)
  exact ⟨loop, later, ran, silent, dead, armed, fades _ later silent⟩

/-- **A full queue stops the clock.** The ack of a subscription that was unsubscribed early finds 64 frames
in the write queue: the loop waits for room with no deadline. -/
theorem fullQueue_waitsForever :
    ¬ ∀ (reading : Reading) (health : HealthCheckConfig), health.enabled = true →
      ∀ loop, (dispatchLoops reading health).Reachable loop → loop.waitsForRoom = true →
        loop.armed.isSome = true := by
  intro always
  refine not_forall_reachable [.turn, .turn] (m := dispatchLoops ackReading {})
    (s := unsubscribedEarly 64) ⟨0, _, _, _, _, rfl, by decide, rfl⟩ ⟨_, rfl, fun armed => ?_⟩
    (always ackReading {} rfl)
  cases armed rfl

end FugleMarketdata
