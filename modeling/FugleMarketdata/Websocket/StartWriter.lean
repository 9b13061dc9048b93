/-
**The async client's writers.** `start_writer`, `retire_writer` and `run_writer_task` of
`core/src/websocket/aio/writer.rs`, over the slots they share: the installed sink, the sender callers
clone, the writer's handle and the generation.

Connections are numbered in the order their sinks are installed; connection `c` is the socket, the
channel and the writer of the `c`-th. A step ends at an await or where another task may look. `write_tx`
is held through the whole of `start_writer`, so where that call stands is part of the slots.

* `Outbox.lockWriteTx`, `Outbox.advance` — `start_writer`, step by step;
* `Outbox.writerStep` — a step of a writer;
* `Outbox.Inv` — one writer runs at most, it writes to its own socket, and what is written there is what
  entered its queue first.
-/

import FugleMarketdata.Websocket.DispatchWait

namespace FugleMarketdata

/-! ### The writers and the slots -/

/-- Where `run_writer_task` is, named by what comes next. It has the sink from `sending` on, and awaits
nothing from `failed` on. -/
inductive RunWriterAt where
  | receiving
  | locking (text : String)
  | sending (sink : Nat) (text : String)
  | flushing
  | failed (failure : WriteFailure)
  | checking (failure : WriteFailure)
  | reporting (failure : WriteFailure)
  | finished

namespace RunWriterAt

def isFinished : RunWriterAt → Bool
  | finished => true
  | _ => false

/-- The writer is at an await, where an abort ends it. -/
def awaits : RunWriterAt → Bool
  | receiving | locking _ | sending _ _ | flushing => true
  | _ => false

/-- The frame taken from the queue and not yet written. -/
def taken : RunWriterAt → List String
  | locking text | sending _ text => [text]
  | _ => []

end RunWriterAt

/-- What the socket, and a caller that aborts the task, do at a step of a writer. -/
inductive RunWriterInput where
  | go
  | fail (failure : WriteFailure)
  | drop

/-- A connection: its channel and the senders of it callers hold, its writer with the generation it was
given, and the failed write it handed to the connection's dispatch loop. `entered` is what was put on
the channel and `written` what was written to the socket, in order. -/
structure Connection where
  queue : List String := []
  clones : Nat := 0
  writer : RunWriterAt := .finished
  current : Nat := 0
  aborted : Bool := false
  handed : Option WriteFailure := none
  entered : List String := []
  written : List String := []

/-- Who calls `start_writer`. -/
inductive Opener where
  | connect | dispatch
  deriving DecidableEq, Repr

/-- Where `start_writer` is once it holds `write_tx`, named by what comes next. -/
inductive StartAt where
  | lockHandle
  | awaitPrevious (previous : Option Nat)
  | lockSink
  | spawn
  deriving DecidableEq, Repr

/-- Who holds the lock of the sink. -/
inductive SinkHolder where
  | writer (connection : Nat)
  | closer
  deriving DecidableEq, Repr

/-- The slots: every connection so far and how many were opened, the installed sink and who has locked
it, the sender in the write slot and the `start_writer` that holds its lock, the writer whose handle is
stored, and the generation. -/
structure Outbox where
  connections : Nat → Connection := fun _ => {}
  opened : Nat := 0
  wsSink : Option Nat := none
  sinkHolder : Option SinkHolder := none
  writeTx : Option Nat := none
  starting : Option (Opener × StartAt) := none
  writerHandle : Option Nat := none
  generation : Nat := 0

namespace Outbox

/-- The writer of a connection has not finished. -/
def Runs (box : Outbox) (connection : Nat) : Prop :=
  (box.connections connection).writer.isFinished = false

/-- Change one connection. -/
def update (box : Outbox) (connection : Nat) (change : Connection → Connection) : Outbox :=
  { box with
    connections :=
      Function.update box.connections connection (change (box.connections connection)) }

def moveWriter (box : Outbox) (connection : Nat) (writer : RunWriterAt) : Outbox :=
  box.update connection fun conn => { conn with writer }

/-- The writer's task is over: its receiver is dropped, with what is queued, and its lock released. -/
def finish (box : Outbox) (connection : Nat) : Outbox :=
  { box.update connection fun conn => { conn with queue := [], writer := .finished } with
    sinkHolder := if box.sinkHolder = some (.writer connection) then none else box.sinkHolder }

/-- `retire_writer`. -/
def retire (box : Outbox) : Outbox := { box with generation := box.generation + 1 }

/-- `abort` on a writer's handle. -/
def abort (box : Outbox) (connection : Nat) : Outbox :=
  box.update connection fun conn => { conn with aborted := true }

/-! ### `start_writer` -/

def lockWriteTx (box : Outbox) (opener : Opener) : Option Outbox :=
  if box.starting = none then some { box with starting := some (opener, .lockHandle) } else none

/-- The new channel goes into the write slot and its writer's handle is stored. A clone of the sender is
returned to the caller. -/
def spawn (box : Outbox) : Outbox :=
  { box with
    connections := Function.update box.connections box.opened
      { writer := .receiving, current := box.generation + 1, clones := 1 }
    opened := box.opened + 1
    writeTx := some box.opened
    starting := none
    writerHandle := some box.opened
    generation := box.generation + 1 }

/-- A step of the `start_writer` that holds `write_tx`. -/
def advance (box : Outbox) : Option Outbox :=
  match box.starting with
  | some (opener, .lockHandle) =>
    let stopped := match box.writerHandle with
      | some previous => box.abort previous
      | none => box
    some { stopped with
      starting := some (opener, .awaitPrevious box.writerHandle), writerHandle := none }
  | some (opener, .awaitPrevious previous) =>
    if previous.all fun connection => (box.connections connection).writer.isFinished then
      some { box with starting := some (opener, .lockSink) }
    else none
  | some (opener, .lockSink) =>
    if box.sinkHolder = none then
      some { box with wsSink := some box.opened, starting := some (opener, .spawn) }
    else none
  | some (_, .spawn) => some box.spawn
  | none => none

/-- The caller of `start_writer` is dropped at one of its awaits. -/
def abandon (box : Outbox) : Option Outbox :=
  match box.starting with
  | some (_, .lockHandle) | some (_, .awaitPrevious _) | some (_, .lockSink) =>
    some { box with starting := none }
  | some (_, .spawn) | none => none

/-- A closing caller drops the sender from the write slot. -/
def clearWriteTx (box : Outbox) : Option Outbox :=
  if box.starting = none then some { box with writeTx := none } else none

/-- A closing caller drops the sink. -/
def clearSink (box : Outbox) : Option Outbox :=
  if box.sinkHolder = none then some { box with wsSink := none } else none

/-! ### The callers that send -/

/-- A caller clones the sender in the write slot. -/
def cloneSender (box : Outbox) : Option Outbox :=
  match box.starting, box.writeTx with
  | none, some connection =>
    some (box.update connection fun conn => { conn with clones := conn.clones + 1 })
  | _, _ => none

/-- A caller that holds a sender puts a frame on it; with the receiver gone the frame is refused. -/
def put (box : Outbox) (connection : Nat) (text : String) : Option Outbox :=
  let conn := box.connections connection
  if 0 < conn.clones ∧ conn.writer.isFinished = false ∧ conn.queue.length < writeQueueCapacity then
    some (box.update connection fun conn =>
      { conn with queue := conn.queue ++ [text], entered := conn.entered ++ [text] })
  else none

/-- A caller drops a sender. -/
def dropSender (box : Outbox) (connection : Nat) : Option Outbox :=
  if 0 < (box.connections connection).clones then
    some (box.update connection fun conn => { conn with clones := conn.clones - 1 })
  else none

/-! ### `run_writer_task` -/

/-- A step of a writer, up to the report of a failed write. `recv` returns nothing once the queue is
empty and no sender is left; the frame is on the socket before the send is known to have succeeded. -/
def writerStep (box : Outbox) (connection : Nat) (input : RunWriterInput) : Option Outbox :=
  let conn := box.connections connection
  match conn.writer, input with
  | .receiving, .go =>
    match conn.queue with
    | text :: rest =>
      some (box.update connection fun conn => { conn with queue := rest, writer := .locking text })
    | [] =>
      if conn.clones = 0 ∧ box.writeTx ≠ some connection then some (box.finish connection) else none
  | .locking text, .go =>
    if box.sinkHolder = none then
      match box.wsSink with
      | some sink =>
        some { box.moveWriter connection (.sending sink text) with
          sinkHolder := some (.writer connection) }
      | none => some (box.finish connection)
    else none
  | .sending sink text, .go =>
    some ((box.update sink fun conn => { conn with written := conn.written ++ [text] }).moveWriter
      connection .flushing)
  | .flushing, .go => some { box.moveWriter connection .receiving with sinkHolder := none }
  | .sending _ _, .fail failure | .flushing, .fail failure =>
    some (box.moveWriter connection (.failed failure))
  | .checking failure, .go =>
    some (if box.generation = conn.current then box.moveWriter connection (.reporting failure)
      else box.finish connection)
  | writer, .drop => if conn.aborted ∧ writer.awaits then some (box.finish connection) else none
  | _, _ => none

/-- A writer hands its failed write to the dispatch loop; where that is gone it may report it itself. -/
def handOver (box : Outbox) (connection : Nat) (failure : WriteFailure) (received : Bool) : Outbox :=
  if received then
    (box.update connection fun conn => { conn with handed := some failure }).finish connection
  else box.moveWriter connection (.checking failure)

end Outbox

/-! ### The invariant -/

/-- What holds of each connection: while its writer can write, what entered the queue is what was
written, what the writer has taken and what is still queued; what was written entered first, in that
order; and a writer that handed over a failed write has finished. -/
structure Connection.Fits (connection : Nat) (conn : Connection) : Prop where
  awaits : conn.writer.awaits = true →
    conn.entered = conn.written ++ conn.writer.taken ++ conn.queue
  order : conn.written <+: conn.entered
  sink : ∀ sink text, conn.writer = .sending sink text → sink = connection
  handed : conn.handed ≠ none → conn.writer.isFinished = true

/-- Whose writer can still run, by where `start_writer` is. `quiet` is that no writer will be started
any more. -/
def Outbox.Started (quiet : Prop) (box : Outbox) : Option StartAt → Prop
  | none => ∀ connection, box.Runs connection → box.writerHandle = some connection ∨ quiet
  | some .lockHandle => ∀ connection, box.Runs connection → box.writerHandle = some connection
  | some (.awaitPrevious previous) => ∀ connection, box.Runs connection → previous = some connection
  | some .lockSink | some .spawn => ∀ connection, ¬ box.Runs connection

/-- The point of the `start_writer` under way. -/
def Outbox.startAt (box : Outbox) : Option StartAt := box.starting.map Prod.snd

/-- The invariant of the slots. Only the writer of the last connection runs, the installed sink is that
connection's, and no writer has a later generation than the current one. -/
structure Outbox.Inv (quiet : Prop) (box : Outbox) : Prop where
  fits : ∀ connection, (box.connections connection).Fits connection
  latest : ∀ connection, box.Runs connection → connection + 1 = box.opened
  started : box.Started quiet box.startAt
  sink : ∀ sink, box.wsSink = some sink →
    sink + 1 = box.opened + if box.startAt = some .spawn then 1 else 0
  current : ∀ connection, (box.connections connection).current ≤ box.generation

namespace Outbox

variable {quiet : Prop} {box next : Outbox} {connection : Nat}

theorem Inv.start : Inv quiet {} where
  fits := fun _ => ⟨nofun, List.nil_prefix, nofun, fun _ => rfl⟩
  latest := fun _ runs => by cases runs
  started := fun _ runs => by cases runs
  sink := nofun
  current := fun _ => Nat.le_refl 0

/-! ### Changing one connection -/

theorem connections_update (box : Outbox) (connection : Nat) (change : Connection → Connection)
    (other : Nat) : (box.update connection change).connections other =
      if other = connection then change (box.connections connection) else box.connections other :=
  Function.update_apply ..

@[simp] theorem connections_update_self (box : Outbox) (connection : Nat)
    (change : Connection → Connection) :
    (box.update connection change).connections connection = change (box.connections connection) :=
  Function.update_self ..

theorem update_update (box : Outbox) (connection : Nat) (first second : Connection → Connection) :
    (box.update connection first).update connection second =
      box.update connection fun conn => second (first conn) := by
  simp [update]

/-- Fewer writers run, and nothing else changes who may start one. -/
theorem Started.fewer {starting : Option StartAt} (started : box.Started quiet starting)
    (fewer : ∀ connection, next.Runs connection → box.Runs connection)
    (handle : next.writerHandle = box.writerHandle) : next.Started quiet starting := by
  cases starting with
  | none => exact fun connection runs => handle ▸ started connection (fewer connection runs)
  | some point =>
    cases point with
    | lockHandle => exact fun connection runs => handle ▸ started connection (fewer connection runs)
    | awaitPrevious previous => exact fun connection runs => started connection (fewer connection runs)
    | lockSink | spawn => exact fun connection runs => started connection (fewer connection runs)

theorem Inv.holder (inv : box.Inv quiet) (sinkHolder : Option SinkHolder) :
    Inv quiet { box with sinkHolder } where
  fits := inv.fits
  latest := inv.latest
  started := inv.started.fewer (fun _ => id) rfl
  sink := inv.sink
  current := inv.current

/-- A change of one connection that starts no writer. -/
theorem Inv.update (inv : box.Inv quiet) {change : Connection → Connection}
    (fits : (change (box.connections connection)).Fits connection)
    (current : (change (box.connections connection)).current = (box.connections connection).current)
    (fewer : (change (box.connections connection)).writer.isFinished = false →
      box.Runs connection) : Inv quiet (box.update connection change) := by
  have runs (other : Nat) (runs : (box.update connection change).Runs other) : box.Runs other := by
    rw [Runs, connections_update] at runs
    split at runs
    · rename_i same
      exact same ▸ fewer runs
    · exact runs
  exact {
    fits := fun other => by
      show ((box.update connection change).connections other).Fits other
      rw [connections_update]
      split
      · rename_i same
        exact same ▸ fits
      · exact inv.fits other
    latest := fun other going => inv.latest other (runs other going)
    started := inv.started.fewer runs rfl
    sink := inv.sink
    current := fun other => by
      show ((box.update connection change).connections other).current ≤ box.generation
      rw [connections_update]
      split
      · exact current ▸ inv.current connection
      · exact inv.current other }

/-! ### The writers -/

theorem finish_writer (box : Outbox) (connection : Nat) :
    ((box.finish connection).connections connection).writer = .finished := by
  simp [finish]

theorem Inv.finish (inv : box.Inv quiet) : Inv quiet (box.finish connection) := by
  refine Inv.holder (inv.update ?_ rfl fun runs => by cases runs) _
  exact ⟨nofun, (inv.fits connection).order, nofun, fun _ => rfl⟩

/-- A writer that has not handed over a failed write. -/
theorem Inv.not_handed (inv : box.Inv quiet) (runs : box.Runs connection) :
    (box.connections connection).handed = none := by
  by_contra handed
  have finished := (inv.fits connection).handed handed
  rw [Runs] at runs
  rw [runs] at finished
  cases finished

/-- A writer moves on; the frame it has taken is still to be written, unless it can write no more. -/
theorem Inv.moveWriter (inv : box.Inv quiet) {writer : RunWriterAt}
    (runs : box.Runs connection)
    (awaits : writer.awaits = true → (box.connections connection).entered =
      (box.connections connection).written ++ writer.taken ++ (box.connections connection).queue)
    (sink : ∀ sink text, writer = .sending sink text → sink = connection) :
    Inv quiet (box.moveWriter connection writer) :=
  inv.update ⟨awaits, (inv.fits connection).order, sink,
    fun handed => absurd (inv.not_handed runs) handed⟩ rfl fun _ => runs

/-- Every step of a writer keeps the invariant: this is where a frame reaches a socket. -/
theorem Inv.writerStep (inv : box.Inv quiet) {input : RunWriterInput}
    (stepped : box.writerStep connection input = some next) : next.Inv quiet := by
  have fits := inv.fits connection
  simp only [Outbox.writerStep] at stepped
  split at stepped
  case h_1 at_ =>
    have runs : box.Runs connection := by rw [Runs, at_]; rfl
    have before := fits.awaits (by rw [at_]; rfl)
    rw [at_] at before
    split at stepped
    · rename_i text rest queued
      cases stepped
      refine inv.update ?_ rfl fun _ => runs
      refine ⟨fun _ => ?_, fits.order, nofun, fun handed => absurd (inv.not_handed runs) handed⟩
      rw [queued] at before
      simpa [RunWriterAt.taken] using before
    · split at stepped <;> cases stepped
      exact inv.finish
  case h_2 text at_ =>
    have runs : box.Runs connection := by rw [Runs, at_]; rfl
    have before := fits.awaits (by rw [at_]; rfl)
    rw [at_] at before
    split at stepped
    · split at stepped
      · rename_i sink installed
        cases stepped
        refine Inv.holder ?_ _
        refine inv.moveWriter runs (fun _ => before) ?_
        rintro _ _ ⟨⟩
        -- a writer that runs keeps `start_writer` from where it has installed the next sink
        have last := inv.latest connection runs
        have mine := inv.sink sink installed
        split at mine
        · rename_i spawning
          have nobody := inv.started
          rw [spawning] at nobody
          exact absurd runs (nobody connection)
        · omega
      · cases stepped
        exact inv.finish
    · cases stepped
  case h_3 sink text at_ =>
    have runs : box.Runs connection := by rw [Runs, at_]; rfl
    have before := fits.awaits (by rw [at_]; rfl)
    rw [at_] at before
    obtain rfl := fits.sink sink text at_
    cases stepped
    rw [Outbox.moveWriter, update_update]
    refine inv.update ?_ rfl fun _ => runs
    refine ⟨fun _ => ?_, ?_, nofun, fun handed => absurd (inv.not_handed runs) handed⟩
    · simpa [RunWriterAt.taken] using before
    · rw [before, List.append_assoc]
      exact ⟨_, List.append_assoc ..⟩
  case h_4 at_ =>
    have runs : box.Runs connection := by rw [Runs, at_]; rfl
    have before := fits.awaits (by rw [at_]; rfl)
    rw [at_] at before
    cases stepped
    refine Inv.holder ?_ none
    exact inv.moveWriter runs (fun _ => before) nofun
  case h_5 at_ | h_6 at_ =>
    cases stepped
    exact inv.moveWriter (by rw [Runs, at_]; rfl) nofun nofun
  case h_7 failure at_ =>
    cases stepped
    split
    · exact inv.moveWriter (by rw [Runs, at_]; rfl) nofun nofun
    · exact inv.finish
  case h_8 =>
    split at stepped <;> cases stepped
    exact inv.finish
  case h_9 => cases stepped

/-- A failed write is handed over, or left to the writer. -/
theorem Inv.handOver (inv : box.Inv quiet) {failure : WriteFailure} (runs : box.Runs connection)
    (received : Bool) : Inv quiet (box.handOver connection failure received) := by
  cases received with
  | false => exact inv.moveWriter runs nofun nofun
  | true =>
    show Inv quiet (Outbox.finish (box.update connection _) connection)
    rw [Outbox.finish, update_update]
    refine Inv.holder (inv.update ?_ rfl fun runs => by cases runs) _
    exact ⟨nofun, (inv.fits connection).order, nofun, fun _ => rfl⟩

/-! ### The callers that send, and the retired generation -/

/-- A change of what the callers hold. -/
theorem Inv.outside (inv : box.Inv quiet) {change : Connection → Connection}
    (same : change (box.connections connection) = { box.connections connection with
      clones := (change (box.connections connection)).clones
      aborted := (change (box.connections connection)).aborted }) :
    Inv quiet (box.update connection change) := by
  have fits := inv.fits connection
  refine inv.update ?_ (by rw [same]) fun runs => by rw [same] at runs; exact runs
  rw [same]
  exact ⟨fits.awaits, fits.order, fits.sink, fits.handed⟩

theorem Inv.abort (inv : box.Inv quiet) : Inv quiet (box.abort connection) := inv.outside rfl

theorem Inv.cloneSender (inv : box.Inv quiet) (stepped : box.cloneSender = some next) :
    next.Inv quiet := by
  unfold Outbox.cloneSender at stepped
  split at stepped <;> cases stepped
  exact inv.outside rfl

theorem Inv.dropSender (inv : box.Inv quiet) (stepped : box.dropSender connection = some next) :
    next.Inv quiet := by
  simp only [Outbox.dropSender, Option.ite_none_right_eq_some, Option.some.injEq] at stepped
  obtain ⟨-, rfl⟩ := stepped
  exact inv.outside rfl

/-- A frame enters the queue last, of what was written, taken and queued. -/
theorem Inv.put (inv : box.Inv quiet) {text : String}
    (stepped : box.put connection text = some next) : next.Inv quiet := by
  simp only [Outbox.put, Option.ite_none_right_eq_some, Option.some.injEq] at stepped
  obtain ⟨⟨-, runs, -⟩, rfl⟩ := stepped
  have fits := inv.fits connection
  refine inv.update ⟨fun awaits => ?_, ?_, fits.sink, fits.handed⟩ rfl fun _ => runs
  · rw [fits.awaits awaits, List.append_assoc]
  · exact fits.order.trans (List.prefix_append _ _)

theorem Inv.retire (inv : box.Inv quiet) : Inv quiet box.retire where
  fits := inv.fits
  latest := inv.latest
  started := inv.started.fewer (fun _ => id) rfl
  sink := inv.sink
  current := fun connection => Nat.le_succ_of_le (inv.current connection)

/-! ### `start_writer` and the slots -/

/-- Once no writer will be started any more, that stays. -/
theorem Inv.mono {still : Prop} (inv : box.Inv quiet) (stays : quiet → still) : box.Inv still where
  fits := inv.fits
  latest := inv.latest
  started := by
    have started := inv.started
    cases at_ : box.startAt with
    | none =>
      rw [at_] at started
      exact fun connection runs => (started connection runs).imp_right stays
    | some point =>
      rw [at_] at started
      cases point <;> exact started
  sink := inv.sink
  current := inv.current

/-- A step that only moves `start_writer` or the slots. -/
theorem Inv.goto (inv : box.Inv quiet) {wsSink writeTx writerHandle : Option Nat}
    {starting : Option (Opener × StartAt)}
    (started : Started quiet { box with wsSink, writeTx, starting, writerHandle }
      (starting.map Prod.snd))
    (sink : ∀ sink, wsSink = some sink →
      sink + 1 = box.opened + if starting.map Prod.snd = some .spawn then 1 else 0) :
    Inv quiet { box with wsSink, writeTx, starting, writerHandle } where
  fits := inv.fits
  latest := inv.latest
  started := started
  sink := sink
  current := inv.current

/-- What is known at a point of `start_writer`. -/
theorem Inv.at_ (inv : box.Inv quiet) {starting : Option (Opener × StartAt)}
    (at_ : box.starting = starting) : box.Started quiet (starting.map Prod.snd) ∧
      ∀ sink, box.wsSink = some sink →
        sink + 1 = box.opened + if starting.map Prod.snd = some .spawn then 1 else 0 := by
  rw [← at_]
  exact ⟨inv.started, inv.sink⟩

/-- A caller locks `write_tx` while writers may still be started. -/
theorem Inv.lockWriteTx (inv : box.Inv quiet) {opener : Opener} (open_ : ¬ quiet)
    (stepped : box.lockWriteTx opener = some next) : next.Inv quiet := by
  simp only [Outbox.lockWriteTx, Option.ite_none_right_eq_some, Option.some.injEq] at stepped
  obtain ⟨free, rfl⟩ := stepped
  obtain ⟨started, sink⟩ := inv.at_ free
  exact inv.goto (fun connection runs => (started connection runs).resolve_right open_) sink

theorem connections_spawn (box : Outbox) (other : Nat) : box.spawn.connections other =
    if other = box.opened then { writer := .receiving, current := box.generation + 1, clones := 1 }
    else box.connections other :=
  Function.update_apply ..

/-- The new writer is the only one that runs, on the sink just installed. -/
theorem Inv.spawn (inv : box.Inv quiet) {opener : Opener}
    (at_ : box.starting = some (opener, .spawn)) : box.spawn.Inv quiet := by
  obtain ⟨nobody, sink⟩ := inv.at_ at_
  have only {other : Nat} (runs : box.spawn.Runs other) : other = box.opened := by
    by_contra elsewhere
    rw [Runs, connections_spawn, if_neg elsewhere] at runs
    exact nobody other runs
  exact {
    fits := fun other => by
      rw [connections_spawn]
      split
      · exact ⟨fun _ => rfl, List.nil_prefix, nofun, nofun⟩
      · exact inv.fits other
    latest := fun other runs => congrArg (· + 1) (only runs)
    started := fun other runs => .inl (congrArg some (only runs).symm)
    sink := sink
    current := fun other => by
      rw [connections_spawn]
      split
      · exact Nat.le_refl _
      · exact Nat.le_succ_of_le (inv.current other) }

/-- A step of `start_writer`. The previous writer is over before the sink is replaced, and the sink is
replaced before the next writer is spawned. -/
theorem Inv.advance (inv : box.Inv quiet) (stepped : box.advance = some next) : next.Inv quiet := by
  unfold Outbox.advance at stepped
  split at stepped
  case h_1 opener at_ =>
    obtain ⟨started, sink⟩ := inv.at_ at_
    cases handle : box.writerHandle with
    | none =>
      rw [handle] at stepped
      cases stepped
      exact inv.goto (fun connection runs => handle ▸ started connection runs) sink
    | some previous =>
      rw [handle] at stepped
      cases stepped
      have stopped : Inv quiet (box.abort previous) := inv.abort
      refine stopped.goto (fun connection runs => ?_) sink
      have left := (stopped.at_ at_).1 connection runs
      exact handle ▸ left
  case h_2 opener previous at_ =>
    obtain ⟨started, sink⟩ := inv.at_ at_
    simp only [Option.ite_none_right_eq_some, Option.some.injEq] at stepped
    obtain ⟨finished, rfl⟩ := stepped
    refine inv.goto (fun connection runs => ?_) sink
    have only := started connection runs
    rw [only] at finished
    have both := finished.symm.trans runs
    cases both
  case h_3 opener at_ =>
    obtain ⟨nobody, -⟩ := inv.at_ at_
    simp only [Option.ite_none_right_eq_some, Option.some.injEq] at stepped
    obtain ⟨-, rfl⟩ := stepped
    refine inv.goto nobody ?_
    rintro _ ⟨⟩
    rfl
  case h_4 opener at_ =>
    cases stepped
    exact inv.spawn at_
  case h_5 => cases stepped

/-- Dropping the caller of `start_writer` may leave a writer without a handle. -/
theorem Inv.abandon (inv : box.Inv quiet) (shut : quiet) (stepped : box.abandon = some next) :
    next.Inv quiet := by
  unfold Outbox.abandon at stepped
  split at stepped
  case h_1 at_ | h_2 at_ | h_3 at_ =>
    cases stepped
    exact inv.goto (fun _ _ => .inr shut) (inv.at_ at_).2
  all_goals cases stepped

theorem Inv.clearWriteTx (inv : box.Inv quiet) (stepped : box.clearWriteTx = some next) :
    next.Inv quiet := by
  simp only [Outbox.clearWriteTx, Option.ite_none_right_eq_some, Option.some.injEq] at stepped
  obtain ⟨-, rfl⟩ := stepped
  exact inv.goto inv.started inv.sink

theorem Inv.clearSink (inv : box.Inv quiet) (stepped : box.clearSink = some next) :
    next.Inv quiet := by
  simp only [Outbox.clearSink, Option.ite_none_right_eq_some, Option.some.injEq] at stepped
  obtain ⟨-, rfl⟩ := stepped
  exact inv.goto inv.started nofun

/-- A closing caller takes the writer's handle. -/
theorem Inv.takeHandle (inv : box.Inv quiet) (shut : quiet) (free : box.starting = none) :
    Inv quiet { box with writerHandle := none } := by
  refine inv.goto ?_ inv.sink
  rw [free]
  exact fun _ _ => .inr shut

/-! ### What an operation leaves alone -/

/-- Somebody moved who neither starts a writer nor takes its handle. -/
structure Beside (box after : Outbox) : Prop where
  starting : after.starting = box.starting
  opened : after.opened = box.opened
  handle : after.writerHandle = box.writerHandle
  fewer : ∀ connection, after.Runs connection → box.Runs connection
  aborted : ∀ connection, (box.connections connection).aborted = true →
    (after.connections connection).aborted = true

theorem Beside.refl (box : Outbox) : Beside box box := ⟨rfl, rfl, rfl, fun _ => id, fun _ => id⟩

theorem Beside.trans {middle : Outbox} (left : Beside box middle) (right : Beside middle next) :
    Beside box next where
  starting := right.starting.trans left.starting
  opened := right.opened.trans left.opened
  handle := right.handle.trans left.handle
  fewer := fun connection runs => left.fewer connection (right.fewer connection runs)
  aborted := fun connection aborted => right.aborted connection (left.aborted connection aborted)

/-- Sink, sender and generation are nobody's handle. -/
theorem Beside.slots (beside : Beside box next) {wsSink writeTx : Option Nat}
    {sinkHolder : Option SinkHolder} {generation : Nat} :
    Beside box { next with wsSink, sinkHolder, writeTx, generation } :=
  ⟨beside.starting, beside.opened, beside.handle, beside.fewer, beside.aborted⟩

theorem Beside.update {change : Connection → Connection}
    (fewer : (change (box.connections connection)).writer.isFinished = false → box.Runs connection)
    (aborted : (box.connections connection).aborted = true →
      (change (box.connections connection)).aborted = true) :
    Beside box (box.update connection change) where
  starting := rfl
  opened := rfl
  handle := rfl
  fewer := fun other runs => by
    rw [Runs, connections_update] at runs
    split at runs
    · rename_i same
      exact same ▸ fewer runs
    · exact runs
  aborted := fun other before => by
    rw [connections_update]
    split
    · rename_i same
      exact aborted (same ▸ before)
    · exact before

theorem Beside.moveWriter {writer : RunWriterAt} (runs : box.Runs connection) :
    Beside box (box.moveWriter connection writer) := .update (fun _ => runs) id

theorem Beside.finish : Beside box (box.finish connection) :=
  (update (fun runs => by cases runs) id).slots

theorem Beside.abort : Beside box (box.abort connection) := .update id fun _ => rfl

theorem Beside.handOver {failure : WriteFailure} (runs : box.Runs connection) (received : Bool) :
    Beside box (box.handOver connection failure received) := by
  cases received with
  | false => exact moveWriter runs
  | true => exact (update id id).trans finish

theorem Beside.writerStep {input : RunWriterInput}
    (stepped : box.writerStep connection input = some next) : Beside box next := by
  simp only [Outbox.writerStep] at stepped
  split at stepped
  case h_1 at_ =>
    have runs : box.Runs connection := by rw [Runs, at_]; rfl
    split at stepped
    · cases stepped
      exact update (fun _ => runs) id
    · split at stepped <;> cases stepped
      exact finish
  case h_2 text at_ =>
    have runs : box.Runs connection := by rw [Runs, at_]; rfl
    split at stepped
    · split at stepped <;> cases stepped
      · exact (moveWriter runs).slots
      · exact finish
    · cases stepped
  case h_3 sink text at_ =>
    have runs : box.Runs connection := by rw [Runs, at_]; rfl
    cases stepped
    refine (update id id).trans (moveWriter ?_)
    rw [Runs, connections_update]
    split
    · rename_i same
      exact same ▸ runs
    · exact runs
  case h_4 at_ =>
    cases stepped
    exact (moveWriter (by rw [Runs, at_]; rfl)).slots
  case h_5 at_ | h_6 at_ =>
    cases stepped
    exact moveWriter (by rw [Runs, at_]; rfl)
  case h_7 failure at_ =>
    cases stepped
    split
    · exact moveWriter (by rw [Runs, at_]; rfl)
    · exact finish
  case h_8 =>
    split at stepped <;> cases stepped
    exact finish
  case h_9 => cases stepped

theorem Beside.cloneSender (cloned : box.cloneSender = some next) : Beside box next := by
  unfold Outbox.cloneSender at cloned
  split at cloned <;> cases cloned
  exact update id id

theorem Beside.put {text : String} (queued : box.put connection text = some next) :
    Beside box next := by
  simp only [Outbox.put, Option.ite_none_right_eq_some, Option.some.injEq] at queued
  obtain ⟨-, rfl⟩ := queued
  exact update id id

theorem Beside.dropSender (dropped : box.dropSender connection = some next) : Beside box next := by
  simp only [Outbox.dropSender, Option.ite_none_right_eq_some, Option.some.injEq] at dropped
  obtain ⟨-, rfl⟩ := dropped
  exact update id id

theorem Beside.retire : Beside box box.retire := (refl box).slots

/-- The sender is dropped only while no `start_writer` holds `write_tx`. -/
theorem Beside.clearWriteTx (cleared : box.clearWriteTx = some next) :
    box.starting = none ∧ Beside box next := by
  simp only [Outbox.clearWriteTx, Option.ite_none_right_eq_some, Option.some.injEq] at cleared
  obtain ⟨free, rfl⟩ := cleared
  exact ⟨free, (refl box).slots⟩

theorem Beside.clearSink (cleared : box.clearSink = some next) : Beside box next := by
  simp only [Outbox.clearSink, Option.ite_none_right_eq_some, Option.some.injEq] at cleared
  obtain ⟨-, rfl⟩ := cleared
  exact (refl box).slots

/-! ### Where `start_writer` is -/

theorem lockWriteTx_free {opener : Opener} (locked : box.lockWriteTx opener = some next) :
    box.starting = none ∧ next = { box with starting := some (opener, .lockHandle) } := by
  simp only [lockWriteTx, Option.ite_none_right_eq_some, Option.some.injEq] at locked
  exact ⟨locked.1, locked.2.symm⟩

theorem starting_of_startAt {point : StartAt} (at_ : box.startAt = some point) :
    ∃ opener, box.starting = some (opener, point) := by
  obtain ⟨⟨opener, other⟩, starting, rfl⟩ := Option.map_eq_some_iff.mp at_
  exact ⟨opener, starting⟩

/-- The last step of `start_writer` is the spawn. -/
theorem advance_starting (advanced : box.advance = some next) :
    next.starting = none ↔ box.startAt = some .spawn := by
  unfold advance at advanced
  split at advanced
  case h_1 opener at_ =>
    cases advanced
    simp [startAt, at_]
  case h_2 opener previous at_ =>
    split at advanced <;> cases advanced
    simp [startAt, at_]
  case h_3 opener at_ =>
    split at advanced <;> cases advanced
    simp [startAt, at_]
  case h_4 opener at_ =>
    cases advanced
    simp [startAt, at_, spawn]
  case h_5 => cases advanced

theorem advance_spawn (advanced : box.advance = some next) (spawn : box.startAt = some .spawn) :
    next = box.spawn := by
  obtain ⟨opener, at_⟩ := starting_of_startAt spawn
  rw [advance, at_] at advanced
  exact (Option.some.inj advanced).symm

/-- A step of `start_writer` before the spawn. -/
theorem advance_frame (advanced : box.advance = some next) (unspawned : box.startAt ≠ some .spawn) :
    next.opened = box.opened ∧ ∃ opener before point, box.starting = some (opener, before) ∧
      next.starting = some (opener, point) := by
  unfold advance at advanced
  split at advanced
  case h_1 opener at_ =>
    cases advanced
    refine ⟨?_, opener, _, _, at_, rfl⟩
    cases box.writerHandle <;> rfl
  case h_2 opener previous at_ =>
    split at advanced <;> cases advanced
    exact ⟨rfl, opener, _, _, at_, rfl⟩
  case h_3 opener at_ =>
    split at advanced <;> cases advanced
    exact ⟨rfl, opener, _, _, at_, rfl⟩
  case h_4 opener at_ => simp [startAt, at_] at unspawned
  case h_5 => cases advanced

/-- What `start_writer` does before the spawn leaves its caller where it is. -/
theorem advance_callers (advanced : box.advance = some next) (unspawned : box.startAt ≠ some .spawn)
    {opener : Opener} {point : StartAt} (starting : next.starting = some (opener, point)) :
    ∃ before, box.starting = some (opener, before) := by
  obtain ⟨-, other, before, _, was, is⟩ := advance_frame advanced unspawned
  rw [starting] at is
  cases is
  exact ⟨before, was⟩

theorem abandon_frame (abandoned : box.abandon = some next) :
    next.starting = none ∧ next.opened = box.opened := by
  unfold abandon at abandoned
  split at abandoned <;> cases abandoned <;> exact ⟨rfl, rfl⟩

end Outbox

end FugleMarketdata
