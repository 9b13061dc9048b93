/-
**Who may still report a failed write.** The writers, the sender slot and the sink slot of
`core/src/websocket/aio/writer.rs`, over whole runs of the async client: a `connect()`, connections lost
and replaced, failed writes, callers that hold senders of connections long gone, and a call that closes
the client.

* `Outbox.Keeps` — what every step but a spawn and a writer's own leaves alone;
* `AioRun.Reported` — what has been reported of each connection, and who may still report;
* `aioRun_reported` — in every run a failed write is counted as reported at most once, and never after its
  connection was reported lost.
-/

import FugleMarketdata.Websocket.AioOrder

namespace FugleMarketdata

open StepMachines StepMachine

/-! ### The slots between two spawns -/

/-- The writer may still report its failed write itself. -/
def RunWriterAt.reports : RunWriterAt → Bool
  | checking _ | reporting _ => true
  | _ => false

namespace Outbox

/-- No writer moves, and the generation does not fall. -/
structure Keeps (before after : Outbox) : Prop where
  writer : ∀ connection,
    (after.connections connection).writer = (before.connections connection).writer
  current : ∀ connection,
    (after.connections connection).current = (before.connections connection).current
  handed : ∀ connection,
    (after.connections connection).handed = (before.connections connection).handed
  generation : before.generation ≤ after.generation
  opened : after.opened = before.opened

/-- A writer that has finished stays so, what was handed over stays, and the generation does not
fall. -/
structure Advances (before after : Outbox) : Prop where
  finished : ∀ connection, (before.connections connection).writer.isFinished = true →
    (after.connections connection).writer.isFinished = true
  current : ∀ connection,
    (after.connections connection).current = (before.connections connection).current
  handed : ∀ connection, (before.connections connection).handed ≠ none →
    (after.connections connection).handed ≠ none
  generation : before.generation ≤ after.generation
  opened : after.opened = before.opened

namespace Keeps

variable {box after : Outbox} {connection : Nat}

theorem advances (keeps : Keeps box after) : Advances box after where
  finished := fun connection finished => by rw [keeps.writer connection]; exact finished
  current := keeps.current
  handed := fun connection handed => by rw [keeps.handed connection]; exact handed
  generation := keeps.generation
  opened := keeps.opened

theorem refl (box : Outbox) : Keeps box box :=
  ⟨fun _ => rfl, fun _ => rfl, fun _ => rfl, Nat.le_refl _, rfl⟩

theorem of_slots {wsSink writeTx writerHandle : Option Nat} {sinkHolder : Option SinkHolder}
    {starting : Option (Opener × StartAt)} :
    Keeps box { box with wsSink, sinkHolder, writeTx, starting, writerHandle } :=
  ⟨fun _ => rfl, fun _ => rfl, fun _ => rfl, Nat.le_refl _, rfl⟩

/-- A change of what the callers hold. -/
theorem of_update {change : Connection → Connection}
    (same : ∀ conn, (change conn).writer = conn.writer ∧ (change conn).current = conn.current ∧
      (change conn).handed = conn.handed) : Keeps box (box.update connection change) := by
  refine ⟨fun other => ?_, fun other => ?_, fun other => ?_, Nat.le_refl _, rfl⟩ <;>
    rw [connections_update] <;> split
  · rename_i here
    rw [(same _).1, here]
  · rfl
  · rename_i here
    rw [(same _).2.1, here]
  · rfl
  · rename_i here
    rw [(same _).2.2, here]
  · rfl

theorem trans {middle : Outbox} (left : Keeps box middle) (right : Keeps middle after) :
    Keeps box after where
  writer := fun connection => (right.writer connection).trans (left.writer connection)
  current := fun connection => (right.current connection).trans (left.current connection)
  handed := fun connection => (right.handed connection).trans (left.handed connection)
  generation := left.generation.trans right.generation
  opened := right.opened.trans left.opened

theorem abort : Keeps box (box.abort connection) := of_update fun _ => ⟨rfl, rfl, rfl⟩

theorem retire : Keeps box box.retire :=
  ⟨fun _ => rfl, fun _ => rfl, fun _ => rfl, Nat.le_succ _, rfl⟩

/-- `start_writer` before its spawn. -/
theorem advance (advanced : box.advance = some after) (unspawned : box.startAt ≠ some .spawn) :
    Keeps box after := by
  unfold Outbox.advance at advanced
  split at advanced
  case h_1 =>
    cases advanced
    cases box.writerHandle with
    | none => exact of_slots
    | some previous => exact abort.trans of_slots
  case h_2 | h_3 =>
    split at advanced <;> cases advanced
    exact of_slots
  case h_4 opener at_ => simp [startAt, at_] at unspawned
  case h_5 => cases advanced

theorem lockWriteTx {opener : Opener} (locked : box.lockWriteTx opener = some after) :
    Keeps box after := by
  obtain ⟨-, rfl⟩ := Outbox.lockWriteTx_free locked
  exact of_slots

theorem abandon (abandoned : box.abandon = some after) : Keeps box after := by
  unfold Outbox.abandon at abandoned
  split at abandoned <;> cases abandoned <;> exact of_slots

theorem clearWriteTx (cleared : box.clearWriteTx = some after) : Keeps box after := by
  simp only [Outbox.clearWriteTx, Option.ite_none_right_eq_some, Option.some.injEq] at cleared
  obtain ⟨-, rfl⟩ := cleared
  exact of_slots

theorem clearSink (cleared : box.clearSink = some after) : Keeps box after := by
  simp only [Outbox.clearSink, Option.ite_none_right_eq_some, Option.some.injEq] at cleared
  obtain ⟨-, rfl⟩ := cleared
  exact of_slots

theorem cloneSender (cloned : box.cloneSender = some after) : Keeps box after := by
  unfold Outbox.cloneSender at cloned
  split at cloned <;> cases cloned
  exact of_update fun _ => ⟨rfl, rfl, rfl⟩

theorem put {text : String} (queued : box.put connection text = some after) : Keeps box after := by
  simp only [Outbox.put, Option.ite_none_right_eq_some, Option.some.injEq] at queued
  obtain ⟨-, rfl⟩ := queued
  exact of_update fun _ => ⟨rfl, rfl, rfl⟩

theorem dropSender (dropped : box.dropSender connection = some after) : Keeps box after := by
  simp only [Outbox.dropSender, Option.ite_none_right_eq_some, Option.some.injEq] at dropped
  obtain ⟨-, rfl⟩ := dropped
  exact of_update fun _ => ⟨rfl, rfl, rfl⟩

end Keeps

/-- Only the writer of this connection moves, and it had not finished. -/
structure MovesWriter (box : Outbox) (connection : Nat) (after : Outbox) : Prop where
  advances : Advances box after
  others : ∀ other, other ≠ connection →
    (after.connections other).writer = (box.connections other).writer

namespace MovesWriter

variable {box after : Outbox} {connection : Nat}

theorem update {change : Connection → Connection} (runs : box.Runs connection)
    (same : (change (box.connections connection)).current = (box.connections connection).current)
    (handed : (change (box.connections connection)).handed = none →
      (box.connections connection).handed = none) :
    MovesWriter box connection (box.update connection change) where
  advances := {
    finished := fun other finished => by
      rw [connections_update, if_neg]
      · exact finished
      · rintro rfl
        rw [Runs, finished] at runs
        cases runs
    current := fun other => by
      rw [connections_update]
      split
      · rename_i here
        rw [same, here]
      · rfl
    handed := fun other before => by
      rw [connections_update]
      split
      · rename_i here
        exact mt handed (here ▸ before)
      · exact before
    generation := Nat.le_refl _
    opened := rfl }
  others := fun other elsewhere => by rw [connections_update, if_neg elsewhere]

theorem holder (moves : MovesWriter box connection after) (sinkHolder : Option SinkHolder) :
    MovesWriter box connection { after with sinkHolder } where
  advances := ⟨moves.advances.finished, moves.advances.current, moves.advances.handed,
    moves.advances.generation, moves.advances.opened⟩
  others := moves.others

theorem moveWriter {writer : RunWriterAt} (runs : box.Runs connection) :
    MovesWriter box connection (box.moveWriter connection writer) := .update runs rfl id

theorem finish (runs : box.Runs connection) : MovesWriter box connection (box.finish connection) :=
  (update runs rfl id).holder _

theorem handOver {failure : WriteFailure} {received : Bool} (runs : box.Runs connection) :
    MovesWriter box connection (box.handOver connection failure received) := by
  cases received with
  | false => exact moveWriter runs
  | true =>
    show MovesWriter box connection (Outbox.finish (box.update connection _) connection)
    rw [Outbox.finish, update_update]
    exact (update runs rfl fun absent => by cases absent).holder _

/-- A step of a writer up to the report: it comes to the report only as the writer of the current
generation. -/
theorem writerStep {quiet : Prop} {input : RunWriterInput} (inv : box.Inv quiet)
    (stepped : box.writerStep connection input = some after) :
    MovesWriter box connection after ∧
      ((after.connections connection).writer.reports = true →
        (box.connections connection).writer.reports = true ∧
          (box.connections connection).current = box.generation) := by
  have finishes (runs : box.Runs connection) : MovesWriter box connection (box.finish connection) ∧
      (((box.finish connection).connections connection).writer.reports = true →
        (box.connections connection).writer.reports = true ∧
          (box.connections connection).current = box.generation) := by
    refine ⟨finish runs, fun reports => ?_⟩
    rw [finish_writer] at reports
    cases reports
  simp only [Outbox.writerStep] at stepped
  split at stepped
  case h_1 at_ =>
    have runs : box.Runs connection := by rw [Runs, at_]; rfl
    split at stepped
    · cases stepped
      exact ⟨update runs rfl id, by simp [RunWriterAt.reports]⟩
    · split at stepped <;> cases stepped
      exact finishes runs
  case h_2 text at_ =>
    have runs : box.Runs connection := by rw [Runs, at_]; rfl
    split at stepped
    · split at stepped <;> cases stepped
      · exact ⟨(moveWriter runs).holder _, by simp [Outbox.moveWriter, RunWriterAt.reports]⟩
      · exact finishes runs
    · cases stepped
  case h_3 sink text at_ =>
    have runs : box.Runs connection := by rw [Runs, at_]; rfl
    obtain rfl := (inv.fits connection).sink sink text at_
    cases stepped
    rw [Outbox.moveWriter, update_update]
    exact ⟨update runs rfl id, by simp [RunWriterAt.reports]⟩
  case h_4 at_ =>
    have runs : box.Runs connection := by rw [Runs, at_]; rfl
    cases stepped
    exact ⟨(moveWriter runs).holder none, by simp [Outbox.moveWriter, RunWriterAt.reports]⟩
  case h_5 at_ | h_6 at_ =>
    have runs : box.Runs connection := by rw [Runs, at_]; rfl
    cases stepped
    exact ⟨moveWriter runs, by simp [Outbox.moveWriter, RunWriterAt.reports]⟩
  case h_7 failure at_ =>
    have runs : box.Runs connection := by rw [Runs, at_]; rfl
    cases stepped
    split
    · rename_i own
      exact ⟨moveWriter runs, fun _ => ⟨by rw [at_]; rfl, own.symm⟩⟩
    · exact finishes runs
  case h_8 =>
    split at stepped <;> cases stepped
    rename_i aborted
    refine finishes ?_
    cases at_ : (box.connections connection).writer with
    | finished =>
      rw [at_] at aborted
      cases aborted.2
    | _ =>
      rw [Runs, at_]
      rfl
  case h_9 => cases stepped

end MovesWriter

end Outbox

/-! ### What has been reported -/

/-- A write that failed is not reported again, nor once its connection or the client was reported
closed. -/
def Report.Allows (earlier later : Report) : Prop :=
  ∀ connection, later = .writeFailed connection →
    earlier ≠ .writeFailed connection ∧ earlier ≠ .lost connection ∧ earlier ≠ .closed

/-- The end of the connection the task reads has not been reported. -/
def LoopAt.unreported : LoopAt → Bool
  | .reading _ | .deciding _ _ | .reporting _ _ _ => true
  | _ => false

/-- The task is about to report this end of its connection. -/
def LoopAt.ends : LoopAt → Option Ending
  | .deciding _ ending | .reporting _ ending _ => some ending
  | _ => none

namespace AioRun

variable {sh : Shared} {run next : AioRun}

/-- Somebody reads the connection, or will, and may report its end. -/
def Reads (run : AioRun) (connection : Nat) : Prop :=
  run.connect.receives = some connection ∨ run.task.isOver = false ∧
    (run.incoming = some connection ∨ run.taskConnection = connection ∧ run.task.unreported = true)

theorem Reads.receives {connection : Nat} (reads : run.Reads connection) :
    run.receives connection = true := by
  refine receives_iff.mpr (reads.imp_right fun task => ⟨task.1, ?_⟩)
  rcases task.2 with given | ⟨read, -⟩
  · exact .inr given
  · exact .inl read

theorem receives_fewer {after : AioRun} {connection : Nat} (before : run.receives connection = false)
    (fewer : after.receives connection = true → run.receives connection = true) :
    after.receives connection = false := by
  by_contra received
  have still := fewer (Bool.not_eq_false _ ▸ received)
  rw [before] at still
  cases still

/-- What has been reported, and who may still report. A connection that was reported lost has its writer
retired, or the task is about to; a writer that may report its failed write has nobody to hand it to. -/
structure Reported (run : AioRun) : Prop where
  order : run.reports.Pairwise Report.Allows
  inside : ∀ connection, .writeFailed connection ∈ run.reports ∨ .lost connection ∈ run.reports →
    connection < run.outbox.opened
  finished : ∀ connection, .writeFailed connection ∈ run.reports →
    (run.outbox.connections connection).writer.isFinished = true
  unread : ∀ connection, .writeFailed connection ∈ run.reports ∨ .lost connection ∈ run.reports →
    ¬ run.Reads connection
  stale : ∀ connection, .lost connection ∈ run.reports →
    (run.outbox.connections connection).current < run.outbox.generation ∨
      (∃ close, run.task = .returned close) ∧ run.retired = false ∧ run.taskConnection = connection
  silent : ∀ connection, (run.outbox.connections connection).writer.reports = true →
    run.receives connection = false
  unlost : ∀ connection failure, (run.outbox.connections connection).writer = .reporting failure →
    .lost connection ∉ run.reports
  closed : .closed ∈ run.reports → ∃ forced, run.closer = .done forced
  unretired : run.task.unreported = true → run.retired = false ∧ run.incoming = none
  handed : ∀ info text, run.task.ends = some (.writeFailed info text) →
    (run.outbox.connections run.taskConnection).handed ≠ none

theorem Reported.start (config : ReconnectionConfig) : Reported { mgr := .new config } where
  order := .nil
  inside := fun _ member => by rcases member with member | member <;> cases member
  finished := fun _ member => by cases member
  unread := fun _ member => by rcases member with member | member <;> cases member
  stale := fun _ member => by cases member
  silent := nofun
  unlost := nofun
  closed := fun member => by cases member
  unretired := nofun
  handed := nofun

/-- A step that reports nothing and lets nobody read who did not. -/
theorem Reported.moves (reported : run.Reported) {client : Client} {mgr : ReconnectionManager}
    {shutdownRequested retired taskAborted : Bool} {outbox : Outbox} {connect : AioConnectAt}
    {closer : AioCloseAt} {task : LoopAt} {taskConnection spawned : Nat}
    {incoming dispatchHandle : Option Nat} (advances : run.outbox.Advances outbox)
    (reads : ∀ connection, Reads { run with connect, task, taskConnection, incoming } connection →
      run.Reads connection)
    (silent : ∀ connection, (outbox.connections connection).writer.reports = true →
      receives { run with connect, task, taskConnection, incoming } connection = false)
    (unlost : ∀ connection failure, (outbox.connections connection).writer = .reporting failure →
      .lost connection ∉ run.reports)
    (stays : ∀ close, run.task = .returned close → run.retired = false →
      task = .returned close ∧ retired = false ∧ taskConnection = run.taskConnection ∨
        (run.outbox.connections run.taskConnection).current < outbox.generation)
    (closed : ∀ forced, run.closer = .done forced → closer = .done forced)
    (unretired : task.unreported = true → retired = false ∧ incoming = none)
    (handed : ∀ info text, task.ends = some (.writeFailed info text) →
      (run.outbox.connections taskConnection).handed ≠ none) :
    Reported { run with
      client, mgr, shutdownRequested, outbox, connect, closer, task, taskConnection, incoming, retired,
      taskAborted, spawned, dispatchHandle } where
  order := reported.order
  inside := fun connection member => advances.opened ▸ reported.inside connection member
  finished := fun connection member => advances.finished connection (reported.finished connection member)
  unread := fun connection member read => reported.unread connection member (reads connection read)
  stale := fun connection member => by
    rcases reported.stale connection member with below | ⟨⟨close, returned⟩, fresh, same⟩
    · left
      show (outbox.connections connection).current < outbox.generation
      rw [advances.current connection]
      exact Nat.lt_of_lt_of_le below advances.generation
    · rcases stays close returned fresh with ⟨still, unretired, kept⟩ | above
      · exact .inr ⟨⟨close, still⟩, unretired, kept.trans same⟩
      · left
        show (outbox.connections connection).current < outbox.generation
        rw [advances.current connection, ← same]
        exact above
  silent := silent
  unlost := unlost
  closed := fun member => by
    obtain ⟨forced, done⟩ := reported.closed member
    exact ⟨forced, closed forced done⟩
  unretired := unretired
  handed := fun info text ends => advances.handed taskConnection (handed info text ends)

/-- A step that reports nothing and moves no writer, beside a task that stays where it is. -/
theorem Reported.beside (reported : run.Reported) {client : Client} {mgr : ReconnectionManager}
    {shutdownRequested taskAborted : Bool} {outbox : Outbox} {connect : AioConnectAt}
    {closer : AioCloseAt} {spawned : Nat} {dispatchHandle : Option Nat}
    (keeps : run.outbox.Keeps outbox)
    (receives : connect.receives = none ∨ connect.receives = run.connect.receives)
    (closed : ∀ forced, run.closer = .done forced → closer = .done forced) :
    Reported { run with
      client, mgr, shutdownRequested, outbox, connect, closer, taskAborted, spawned,
      dispatchHandle } := by
  have own {connection : Nat} (here : connect.receives = some connection) :
      run.connect.receives = some connection := by
    rcases receives with none | same
    · rw [none] at here
      cases here
    · exact same.symm.trans here
  refine reported.moves keeps.advances (fun connection reads => reads.imp_left own)
    (fun connection reports => ?_) (fun connection failure reporting => ?_)
    (fun close returned fresh => .inl ⟨returned, fresh, rfl⟩) closed reported.unretired reported.handed
  · rw [keeps.writer connection] at reports
    exact receives_fewer (reported.silent connection reports) fun received =>
      receives_iff.mpr ((receives_iff.mp received).imp_left own)
  · rw [keeps.writer connection] at reporting
    exact reported.unlost connection failure reporting

/-- One more report: of a connection that nobody reads any more, or of the close. -/
theorem Reported.adds (reported : run.Reported) {report : Report}
    (order : ∀ earlier ∈ run.reports, earlier.Allows report)
    (unread : ∀ connection, report = .writeFailed connection ∨ report = .lost connection →
      connection < run.outbox.opened ∧ ¬ run.Reads connection)
    (finished : ∀ connection, report = .writeFailed connection →
      (run.outbox.connections connection).writer.isFinished = true)
    (lost : ∀ connection, report = .lost connection →
      (∃ close, run.task = .returned close) ∧ run.retired = false ∧ run.taskConnection = connection)
    (closed : report = .closed → ∃ forced, run.closer = .done forced) :
    Reported { run with reports := run.reports ++ [report] } := by
  have known {other : Report} (member : other ∈ run.reports ++ [report]) :
      other ∈ run.reports ∨ report = other :=
    (List.mem_append.mp member).imp_right fun last => (List.mem_singleton.mp last).symm
  have either {first second : Report}
      (member : first ∈ run.reports ++ [report] ∨ second ∈ run.reports ++ [report]) :
      (first ∈ run.reports ∨ second ∈ run.reports) ∨ report = first ∨ report = second := by
    rcases member with member | member
    · exact (known member).imp .inl .inl
    · exact (known member).imp .inr .inr
  exact {
    order := by
      refine List.pairwise_append.mpr ⟨reported.order, List.pairwise_singleton _ _, ?_⟩
      intro earlier before later last
      rw [List.mem_singleton.mp last]
      exact order earlier before
    inside := fun connection member =>
      (either member).elim (reported.inside connection) fun new => (unread connection new).1
    finished := fun connection member =>
      (known member).elim (reported.finished connection) (finished connection)
    unread := fun connection member =>
      (either member).elim (reported.unread connection) fun new => (unread connection new).2
    stale := fun connection member =>
      (known member).elim (reported.stale connection) fun new => .inr (lost connection new)
    silent := reported.silent
    unlost := fun connection failure reporting member => by
      rcases known member with before | new
      · exact reported.unlost connection failure reporting before
      · -- the task that reports the loss would still receive the failed write
        obtain ⟨⟨close, returned⟩, -, same⟩ := lost connection new
        have nobody := reported.silent connection (by rw [reporting]; rfl)
        rw [receives_iff.mpr (.inr ⟨by rw [returned]; rfl, .inl same⟩)] at nobody
        cases nobody
    closed := fun member => (known member).elim reported.closed closed
    unretired := reported.unretired
    handed := reported.handed }

/-- A connection is reported lost by the task that has read it. -/
theorem Reported.adds_lost (reported : run.Reported) {connection : Nat}
    (inside : connection < run.outbox.opened) (unread : ¬ run.Reads connection)
    (returned : ∃ close, run.task = .returned close) (fresh : run.retired = false)
    (same : run.taskConnection = connection) :
    Reported { run with reports := run.reports ++ [.lost connection] } := by
  refine reported.adds nofun ?_ nofun ?_ nofun
  · rintro other (failed | ⟨⟨⟩⟩)
    · cases failed
    · exact ⟨inside, unread⟩
  · rintro other ⟨⟩
    exact ⟨returned, fresh, same⟩

/-- A failed write is reported, by the writer or by the task it was handed to. -/
theorem Reported.adds_failed (reported : run.Reported) {connection : Nat}
    (inside : connection < run.outbox.opened) (unread : ¬ run.Reads connection)
    (finished : (run.outbox.connections connection).writer.isFinished = true)
    (first : .writeFailed connection ∉ run.reports ∧ .lost connection ∉ run.reports ∧
      .closed ∉ run.reports) :
    Reported { run with reports := run.reports ++ [.writeFailed connection] } := by
  refine reported.adds ?_ ?_ ?_ nofun nofun
  · rintro earlier before other ⟨⟩
    obtain ⟨notFailed, notLost, notClosed⟩ := first
    exact ⟨fun same => notFailed (same ▸ before), fun same => notLost (same ▸ before),
      fun same => notClosed (same ▸ before)⟩
  · rintro other (⟨⟨⟩⟩ | lost)
    · exact ⟨inside, unread⟩
    · cases lost
  · rintro other ⟨⟩
    exact finished

/-- The client is reported closed. -/
theorem Reported.adds_closed (reported : run.Reported) (done : ∃ forced, run.closer = .done forced) :
    Reported { run with reports := run.reports ++ [.closed] } := by
  refine reported.adds nofun ?_ nofun nofun fun _ => done
  rintro connection (failed | lost)
  · cases failed
  · cases lost

/-! ### `connect` and the closing call -/

/-- A writer is spawned for a connection nothing was reported of. -/
theorem Reported.spawns (reported : run.Reported) {connect : AioConnectAt} {task : LoopAt}
    {incoming : Option Nat} (elsewhere : ∀ close, run.task ≠ .returned close)
    (calm : task.unreported = false ∧ task.ends = none)
    (reads : ∀ connection, Reads { run with connect, task, incoming } connection →
      connection = run.outbox.opened ∨ run.Reads connection)
    (receives : ∀ connection, AioRun.receives { run with connect, task, incoming } connection = true →
      connection = run.outbox.opened ∨ run.receives connection = true) :
    Reported { run with outbox := run.outbox.spawn, connect, task, incoming } := by
  have before {connection : Nat} (inside : connection < run.outbox.opened) :
      run.outbox.spawn.connections connection = run.outbox.connections connection := by
    rw [Outbox.connections_spawn, if_neg (Nat.ne_of_lt inside)]
  -- a writer that may report a failed write was there before the spawn
  have old {connection : Nat} {writer : RunWriterAt}
      (at_ : (run.outbox.spawn.connections connection).writer = writer)
      (reports : writer.reports = true) : connection ≠ run.outbox.opened ∧
        (run.outbox.connections connection).writer = writer := by
    rw [Outbox.connections_spawn] at at_
    split at at_
    · rw [← at_] at reports
      cases reports
    · rename_i elsewhere
      exact ⟨elsewhere, at_⟩
  exact {
    order := reported.order
    inside := fun connection member => Nat.lt_succ_of_lt (reported.inside connection member)
    finished := fun connection member => by
      show (run.outbox.spawn.connections connection).writer.isFinished = true
      rw [before (reported.inside connection (.inl member))]
      exact reported.finished connection member
    unread := fun connection member read => by
      rcases reads connection read with rfl | was
      · exact absurd (reported.inside _ member) (Nat.lt_irrefl _)
      · exact reported.unread connection member was
    stale := fun connection member => by
      rcases reported.stale connection member with below | ⟨⟨close, returned⟩, -⟩
      · left
        show (run.outbox.spawn.connections connection).current < run.outbox.generation + 1
        rw [before (reported.inside connection (.inr member))]
        exact Nat.lt_succ_of_lt below
      · exact absurd returned (elsewhere close)
    silent := fun connection reports => by
      obtain ⟨other, was⟩ := old rfl reports
      by_contra received
      rcases receives connection (Bool.not_eq_false _ ▸ received) with same | still
      · exact other same
      · rw [reported.silent connection (was ▸ reports)] at still
        cases still
    unlost := fun connection failure reporting =>
      reported.unlost connection failure (old reporting rfl).2
    closed := reported.closed
    unretired := fun unreported => by
      rw [calm.1] at unreported
      cases unreported
    handed := fun info text ends => by
      rw [calm.2] at ends
      cases ends }

/-- What `connect` does beside a task that is over. -/
theorem Reported.connectMove (inv : run.Inv) (reported : run.Reported)
    (move : ConnectMove sh run next) : next.Reported := by
  cases move with
  | moves _ _ _ _ _ _ _ _ receives => exact reported.beside (.refl _) receives fun _ => id
  | locks accepted locked => exact reported.beside (.lockWriteTx locked) (.inl rfl) fun _ => id
  | starts installing unspawned advanced =>
    exact reported.beside (.advance advanced unspawned) (.inr rfl) fun _ => id
  | installs installing spawn =>
    have ended : run.task.isOver = true := inv.ended (by rw [installing]; rfl)
    refine reported.spawns (fun close returned => ?_) ?_ (fun connection reads => ?_)
      fun connection received => ?_
    · rw [returned] at ended
      cases ended
    · cases at_ : run.task <;> rw [at_] at ended <;> first | exact ⟨rfl, rfl⟩ | cases ended
    · exact reads.imp (fun own => (Option.some.inj own).symm) fun task => .inr task
    · rcases receives_iff.mp received with own | task
      · exact .inl (Option.some.inj own).symm
      · exact .inr (receives_iff.mpr (.inr task))
  | opens authenticating =>
    exact reported.beside (.refl _) (.inr (by rw [authenticating]; rfl)) fun _ => id
  | spawns spawning =>
    have ended : run.task.isOver = true := inv.ended (by rw [spawning]; rfl)
    have own : run.connect.receives = some _ := congrArg AioConnectAt.receives spawning
    refine reported.moves (Outbox.Keeps.refl _).advances (fun connection reads => ?_)
      (fun connection reports => ?_) reported.unlost (fun close returned => ?_) (fun _ => id)
      (fun _ => ⟨rfl, rfl⟩) nofun
    · rcases reads with here | ⟨-, given | ⟨rfl, -⟩⟩
      · cases here
      · cases given
      · exact .inl own
    · refine receives_fewer (reported.silent connection reports) fun received => ?_
      rcases receives_iff.mp received with here | ⟨-, rfl | given⟩
      · cases here
      · exact receives_iff.mpr (.inl own)
      · cases given
    · rw [returned] at ended
      cases ended
  | stores storing => exact reported.beside (.refl _) (.inl rfl) fun _ => id

/-- A step of the closing call: it moves on, or reports the close. -/
inductive CloseMove (sh : Shared) (run : AioRun) : AioRun → Prop
  | moves {shutdownRequested taskAborted : Bool} {outbox : Outbox} {closer : AioCloseAt}
      {dispatchHandle : Option Nat} (keeps : run.outbox.Keeps outbox)
      (undone : ∀ forced, run.closer ≠ .done forced) :
      CloseMove sh run { run with shutdownRequested, outbox, closer, taskAborted, dispatchHandle }
  | reports {forced : Bool} {now : Nat} (reporting : run.closer = .reporting forced) :
      CloseMove sh run (run.reportClose sh now forced)

theorem takeDispatch_moves (awaiting following : AioCloseAt)
    (undone : ∀ forced, run.closer ≠ .done forced) :
    CloseMove sh run (run.takeDispatch awaiting following) := by
  unfold takeDispatch abortTask
  split
  · split <;> exact .moves (.refl _) undone
  · exact .moves (.refl _) undone

/-- **What a step of the closing call can do.** -/
theorem close_cases {input : AioCloseInput} (stepped : run.closeStep sh input = some next) :
    CloseMove sh run next := by
  unfold closeStep at stepped
  split at stepped
  case h_4 phase | h_22 phase =>
    obtain ⟨outbox, cleared, rfl⟩ := Option.map_eq_some_iff.mp stepped
    exact .moves (.clearWriteTx cleared) (by rw [phase]; nofun)
  case h_19 phase | h_24 phase =>
    obtain ⟨outbox, cleared, rfl⟩ := Option.map_eq_some_iff.mp stepped
    exact .moves (.clearSink cleared) (by rw [phase]; nofun)
  case h_5 phase =>
    split at stepped
    · split at stepped <;> cases stepped
      · exact .moves .of_slots (by rw [phase]; nofun)
      · exact .moves (.refl _) (by rw [phase]; nofun)
    · cases stepped
  case h_16 phase | h_23 phase =>
    split at stepped <;> cases stepped
    · exact .moves (Outbox.Keeps.abort.trans .of_slots) (by rw [phase]; nofun)
    · exact .moves (.refl _) (by rw [phase]; nofun)
  case h_18 phase | h_20 phase =>
    cases stepped
    exact takeDispatch_moves _ _ (by rw [phase]; nofun)
  case h_21 phase =>
    cases stepped
    exact .moves .retire (by rw [phase]; nofun)
  case h_25 forced now phase =>
    cases stepped
    exact .reports phase
  case h_6 phase | h_7 phase =>
    cases stepped
    exact .moves .of_slots (by rw [phase]; nofun)
  case h_3 phase | h_8 phase | h_10 phase | h_11 phase | h_17 phase =>
    split at stepped <;> cases stepped
    exact .moves (.refl _) (by rw [phase]; nofun)
  case h_26 => cases stepped
  all_goals
    rename_i phase
    cases stepped
    exact .moves (.refl _) (by rw [phase]; nofun)

/-- What the closing call does keeps what was reported, but for the close itself. -/
theorem Reported.closeMove (reported : run.Reported) (move : CloseMove sh run next) :
    next.Reported := by
  cases move with
  | moves keeps undone =>
    exact reported.beside keeps (.inr rfl) fun forced done => absurd done (undone forced)
  | @reports forced now reporting =>
    have moved : Reported { run with
        client := (run.reportClose sh now forced).client, closer := .done forced } :=
      reported.beside (.refl _) (.inr rfl) fun other done => by
        rw [reporting] at done
        cases done
    show Reported { run with
      client := (run.reportClose sh now forced).client
      closer := .done forced
      reports := run.reports ++ if run.client.stream.closeReported then [] else [.closed] }
    split
    · rw [List.append_nil]
      exact moved
    · exact moved.adds_closed ⟨forced, rfl⟩

/-! ### The dispatch task -/

/-- Where a step of the loop leads: to a report only from what is not reported, with an end only from
where that was seen, and on from a report. -/
structure Leads (input : Input) (before after : LoopAt) : Prop where
  unreported : after.unreported = true → before.unreported = true
  ends : ∀ ending, after.ends = some ending →
    before.ends = some ending ∨ (∃ last, before = .reading last) ∧ input = .ending ending
  returned : ∀ last ending willReconnect, before = .reporting last ending willReconnect →
    ∃ close, after = .returned close

theorem Leads.calm {input : Input} {before after : LoopAt} (unreported : after.unreported = false)
    (ends : after.ends = none) (elsewhere : before.ends = none) : Leads input before after where
  unreported := fun now => by rw [unreported] at now; cases now
  ends := fun ending now => by rw [ends] at now; cases now
  returned := fun last ending willReconnect at_ => by rw [at_] at elsewhere; cases elsewhere

theorem Leads.gate {input : Input} {before after : LoopAt} {loop : LoopRun}
    {result : Bool × Client × Outcome} (unreported : after.unreported = false)
    (ends : after.ends = none) (elsewhere : before.ends = none) :
    Leads input before (loop.afterGate result after).pc := by
  show Leads input before (if result.1 then after else .ended)
  split
  · exact .calm unreported ends elsewhere
  · exact .calm rfl rfl elsewhere

theorem Leads.reads {input : Input} {last next : Option Int} :
    Leads input (.reading last) (.reading next) where
  unreported := fun _ => rfl
  ends := fun _ seen => by cases seen
  returned := fun _ _ _ at_ => by cases at_

theorem Leads.sees {last : Option Int} {ending : Ending} :
    Leads (.ending ending) (.reading last) (.deciding last ending) where
  unreported := fun _ => rfl
  ends := fun _ seen => .inr ⟨⟨last, rfl⟩, congrArg Input.ending (Option.some.inj seen)⟩
  returned := fun _ _ _ at_ => by cases at_

theorem Leads.decides {input : Input} {last : Option Int} {ending : Ending} {willReconnect : Bool} :
    Leads input (.deciding last ending) (.reporting last ending willReconnect) where
  unreported := fun _ => rfl
  ends := fun _ seen => .inl seen
  returned := fun _ _ _ at_ => by cases at_

theorem Leads.reports {input : Input} {last : Option Int} {ending : Ending} {willReconnect : Bool}
    {close : ConnectionClose} :
    Leads input (.reporting last ending willReconnect) (.returned close) where
  unreported := fun now => by cases now
  ends := fun _ seen => by cases seen
  returned := fun _ _ _ _ => ⟨close, rfl⟩

theorem step_leads {loop after : LoopRun} {input : Input}
    (stepped : loop.step sh .aio input = some after) : Leads input loop.pc after.pc := by
  unfold LoopRun.step at stepped
  split at stepped
  case h_1 pc | h_2 pc =>
    cases stepped
    rw [pc]
    exact .reads
  case h_3 last ending pc =>
    cases stepped
    rw [pc]
    show Leads _ _ (if loop.stop then _ else _)
    split
    · exact .calm rfl rfl rfl
    · exact .sees
  case h_4 last ending now pc =>
    cases stepped
    rw [pc]
    exact .decides
  case h_5 last ending willReconnect now pc =>
    cases stepped
    rw [pc]
    exact .reports
  case h_6 pc =>
    rw [pc]
    split at stepped
    · cases stepped
      exact .calm rfl rfl rfl
    · simp only at stepped
      split at stepped <;> cases stepped <;> exact .calm rfl rfl rfl
  case h_8 pc | h_10 pc | h_13 pc | h_17 pc | h_18 pc | h_21 pc | h_23 pc =>
    cases stepped
    rw [pc]
    exact .gate rfl rfl rfl
  case h_9 pc | h_11 pc | h_19 pc | h_22 pc =>
    cases stepped
    rw [pc]
    show Leads _ _ (if loop.stop then _ else _)
    split <;> exact .calm rfl rfl rfl
  case h_15 pc =>
    rw [pc]
    split at stepped
    · cases stepped
      exact .calm rfl rfl rfl
    · split at stepped <;> cases stepped <;> exact .calm rfl rfl rfl
  case h_24 => cases stepped
  all_goals
    rename_i pc
    cases stepped
    rw [pc]
    exact .calm rfl rfl rfl

theorem dispatch_leads {loop after : LoopRun} {input : Input}
    (stepped : loop.dispatchStep sh (.task input) = some after) (elsewhere : loop.pc ≠ .opened)
    (replays : loop.pc = .replaying [] → ∀ now, input ≠ .tick now) : Leads input loop.pc after.pc := by
  simp only [LoopRun.dispatchStep] at stepped
  split at stepped
  case h_1 pc =>
    rw [pc]
    split at stepped
    · cases stepped
      exact .calm rfl rfl rfl
    · split at stepped <;> cases stepped <;> exact .calm rfl rfl rfl
  case h_2 pc =>
    cases stepped
    rw [pc]
    exact .gate rfl rfl rfl
  case h_3 pc => exact absurd pc elsewhere
  case h_4 now pc => exact absurd rfl (replays pc now)
  case h_5 => exact step_leads stepped

theorem endReports_cases (ending : Ending) : run.endReports ending = [] ∨
    run.endReports ending = [.lost run.taskConnection] ∨
    (∃ info text, ending = .writeFailed info text) ∧ run.client.stream.closeReported = false ∧
      (run.endReports ending = [.writeFailed run.taskConnection] ∨
        run.endReports ending = [.writeFailed run.taskConnection, .lost run.taskConnection]) := by
  cases reported : run.client.stream.closeReported <;>
    cases claimed : run.client.stream.disconnectClaimed <;> cases ending <;>
      simp [endReports, reported, claimed]

theorem going_of_unreported {task : LoopAt} (unreported : task.unreported = true) :
    task.isOver = false := by
  cases task <;> first | rfl | cases unreported

theorem unspawned_of_receives {connect : AioConnectAt} {connection : Nat}
    (receives : connect.receives = some connection) : connect.unspawned = true := by
  cases connect <;> first | rfl | cases receives

/-- The task's loop moves, before what it reports is counted. -/
theorem Reported.loops (reported : run.Reported) {input : Input} {client : Client}
    {mgr : ReconnectionManager} {task : LoopAt} (going : run.task.isOver = false)
    (leads : Leads input run.task task)
    (retired : ∀ close, run.task = .returned close → run.retired = true)
    (handed : ∀ last info text, run.task = .reading last → input = .ending (.writeFailed info text) →
      (run.outbox.connections run.taskConnection).handed ≠ none) :
    Reported { run with client, mgr, task } := by
  refine reported.moves (Outbox.Keeps.refl _).advances (fun connection reads => ?_)
    (fun connection reports => ?_) reported.unlost (fun close returned fresh => ?_) (fun _ => id)
    (fun unreported => reported.unretired (leads.unreported unreported)) fun info text ends => ?_
  · exact reads.imp_right fun task => ⟨going, task.2.imp_right fun read =>
      ⟨read.1, leads.unreported read.2⟩⟩
  · exact receives_fewer (reported.silent connection reports) fun received =>
      receives_iff.mpr ((receives_iff.mp received).imp_right fun task => ⟨going, task.2⟩)
  · have both := fresh.symm.trans (retired close returned)
    cases both
  · rcases leads.ends _ ends with before | ⟨⟨last, reading⟩, seen⟩
    · exact reported.handed info text before
    · exact handed last info text reading seen

/-- A step of the dispatch task's loop, with what it reports. -/
theorem Reported.taskLoop (inv : run.Inv) (reported : run.Reported) {input : Input}
    (elsewhere : run.task ≠ .opened)
    (retired : ∀ close, run.task = .returned close → run.retired = true)
    (handed : ∀ last info text, run.task = .reading last → input = .ending (.writeFailed info text) →
      (run.outbox.connections run.taskConnection).handed ≠ none)
    (replays : run.task = .replaying [] → ∀ now, input ≠ .tick now)
    (stepped : run.taskLoop sh input = some next) : next.Reported := by
  obtain ⟨loop, moved, going, -, -, rfl⟩ := taskLoop_cases stepped
  have leads : Leads input run.task loop.pc := dispatch_leads moved elsewhere replays
  have base : Reported { run with client := loop.client, mgr := loop.mgr, task := loop.pc } :=
    reported.loops going leads retired handed
  unfold taskReports
  split
  case h_2 =>
    rw [List.append_nil]
    exact base
  case h_1 last ending willReconnect at_ =>
    obtain ⟨close, returned⟩ := leads.returned last ending willReconnect at_
    have unreported : run.task.unreported = true := by rw [at_]; rfl
    obtain ⟨fresh, none⟩ := reported.unretired unreported
    have reads : run.Reads run.taskConnection := .inr ⟨going, .inr ⟨rfl, unreported⟩⟩
    have inside := inv.inside _ reads.receives
    have unread : ¬ Reads { run with client := loop.client, mgr := loop.mgr, task := loop.pc }
        run.taskConnection := by
      rintro (own | ⟨-, given | ⟨-, still⟩⟩)
      · rw [inv.ended (unspawned_of_receives own)] at going
        cases going
      · have both := none.symm.trans given
        cases both
      · rw [show loop.pc = _ from returned] at still
        cases still
    have failed (info : ErrorInfo) (text : String) (write : ending = .writeFailed info text)
        (open_ : run.client.stream.closeReported = false) :
        Reported { run with
          client := loop.client, mgr := loop.mgr, task := loop.pc,
          reports := run.reports ++ [.writeFailed run.taskConnection] } := by
      refine base.adds_failed inside unread ?_ ⟨fun member => ?_, fun member => ?_, fun member => ?_⟩
      · refine (inv.box.fits _).handed (reported.handed info text ?_)
        rw [at_, write]
        rfl
      · exact reported.unread _ (.inl member) reads
      · exact reported.unread _ (.inr member) reads
      · obtain ⟨forced, done⟩ := reported.closed member
        have both := open_.symm.trans (inv.shut forced done).1
        cases both
    rcases run.endReports_cases ending with
      nothing | lost | ⟨⟨info, text, write⟩, open_, alone | both⟩
    · rw [nothing, List.append_nil]
      exact base
    · rw [lost]
      exact base.adds_lost inside unread ⟨close, returned⟩ fresh rfl
    · rw [alone]
      exact failed info text write open_
    · rw [both, show run.reports ++ [Report.writeFailed run.taskConnection, .lost run.taskConnection] =
        run.reports ++ [.writeFailed run.taskConnection] ++ [.lost run.taskConnection] by simp]
      exact (failed info text write open_).adds_lost inside unread ⟨close, returned⟩ fresh rfl

/-- The task is over: it reads nothing any more. -/
theorem Reported.ends (reported : run.Reported) {outbox : Outbox} {mgr : ReconnectionManager}
    {task : LoopAt} (keeps : run.outbox.Keeps outbox)
    (elsewhere : ∀ close, run.task ≠ .returned close) (ended : task.isOver = true) :
    Reported { run with outbox, mgr, task } := by
  have unread {goal : Prop} (going : task.isOver = false) : goal := by
    rw [ended] at going
    cases going
  refine reported.moves keeps.advances (fun connection reads => reads.imp_right fun task => unread task.1)
    (fun connection reports => ?_) (fun connection failure reporting => ?_)
    (fun close returned => absurd returned (elsewhere close)) (fun _ => id) (fun unreported => ?_)
    fun info text ends => ?_
  · rw [keeps.writer connection] at reports
    exact receives_fewer (reported.silent connection reports) fun received =>
      receives_iff.mpr ((receives_iff.mp received).imp_right fun task => unread task.1)
  · rw [keeps.writer connection] at reporting
    exact reported.unlost connection failure reporting
  · exact unread (going_of_unreported unreported)
  · cases task with
    | deciding | reporting => cases ended
    | _ => cases ends

/-- What the dispatch task does keeps what was reported. -/
theorem Reported.taskMove (inv : run.Inv) (reported : run.Reported) (move : TaskMove sh run next) :
    next.Reported := by
  cases move with
  | loops elsewhere retired handed replays stepped =>
    exact reported.taskLoop inv elsewhere retired handed replays stepped
  | retires returned fresh =>
    refine reported.moves Outbox.Keeps.retire.advances (fun _ => id) reported.silent reported.unlost
      (fun _ _ _ => .inr (Nat.lt_succ_of_le (inv.box.current _))) (fun _ => id) (fun unreported => ?_)
      reported.handed
    rw [returned] at unreported
    cases unreported
  | locks opened running locked => exact reported.beside (.lockWriteTx locked) (.inr rfl) fun _ => id
  | starts opened unspawned advanced =>
    exact reported.beside (.advance advanced unspawned) (.inr rfl) fun _ => id
  | installs opened spawn =>
    have going : run.task.isOver = false := by rw [opened]; rfl
    refine reported.spawns (by rw [opened]; nofun) ⟨rfl, rfl⟩ (fun connection reads => ?_)
      fun connection received => ?_
    · rcases reads with own | ⟨-, given | ⟨-, unreported⟩⟩
      · exact .inr (.inl own)
      · exact .inl (Option.some.inj given).symm
      · cases unreported
    · rcases receives_iff.mp received with own | ⟨-, read | given⟩
      · exact .inr (receives_iff.mpr (.inl own))
      · exact .inr (receives_iff.mpr (.inr ⟨going, .inl read⟩))
      · exact .inl (Option.some.inj given).symm
  | reads replayed incoming =>
    have going : run.task.isOver = false := by rw [replayed]; rfl
    refine reported.moves (Outbox.Keeps.refl _).advances (fun connection reads => ?_)
      (fun connection reports => ?_) reported.unlost (by rw [replayed]; nofun) (fun _ => id)
      (fun _ => ⟨rfl, rfl⟩) nofun
    · rcases reads with own | ⟨-, given | ⟨rfl, -⟩⟩
      · exact .inl own
      · cases given
      · exact .inr ⟨going, .inl incoming⟩
    · refine receives_fewer (reported.silent connection reports) fun received => ?_
      rcases receives_iff.mp received with own | ⟨-, rfl | given⟩
      · exact receives_iff.mpr (.inl own)
      · exact receives_iff.mpr (.inr ⟨going, .inr incoming⟩)
      · cases given
  | ends going ended free => exact reported.ends (.refl _) going.2 ended
  | abandons going ended aborted abandoned => exact reported.ends (.abandon abandoned) going.2 ended

/-! ### The writers -/

/-- A writer moves, and may still report only where nobody receives its failed write. -/
theorem Reported.movesWriter (reported : run.Reported) {client : Client} {outbox : Outbox}
    {connection : Nat} (moves : run.outbox.MovesWriter connection outbox)
    (silent : (outbox.connections connection).writer.reports = true →
      run.receives connection = false)
    (unlost : ∀ failure, (outbox.connections connection).writer = .reporting failure →
      .lost connection ∉ run.reports) : Reported { run with client, outbox } := by
  refine reported.moves moves.advances (fun _ => id) (fun other reports => ?_)
    (fun other failure reporting => ?_) (fun close returned fresh => .inl ⟨returned, fresh, rfl⟩)
    (fun _ => id) reported.unretired reported.handed
  · by_cases here : other = connection
    · exact here ▸ silent (here ▸ reports)
    · rw [moves.others other here] at reports
      exact reported.silent other reports
  · by_cases here : other = connection
    · exact here ▸ unlost failure (here ▸ reporting)
    · rw [moves.others other here] at reporting
      exact reported.unlost other failure reporting

/-- A writer of the current generation whose failed write nobody receives has not been reported
lost. -/
theorem Reported.not_lost (reported : run.Reported) {connection : Nat}
    (silent : run.receives connection = false)
    (own : (run.outbox.connections connection).current = run.outbox.generation) :
    .lost connection ∉ run.reports := by
  intro lost
  rcases reported.stale connection lost with below | ⟨⟨close, returned⟩, -, same⟩
  · exact absurd own (Nat.ne_of_lt below)
  · rw [receives_iff.mpr (.inr ⟨by rw [returned]; rfl, .inl same⟩)] at silent
    cases silent

/-- What a writer does keeps what was reported. -/
theorem Reported.writerStep (inv : run.Inv) (reported : run.Reported) {connection : Nat}
    {input : RunWriterInput} (stepped : run.writerStep sh connection input = some next) :
    next.Reported := by
  unfold AioRun.writerStep at stepped
  split at stepped
  case h_1 failure at_ =>
    cases stepped
    have runs : run.outbox.Runs connection := by rw [Outbox.Runs, at_]; rfl
    cases received : run.receives connection with
    | true =>
      have finished (box : Outbox) := Outbox.finish_writer box connection
      refine reported.movesWriter (.handOver runs) (fun reports => ?_) fun failure reporting => ?_
      · rw [Outbox.handOver, if_pos rfl, finished] at reports
        cases reports
      · rw [Outbox.handOver, if_pos rfl, finished] at reporting
        cases reporting
    | false =>
      refine reported.movesWriter (.handOver runs) (fun _ => received) ?_
      simp [Outbox.handOver, Outbox.moveWriter]
  case h_2 failure at_ =>
    have runs : run.outbox.Runs connection := by rw [Outbox.Runs, at_]; rfl
    have silent := reported.silent connection (by rw [at_]; rfl)
    have finished := Outbox.finish_writer run.outbox connection
    have base (client : Client) :
        Reported { run with client, outbox := run.outbox.finish connection } := by
      refine reported.movesWriter (.finish runs) (fun reports => ?_) fun failure reporting => ?_
      · rw [finished] at reports
        cases reports
      · rw [finished] at reporting
        cases reporting
    simp only [Client.emitUnlessClosed, Client.unlessClosed] at stepped
    split at stepped
    · cases stepped
      simpa using base run.client
    · rename_i open_
      cases stepped
      refine Reported.adds_failed (base _) ?_ (fun reads => ?_) ?_
        ⟨fun member => ?_, reported.unlost connection failure at_, fun member => ?_⟩
      · exact Nat.lt_of_succ_le (Nat.le_of_eq (inv.box.latest connection runs))
      · have received : run.receives connection = true := Reads.receives reads
        rw [silent] at received
        cases received
      · rw [finished]
        rfl
      · rw [Outbox.Runs, reported.finished connection member] at runs
        cases runs
      · obtain ⟨forced, done⟩ := reported.closed member
        exact open_ (inv.shut forced done).1
  case h_3 =>
    obtain ⟨outbox, moved, rfl⟩ := Option.map_eq_some_iff.mp stepped
    obtain ⟨moves, reports⟩ := Outbox.MovesWriter.writerStep inv.box moved
    refine reported.movesWriter moves (fun now => ?_) fun failure reporting => ?_
    · exact reported.silent connection (reports now).1
    · obtain ⟨before, own⟩ := reports (by rw [reporting]; rfl)
      exact reported.not_lost (reported.silent connection before) own

/-- Every step keeps what was reported. -/
theorem Reported.step (inv : run.Inv) (reported : run.Reported) {call : AioCall}
    (stepped : run.step sh call = some next) : next.Reported := by
  cases call with
  | connect input => exact reported.connectMove inv (connect_cases stepped)
  | close input => exact reported.closeMove (close_cases stepped)
  | task input => exact reported.taskMove inv (task_cases stepped)
  | writer connection input => exact reported.writerStep inv stepped
  | cloneSender =>
    obtain ⟨outbox, cloned, rfl⟩ := Option.map_eq_some_iff.mp stepped
    exact reported.beside (.cloneSender cloned) (.inr rfl) fun _ => id
  | put connection text =>
    obtain ⟨outbox, queued, rfl⟩ := Option.map_eq_some_iff.mp stepped
    exact reported.beside (.put queued) (.inr rfl) fun _ => id
  | dropSender connection =>
    obtain ⟨outbox, dropped, rfl⟩ := Option.map_eq_some_iff.mp stepped
    exact reported.beside (.dropSender dropped) (.inr rfl) fun _ => id
  | pop =>
    obtain ⟨⟨item, stream⟩, popped, rfl⟩ := Option.map_eq_some_iff.mp stepped
    exact reported.beside (.refl _) (.inr rfl) fun _ => id

end AioRun

/-- What was reported is in order in every state the async client reaches. -/
theorem aioRun_reported {sh : Shared} {config : ReconnectionConfig} {run : AioRun}
    (reached : (aioRuns sh config).Reachable run) : run.Reported := by
  have base (first : AioRun) (starts : (aioRuns sh config).start first) : first.Reported := by
    cases starts
    exact .start config
  exact ReachableUnder.invariant_with (fun _ known => aioRun_inv known) base
    (fun _ _ _ inv reported stepped _ => reported.step inv stepped) reached

end FugleMarketdata
