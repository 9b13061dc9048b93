/-
**Closing the async client while it connects.** After a closing call has reported the close, `connect`
changes neither the state nor what the consumer reads, and no task it spawned is left behind, in every
run that keeps clear of two things: a `connect` that comes to the reconnect-conflict warning only after
the report, since it does so before it waits for `connecting`, and a drain that times out while a task is
awaited, whose handle is gone by then and whose task is not aborted.

* `Outbox.Owned`, `AioRun.TaskOwned` — who holds the handle of each task that runs;
* `aio_close_beats_connect` — what holds once the close is reported;
* `aio_connect_outlives_close` — a run for each of the two in which it is not so.
-/

import FugleMarketdata.Websocket.OutboundReports
import FugleMarketdata.Websocket.QueueCalls

namespace FugleMarketdata

open StepMachines StepMachine

/-! ### What a closing call has taken -/

namespace AioCloseAt

/-- The writer the call awaits. -/
def awaitsWriter : AioCloseAt → Option Nat
  | awaitingWriter connection | awaitingAbortedWriter connection => some connection
  | _ => none

/-- The call is a `force_close` that has aborted the dispatch task. -/
def forces : AioCloseAt → Bool
  | dispatchAborted | retired | writerAborted => true
  | cleared forced | reporting forced | done forced => forced
  | _ => false

/-- The call has taken the writer's handle. -/
def tookWriter : AioCloseAt → Bool
  | awaitingWriter _ | writerDrained | awaitingDispatch | awaitingAbortedWriter _ | writerGone
  | awaitingAbortedDispatch | drained | writerAborted | reporting _ | done _ => true
  | _ => false

/-- The call has taken the dispatch task's handle. -/
def tookDispatch : AioCloseAt → Bool
  | awaitingDispatch | awaitingAbortedDispatch | drained | dispatchAborted | retired | writerAborted
  | reporting _ | done _ => true
  | cleared forced => forced
  | _ => false

/-- The call has reported the close. -/
def isDone : AioCloseAt → Bool
  | done _ => true
  | _ => false

/-- The call moves on without taking a writer's handle. -/
structure Passes (before after : AioCloseAt) : Prop where
  forces : before.forces = true → after.forces = true
  cleared : before.hasCleared = true → after.hasCleared = true
  writer : after.tookWriter = true → before.tookWriter = true

theorem hasCleared_of_tookWriter {closer : AioCloseAt} (took : closer.tookWriter = true) :
    closer.hasCleared = true := by
  cases closer <;> first | rfl | cases took

theorem hasWaited_of_tookDispatch {closer : AioCloseAt} (took : closer.tookDispatch = true) :
    closer.hasWaited = true := by
  cases closer <;> first | rfl | cases took

end AioCloseAt

/-! ### The writers -/

namespace Outbox

variable {quiet : Prop} {closer after : AioCloseAt} {box next : Outbox}

/-- Every writer that runs has its handle stored, or taken by the `start_writer` that stops it or the
closing call that awaits it, or was aborted by a `force_close`. -/
structure Owned (closer : AioCloseAt) (box : Outbox) : Prop where
  writer : ∀ connection, box.Runs connection → box.writerHandle = some connection ∨
    box.startAt = some (.awaitPrevious (some connection)) ∨ closer.awaitsWriter = some connection ∨
      (box.connections connection).aborted = true ∧ closer.forces = true
  stopped : ∀ connection, box.startAt = some (.awaitPrevious (some connection)) →
    (box.connections connection).aborted = true
  taken : closer.tookWriter = true → box.writerHandle = none

theorem Owned.start : Owned .idle {} where
  writer := fun _ runs => by cases runs
  stopped := nofun
  taken := nofun

theorem Owned.beside (owned : box.Owned closer) (beside : box.Beside next) : next.Owned closer where
  writer := fun connection runs => by
    rcases owned.writer connection (beside.fewer connection runs) with
      stored | started | awaited | ⟨aborted, forces⟩
    · exact .inl (beside.handle.trans stored)
    · refine .inr (.inl ?_)
      rw [startAt, beside.starting]
      exact started
    · exact .inr (.inr (.inl awaited))
    · exact .inr (.inr (.inr ⟨beside.aborted connection aborted, forces⟩))
  stopped := fun connection started => by
    rw [startAt, beside.starting] at started
    exact beside.aborted connection (owned.stopped connection started)
  taken := fun took => beside.handle.trans (owned.taken took)

theorem Owned.lockWriteTx (owned : box.Owned closer) {opener : Opener}
    (locked : box.lockWriteTx opener = some next) : next.Owned closer := by
  obtain ⟨free, rfl⟩ := lockWriteTx_free locked
  exact {
    writer := fun connection runs => by
      rcases owned.writer connection runs with stored | started | rest
      · exact .inl stored
      · simp [startAt, free] at started
      · exact .inr (.inr rest)
    stopped := nofun
    taken := owned.taken }

/-- `start_writer` takes the handle of the writer it stops, and stores the new one's. -/
theorem Owned.advance (owned : box.Owned closer) (inv : box.Inv quiet)
    (untaken : closer.tookWriter = false) (advanced : box.advance = some next) :
    next.Owned closer := by
  have never {goal : Prop} (took : closer.tookWriter = true) : goal := by
    rw [untaken] at took
    cases took
  unfold Outbox.advance at advanced
  split at advanced
  case h_1 opener at_ =>
    have started := (inv.at_ at_).1
    cases handle : box.writerHandle with
    | none =>
      rw [handle] at advanced
      cases advanced
      refine ⟨fun connection runs => ?_, nofun, fun took => never took⟩
      have stored := started connection runs
      rw [handle] at stored
      cases stored
    | some previous =>
      rw [handle] at advanced
      cases advanced
      refine ⟨fun connection runs => .inr (.inl ?_), fun connection awaited => ?_,
        fun took => never took⟩
      · have stored := started connection (Beside.abort.fewer connection runs)
        rw [handle] at stored
        cases stored
        rfl
      · cases awaited
        show ((box.abort previous).connections previous).aborted = true
        simp [Outbox.abort]
  case h_2 opener previous at_ =>
    have started := (inv.at_ at_).1
    simp only [Option.ite_none_right_eq_some, Option.some.injEq] at advanced
    obtain ⟨finished, rfl⟩ := advanced
    refine ⟨fun connection runs => ?_, nofun, owned.taken⟩
    rw [started connection runs] at finished
    have both := finished.symm.trans runs
    cases both
  case h_3 opener at_ =>
    have nobody := (inv.at_ at_).1
    split at advanced <;> cases advanced
    exact ⟨fun connection runs => absurd runs (nobody connection), nofun, owned.taken⟩
  case h_4 opener at_ =>
    have nobody := (inv.at_ at_).1
    cases advanced
    refine ⟨fun connection runs => .inl ?_, nofun, fun took => never took⟩
    by_contra other
    have elsewhere : connection ≠ box.opened := fun same => other (congrArg some same.symm)
    rw [Runs, connections_spawn, if_neg elsewhere] at runs
    exact nobody connection runs
  case h_5 => cases advanced

/-- The task that stops a writer is aborted by a `force_close`: the writer was aborted before. -/
theorem Owned.abandon (owned : box.Owned closer) (inv : box.Inv quiet)
    (forces : closer.forces = true) (abandoned : box.abandon = some next) : next.Owned closer := by
  unfold Outbox.abandon at abandoned
  split at abandoned
  case h_1 opener at_ =>
    cases abandoned
    exact ⟨fun connection runs => .inl ((inv.at_ at_).1 connection runs), nofun, owned.taken⟩
  case h_2 opener previous at_ =>
    cases abandoned
    refine ⟨fun connection runs => .inr (.inr (.inr ⟨owned.stopped connection ?_, forces⟩)), nofun,
      owned.taken⟩
    rw [startAt, at_, (inv.at_ at_).1 connection runs]
    rfl
  case h_3 opener at_ =>
    cases abandoned
    exact ⟨fun connection runs => absurd runs ((inv.at_ at_).1 connection), nofun, owned.taken⟩
  all_goals cases abandoned

/-- The closing call moves on from a writer that has finished. -/
theorem Owned.passes (owned : box.Owned closer) (passes : closer.Passes after)
    (awaited : ∀ connection, closer.awaitsWriter = some connection → ¬ box.Runs connection) :
    box.Owned after where
  writer := fun connection runs => by
    rcases owned.writer connection runs with stored | started | awaits | ⟨aborted, forces⟩
    · exact .inl stored
    · exact .inr (.inl started)
    · exact absurd runs (awaited connection awaits)
    · exact .inr (.inr (.inr ⟨aborted, passes.forces forces⟩))
  stopped := owned.stopped
  taken := fun took => owned.taken (passes.writer took)

/-- The closing call takes the writer's handle, to await the writer or having aborted it. -/
theorem Owned.takeHandle (owned : box.Owned closer) (free : box.starting = none)
    (forces : closer.forces = true → after.forces = true) (calm : closer.awaitsWriter = none)
    (takes : ∀ connection, box.writerHandle = some connection → after.awaitsWriter = some connection ∨
      (box.connections connection).aborted = true ∧ after.forces = true) :
    Owned after { box with writerHandle := none } where
  writer := fun connection runs => by
    rcases owned.writer connection runs with stored | started | awaits | ⟨aborted, before⟩
    · exact .inr (.inr (takes connection stored))
    · simp [startAt, free] at started
    · rw [calm] at awaits
      cases awaits
    · exact .inr (.inr (.inr ⟨aborted, forces before⟩))
  stopped := owned.stopped
  taken := fun _ => rfl

end Outbox

/-! ### The dispatch task -/

namespace AioRun

variable {sh : Shared} {run next : AioRun}

/-- The condition: a `connect` that goes on after the close was reported has no reconnect conflict to
warn about, and the drain does not time out while a task is awaited. -/
def Unhindered (run : AioRun) : AioCall → Prop
  | .connect (.conflict now _) =>
    run.closer.isDone = true → QueueCall.warnsAbout now run.client.conflict = none
  | .close .timeout => run.closer.awaitsWriter = none ∧ run.closer.locksDispatch = false
  | _ => True

instance (run : AioRun) : (call : AioCall) → Decidable (run.Unhindered call)
  | .connect (.conflict now _) => inferInstanceAs (Decidable (run.closer.isDone = true →
      QueueCall.warnsAbout now run.client.conflict = none))
  | .connect (.begin _) | .connect .go | .connect (.dialed _) | .connect (.verdict _)
  | .connect .woken => .isTrue trivial
  | .close .timeout => inferInstanceAs (Decidable (run.closer.awaitsWriter = none ∧
      run.closer.locksDispatch = false))
  | .close .shutdown | .close .force | .close .go | .close (.report _) => .isTrue trivial
  | .task _ | .writer _ _ | .cloneSender | .put _ _ | .dropSender _ | .pop => .isTrue trivial

/-- A dispatch task that runs has its handle stored, or about to be, or it is awaited by the closing
call, or a `force_close` has aborted it. -/
structure TaskOwned (run : AioRun) : Prop where
  task : run.task.isOver = false →
    (∃ handle, run.dispatchHandle = some handle ∧ handle + 1 = run.spawned) ∨
      (∃ handle, run.connect = .storing handle) ∨ run.closer.locksDispatch = true ∨
        run.taskAborted = true ∧ run.closer.forces = true
  aborted : run.taskAborted = true → run.closer.forces = true ∨ run.closer.hasCleared = true
  taken : run.closer.tookDispatch = true → run.dispatchHandle = none

/-- Who holds the handles. -/
structure Owned (run : AioRun) : Prop where
  writers : run.outbox.Owned run.closer
  task : run.TaskOwned

theorem Owned.start (config : ReconnectionConfig) : Owned { mgr := .new config } where
  writers := .start
  task := ⟨nofun, nofun, nofun⟩

/-- `connect` or the task moves, and no handle does. -/
theorem TaskOwned.moves (owned : run.TaskOwned) {client : Client} {mgr : ReconnectionManager}
    {outbox : Outbox} {connect : AioConnectAt} {task : LoopAt} {taskConnection : Nat}
    {incoming : Option Nat} {retired : Bool} {reports : List Report}
    (stores : ∀ handle, run.connect = .storing handle → connect = .storing handle)
    (going : task.isOver = false → run.task.isOver = false) :
    TaskOwned { run with
      client, mgr, outbox, connect, task, taskConnection, incoming, retired, reports } where
  task := fun still => by
    rcases owned.task (going still) with stored | ⟨handle, storing⟩ | rest
    · exact .inl stored
    · exact .inr (.inl ⟨handle, stores handle storing⟩)
    · exact .inr (.inr rest)
  aborted := owned.aborted
  taken := owned.taken

/-- A closing call that has taken the dispatch task's handle finds no `connect` storing one. -/
theorem Inv.not_storing (inv : run.Inv) (waited : run.closer.hasWaited = true) (handle : Nat) :
    run.connect ≠ .storing handle := by
  intro storing
  have shut := inv.waited waited
  rw [storing] at shut
  cases shut

/-- A `start_writer` under way finds no closing call that has taken a writer's handle. -/
theorem Inv.untaken (inv : run.Inv) (starting : run.outbox.starting ≠ none) :
    run.closer.tookWriter = false := by
  by_contra took
  exact starting (inv.cleared (AioCloseAt.hasCleared_of_tookWriter (Bool.not_eq_false _ ▸ took)))

theorem Owned.advance (inv : run.Inv) (owned : run.Owned) {outbox : Outbox}
    (advanced : run.outbox.advance = some outbox) : outbox.Owned run.closer := by
  refine owned.writers.advance inv.box (inv.untaken fun free => ?_) advanced
  rw [Outbox.advance, free] at advanced
  cases advanced

theorem Owned.spawn (inv : run.Inv) (owned : run.Owned) (spawn : run.outbox.startAt = some .spawn) :
    run.outbox.spawn.Owned run.closer := by
  obtain ⟨opener, starting⟩ := Outbox.starting_of_startAt spawn
  refine owned.advance inv ?_
  rw [Outbox.advance, starting]

/-- What `connect` does keeps the handles. -/
theorem Owned.connectMove (inv : run.Inv) (owned : run.Owned) (move : ConnectMove sh run next) :
    next.Owned := by
  cases move with
  | moves _ _ _ _ _ still =>
    exact ⟨owned.writers, owned.task.moves (fun handle storing => absurd storing (still handle)) id⟩
  | locks accepted locked =>
    exact ⟨owned.writers.lockWriteTx locked, owned.task.moves (by rw [accepted]; nofun) id⟩
  | starts installing unspawned advanced =>
    exact ⟨owned.advance inv advanced, owned.task.moves (fun _ => id) id⟩
  | installs installing spawn =>
    exact ⟨owned.spawn inv spawn, owned.task.moves (by rw [installing]; nofun) id⟩
  | opens authenticating =>
    exact ⟨owned.writers, owned.task.moves (by rw [authenticating]; nofun) id⟩
  | spawns spawning =>
    refine ⟨owned.writers, fun _ => .inr (.inl ⟨_, rfl⟩), nofun, owned.task.taken⟩
  | @stores handle storing =>
    refine ⟨owned.writers, fun going => .inl ⟨handle, rfl, inv.storing handle storing⟩,
      owned.task.aborted, fun took => ?_⟩
    exact absurd storing (inv.not_storing (AioCloseAt.hasWaited_of_tookDispatch took) handle)

/-- What the dispatch task does keeps the handles. -/
theorem Owned.taskMove (inv : run.Inv) (owned : run.Owned) (move : TaskMove sh run next) :
    next.Owned := by
  cases move with
  | loops elsewhere retired handed replays stepped =>
    obtain ⟨loop, -, going, -, -, rfl⟩ := taskLoop_cases stepped
    exact ⟨owned.writers, owned.task.moves (fun _ => id) fun _ => going⟩
  | retires returned fresh =>
    exact ⟨owned.writers.beside .retire, owned.task.moves (fun _ => id) id⟩
  | locks opened running locked =>
    exact ⟨owned.writers.lockWriteTx locked, owned.task.moves (fun _ => id) id⟩
  | starts opened unspawned advanced =>
    exact ⟨owned.advance inv advanced, owned.task.moves (fun _ => id) id⟩
  | installs opened spawn =>
    exact ⟨owned.spawn inv spawn, owned.task.moves (fun _ => id) fun _ => by rw [opened]; rfl⟩
  | reads replayed incoming =>
    exact ⟨owned.writers, owned.task.moves (fun _ => id) fun _ => by rw [replayed]; rfl⟩
  | ends going ended free =>
    exact ⟨owned.writers, owned.task.moves (fun _ => id) fun _ => going.1⟩
  | abandons going ended aborted abandoned =>
    refine ⟨?_, owned.task.moves (fun _ => id) fun _ => going.1⟩
    rcases owned.task.aborted aborted with forces | cleared
    · exact owned.writers.abandon inv.box forces abandoned
    · rw [Outbox.abandon, inv.cleared cleared] at abandoned
      cases abandoned

/-! ### The closing call -/

/-- The closing call moves on, from a task it has awaited. -/
theorem TaskOwned.goes (owned : run.TaskOwned) {client : Client} {shutdownRequested : Bool}
    {outbox : Outbox} {before closer : AioCloseAt} {reports : List Report} (at_ : run.closer = before)
    (forces : before.forces = true → closer.forces = true)
    (cleared : before.hasCleared = true → closer.hasCleared = true)
    (took : closer.tookDispatch = true → before.tookDispatch = true)
    (awaited : before.locksDispatch = true → run.task.isOver = true) :
    TaskOwned { run with client, shutdownRequested, outbox, closer, reports } := by
  subst at_
  refine ⟨fun going => ?_, fun aborted => (owned.aborted aborted).imp forces cleared,
    fun now => owned.taken (took now)⟩
  rcases owned.task going with stored | storing | locks | ⟨aborted, before⟩
  · exact .inl stored
  · exact .inr (.inl storing)
  · rw [show run.task.isOver = false from going] at awaited
    cases awaited locks
  · exact .inr (.inr (.inr ⟨aborted, forces before⟩))

/-- The closing call takes the dispatch task's handle, to await the task or having aborted it. -/
theorem TaskOwned.takes (inv : run.Inv) (owned : run.TaskOwned) {taskAborted : Bool}
    {before closer : AioCloseAt} (at_ : run.closer = before) (waited : before.hasWaited = true)
    (calm : before.locksDispatch = false) (passes : before.Passes closer)
    (aborts : taskAborted = true → run.taskAborted = true ∨ closer.forces = true ∨
      closer.hasCleared = true)
    (keeps : run.taskAborted = true → taskAborted = true)
    (takes : ∀ handle, run.dispatchHandle = some handle → run.taskRunning handle = true →
      closer.locksDispatch = true ∨ taskAborted = true ∧ closer.forces = true) :
    TaskOwned { run with closer, taskAborted, dispatchHandle := none } := by
  subst at_
  refine ⟨fun going => .inr (.inr ?_), fun aborted => ?_, fun _ => rfl⟩
  · rcases owned.task going with ⟨handle, stored, last⟩ | ⟨handle, storing⟩ | locks | ⟨aborted, forces⟩
    · refine takes handle stored ?_
      simpa [taskRunning, last] using going
    · exact absurd storing (inv.not_storing waited handle)
    · rw [calm] at locks
      cases locks
    · exact .inr ⟨keeps aborted, passes.forces forces⟩
  · rcases aborts aborted with before | now
    · exact (owned.aborted before).imp passes.forces passes.cleared
    · exact now

/-- The closing call moves on and takes no handle. -/
theorem Owned.goes (owned : run.Owned) {client : Client} {shutdownRequested : Bool}
    {outbox : Outbox} {before closer : AioCloseAt} {reports : List Report} (at_ : run.closer = before)
    (passes : before.Passes closer) (beside : run.outbox.Beside outbox)
    (took : closer.tookDispatch = true → before.tookDispatch = true)
    (writer : ∀ connection, before.awaitsWriter = some connection → ¬ run.outbox.Runs connection)
    (task : before.locksDispatch = true → run.task.isOver = true) :
    Owned { run with client, shutdownRequested, outbox, closer, reports } := by
  refine ⟨?_, owned.task.goes at_ passes.forces passes.cleared took task⟩
  subst at_
  exact (owned.writers.passes passes writer).beside beside

/-- The closing call takes the writer's handle. -/
theorem Owned.takesWriter (inv : run.Inv) (owned : run.Owned) {outbox : Outbox}
    {before closer : AioCloseAt} (at_ : run.closer = before) (cleared : before.hasCleared = true)
    (calm : before.awaitsWriter = none ∧ before.locksDispatch = false)
    (forces : before.forces = true → closer.forces = true) (passed : closer.hasCleared = true)
    (took : closer.tookDispatch = true → before.tookDispatch = true)
    (beside : run.outbox.Beside outbox)
    (takes : ∀ connection, outbox.writerHandle = some connection →
      closer.awaitsWriter = some connection ∨
        (outbox.connections connection).aborted = true ∧ closer.forces = true) :
    Owned { run with outbox := { outbox with writerHandle := none }, closer } := by
  refine ⟨?_, owned.task.goes at_ forces (fun _ => passed) took fun locks => ?_⟩
  · subst at_
    exact (owned.writers.beside beside).takeHandle (beside.starting.trans (inv.cleared cleared)) forces
      calm.1 takes
  · rw [calm.2] at locks
    cases locks

/-- The closing call finds no writer's handle to take. -/
theorem Owned.findsNoWriter (inv : run.Inv) (owned : run.Owned) {before closer : AioCloseAt}
    (at_ : run.closer = before) (cleared : before.hasCleared = true)
    (calm : before.awaitsWriter = none ∧ before.locksDispatch = false)
    (forces : before.forces = true → closer.forces = true) (passed : closer.hasCleared = true)
    (took : closer.tookDispatch = true → before.tookDispatch = true)
    (absent : run.outbox.writerHandle = none) : Owned { run with closer } := by
  have taken := owned.takesWriter inv at_ cleared calm forces passed took (.refl _)
    fun connection stored => by
      rw [absent] at stored
      cases stored
  rw [← absent] at taken
  exact taken

/-- The closing call takes the dispatch task's handle and aborts the task. -/
theorem Owned.takeDispatch (inv : run.Inv) (owned : run.Owned)
    {before awaiting following : AioCloseAt} (at_ : run.closer = before)
    (waited : before.hasWaited = true)
    (calm : before.awaitsWriter = none ∧ before.locksDispatch = false)
    (passes : before.Passes awaiting ∧ before.Passes following)
    (aborts : (awaiting.forces = true ∨ awaiting.hasCleared = true) ∧
      (following.forces = true ∨ following.hasCleared = true))
    (holds : awaiting.locksDispatch = true ∨ awaiting.forces = true) :
    (run.takeDispatch awaiting following).Owned := by
  have writers {closer : AioCloseAt} (passes : before.Passes closer) : run.outbox.Owned closer := by
    subst at_
    refine owned.writers.passes passes fun connection awaits => ?_
    rw [calm.1] at awaits
    cases awaits
  unfold AioRun.takeDispatch
  split
  · rename_i handle stored
    unfold abortTask
    split
    · split
      · refine ⟨writers passes.1, owned.task.takes inv at_ waited calm.2 passes.1
          (fun _ => .inr aborts.1) (fun _ => rfl) fun _ _ _ => ?_⟩
        exact holds.imp_right fun forces => ⟨rfl, forces⟩
      · rename_i stopped
        refine ⟨writers passes.2, owned.task.takes inv at_ waited calm.2 passes.2
          (fun _ => .inr aborts.2) (fun _ => rfl) fun other same running => ?_⟩
        rw [stored] at same
        cases same
        exact absurd running stopped
    · rename_i earlier
      have idle : run.taskRunning handle = false := by simp [taskRunning, earlier]
      rw [idle]
      refine ⟨writers passes.2, owned.task.takes inv at_ waited calm.2 passes.2 .inl id
        fun other same running => ?_⟩
      rw [stored] at same
      cases same
      rw [idle] at running
      cases running
  · rename_i absent
    refine ⟨writers passes.2, ?_⟩
    have taken := owned.task.takes inv at_ waited calm.2 passes.2 .inl id fun other same => by
      rw [absent] at same
      cases same
    rw [← absent] at taken
    exact taken

/-- Every step of a closing call whose drain does not time out while a task is awaited keeps the
handles. -/
theorem Owned.closeStep (inv : run.Inv) (owned : run.Owned) {input : AioCloseInput}
    (met : run.Unhindered (.close input)) (stepped : run.closeStep sh input = some next) :
    next.Owned := by
  unfold AioRun.closeStep at stepped
  split at stepped
  case h_1 phase | h_2 phase =>
    cases stepped
    exact owned.goes phase ⟨nofun, nofun, nofun⟩ (.refl _) nofun nofun nofun
  case h_3 forced phase =>
    split at stepped <;> cases stepped
    exact owned.goes phase ⟨nofun, nofun, nofun⟩ (.refl _) nofun nofun nofun
  case h_4 phase =>
    obtain ⟨outbox, cleared, rfl⟩ := Option.map_eq_some_iff.mp stepped
    exact owned.goes phase ⟨nofun, nofun, nofun⟩ (Outbox.Beside.clearWriteTx cleared).2 nofun nofun
      nofun
  case h_22 phase =>
    obtain ⟨outbox, cleared, rfl⟩ := Option.map_eq_some_iff.mp stepped
    exact owned.goes phase ⟨fun _ => rfl, nofun, nofun⟩ (Outbox.Beside.clearWriteTx cleared).2
      (fun _ => rfl) nofun nofun
  -- the Close frame
  case h_5 phase =>
    split at stepped
    · split at stepped <;> cases stepped
      · exact owned.goes phase ⟨nofun, fun _ => rfl, nofun⟩ (Outbox.Beside.refl _).slots nofun nofun
          nofun
      · exact owned.goes phase ⟨nofun, fun _ => rfl, nofun⟩ (.refl _) nofun nofun nofun
    · cases stepped
  case h_6 phase =>
    cases stepped
    exact owned.goes phase ⟨nofun, fun _ => rfl, nofun⟩ (Outbox.Beside.refl _).slots nofun nofun nofun
  -- the tasks are awaited
  case h_7 phase =>
    cases stepped
    refine owned.takesWriter inv phase rfl ⟨rfl, rfl⟩ nofun ?_ ?_ (.refl _) fun connection stored => ?_
    · split <;> rfl
    · split <;> nofun
    · rw [stored]
      exact .inl rfl
  case h_8 connection phase =>
    split at stepped <;> cases stepped
    rename_i finished
    refine owned.goes phase ⟨nofun, fun _ => rfl, fun _ => rfl⟩ (.refl _) nofun ?_ nofun
    rintro _ ⟨⟩ runs
    have both := finished.symm.trans runs
    cases both
  case h_9 phase =>
    cases stepped
    have writers := owned.writers
    rw [phase] at writers
    by_cases running : run.dispatchHandle.any run.taskRunning = true
    · rw [if_pos running]
      exact ⟨writers.passes ⟨nofun, fun _ => rfl, fun _ => rfl⟩ nofun,
        owned.task.takes inv phase rfl rfl ⟨nofun, fun _ => rfl, fun _ => rfl⟩ .inl id
          fun _ _ _ => .inl rfl⟩
    · rw [if_neg running]
      refine ⟨writers.passes ⟨nofun, fun _ => rfl, fun _ => rfl⟩ nofun,
        owned.task.takes inv phase rfl rfl ⟨nofun, fun _ => rfl, fun _ => rfl⟩ .inl id
          fun handle stored still => ?_⟩
      rw [stored] at running
      exact absurd still running
  case h_10 phase | h_11 phase =>
    split at stepped <;> cases stepped
    rename_i ended
    exact owned.goes phase ⟨nofun, fun _ => rfl, fun _ => rfl⟩ (.refl _) (fun _ => rfl) nofun
      fun _ => ended
  case h_12 phase | h_14 phase =>
    cases stepped
    exact owned.goes phase ⟨nofun, fun _ => rfl, nofun⟩ (.refl _) nofun nofun nofun
  case h_13 connection phase =>
    rw [Unhindered, phase] at met
    cases met.1
  case h_15 phase =>
    rw [Unhindered, phase] at met
    cases met.2
  -- the tasks are aborted
  case h_16 phase =>
    split at stepped <;> cases stepped
    · rename_i connection stored
      refine owned.takesWriter inv phase rfl ⟨rfl, rfl⟩ nofun rfl nofun .abort fun other same => ?_
      exact .inl (stored.symm.trans same)
    · rename_i absent
      exact owned.findsNoWriter inv phase rfl ⟨rfl, rfl⟩ nofun rfl nofun absent
  case h_17 connection phase =>
    split at stepped <;> cases stepped
    rename_i finished
    refine owned.goes phase ⟨nofun, fun _ => rfl, fun _ => rfl⟩ (.refl _) nofun ?_ nofun
    rintro _ ⟨⟩ runs
    have both := finished.symm.trans runs
    cases both
  case h_18 phase =>
    cases stepped
    exact owned.takeDispatch inv phase rfl ⟨rfl, rfl⟩
      ⟨⟨nofun, fun _ => rfl, fun _ => rfl⟩, nofun, fun _ => rfl, fun _ => rfl⟩ ⟨.inr rfl, .inr rfl⟩
      (.inl rfl)
  case h_19 phase =>
    obtain ⟨outbox, cleared, rfl⟩ := Option.map_eq_some_iff.mp stepped
    exact owned.goes phase ⟨nofun, fun _ => rfl, fun _ => rfl⟩ (.clearSink cleared) (fun _ => rfl) nofun
      nofun
  -- nothing is awaited
  case h_20 phase =>
    cases stepped
    exact owned.takeDispatch inv phase rfl ⟨rfl, rfl⟩ ⟨⟨nofun, nofun, nofun⟩, nofun, nofun, nofun⟩
      ⟨.inl rfl, .inl rfl⟩ (.inr rfl)
  case h_21 phase =>
    cases stepped
    exact owned.goes phase ⟨fun _ => rfl, nofun, nofun⟩ .retire (fun _ => rfl) nofun nofun
  case h_23 phase =>
    split at stepped <;> cases stepped
    · rename_i connection stored
      refine owned.takesWriter inv phase rfl ⟨rfl, rfl⟩ (fun _ => rfl) rfl (fun _ => rfl) .abort
        fun other same => ?_
      rw [show other = connection from Option.some.inj (same.symm.trans stored)]
      exact .inr ⟨by simp [Outbox.abort], rfl⟩
    · rename_i absent
      exact owned.findsNoWriter inv phase rfl ⟨rfl, rfl⟩ (fun _ => rfl) rfl (fun _ => rfl) absent
  case h_24 phase =>
    obtain ⟨outbox, cleared, rfl⟩ := Option.map_eq_some_iff.mp stepped
    exact owned.goes phase ⟨fun _ => rfl, fun _ => rfl, fun _ => rfl⟩ (.clearSink cleared)
      (fun _ => rfl) nofun nofun
  case h_25 forced now phase =>
    cases stepped
    exact owned.goes phase ⟨id, fun _ => rfl, fun _ => rfl⟩ (.refl _) (fun _ => rfl) nofun nofun
  case h_26 => cases stepped

/-! ### Runs -/

theorem writerStep_beside {connection : Nat} {input : RunWriterInput}
    (stepped : run.writerStep sh connection input = some next) :
    ∃ client outbox reports, run.outbox.Beside outbox ∧
      next = { run with client, outbox, reports } := by
  unfold AioRun.writerStep at stepped
  split at stepped
  case h_1 failure at_ =>
    cases stepped
    exact ⟨_, _, _, .handOver (by rw [Outbox.Runs, at_]; rfl) _, rfl⟩
  case h_2 failure at_ =>
    cases stepped
    exact ⟨_, _, _, .finish, rfl⟩
  case h_3 =>
    obtain ⟨outbox, moved, rfl⟩ := Option.map_eq_some_iff.mp stepped
    exact ⟨_, _, _, .writerStep moved, rfl⟩

/-- Every step that meets the condition keeps the handles. -/
theorem Owned.step (inv : run.Inv) (owned : run.Owned) {call : AioCall} (met : run.Unhindered call)
    (stepped : run.step sh call = some next) : next.Owned := by
  have moves {client : Client} {outbox : Outbox} {reports : List Report}
      (beside : run.outbox.Beside outbox) : Owned { run with client, outbox, reports } :=
    ⟨owned.writers.beside beside, owned.task.moves (fun _ => id) id⟩
  cases call with
  | connect input => exact owned.connectMove inv (connect_cases stepped)
  | close input => exact owned.closeStep inv met stepped
  | task input => exact owned.taskMove inv (task_cases stepped)
  | writer connection input =>
    obtain ⟨client, outbox, reports, beside, rfl⟩ := writerStep_beside stepped
    exact moves beside
  | cloneSender =>
    obtain ⟨outbox, cloned, rfl⟩ := Option.map_eq_some_iff.mp stepped
    exact moves (.cloneSender cloned)
  | put connection text =>
    obtain ⟨outbox, queued, rfl⟩ := Option.map_eq_some_iff.mp stepped
    exact moves (.put queued)
  | dropSender connection =>
    obtain ⟨outbox, dropped, rfl⟩ := Option.map_eq_some_iff.mp stepped
    exact moves (.dropSender dropped)
  | pop =>
    obtain ⟨⟨item, stream⟩, popped, rfl⟩ := Option.map_eq_some_iff.mp stepped
    exact moves (.refl _)

/-- A caller that finds no conflict to warn about queues nothing. -/
theorem callerConnecting_unwarned (sh : Shared) {now : Nat} {client : Client}
    (unwarned : QueueCall.warnsAbout now client.conflict = none) :
    ∃ conflict, (client.callerConnecting sh now).1 = { client with conflict } := by
  unfold Client.callerConnecting
  unfold QueueCall.warnsAbout at unwarned
  split
  · exact ⟨client.conflict, rfl⟩
  · rename_i elapsed closedAt closed
    rw [closed] at unwarned
    simp only at unwarned ⊢
    split
    · exact ⟨_, rfl⟩
    · rename_i due
      rw [if_neg due] at unwarned
      cases unwarned

/-- Once the close is reported, a step of `connect` that has nothing to warn about does nothing but use
up the recorded close. -/
theorem Inv.connect_done (inv : run.Inv) {forced : Bool} (done : run.closer = .done forced)
    {input : AioConnectInput} (met : run.Unhindered (.connect input))
    (stepped : run.connectStep sh input = some next) :
    ∃ conflict connect, next = { run with client := { run.client with conflict }, connect } := by
  have shut : run.connect.opens = false := inv.waited (by rw [done]; rfl)
  have stop : run.shutdownRequested = true := inv.stopping (by rw [done]; nofun)
  unfold AioRun.connectStep at stepped
  split at stepped
  case h_1 | h_5 =>
    cases stepped
    exact ⟨run.client.conflict, _, rfl⟩
  case h_2 | h_3 =>
    split at stepped <;> cases stepped
    exact ⟨run.client.conflict, _, rfl⟩
  case h_4 now tls phase =>
    obtain ⟨conflict, same⟩ := callerConnecting_unwarned sh (met (by rw [done]; rfl))
    rw [AioRun.report, same] at stepped
    cases stepped
    exact ⟨conflict, _, rfl⟩
  case h_6 phase =>
    cases stepped
    exact ⟨run.client.conflict, _, rfl⟩
  case h_26 => cases stepped
  all_goals
    rename_i phase
    rw [phase] at shut
    cases shut

/-- The dispatch task was aborted: where it awaits, it is dropped. -/
def DropsTask (sh : Shared) (run : AioRun) : Prop :=
  ∀ task, run.task.cancelled = some task →
    ∃ next, run.step sh (.task .drop) = some next ∧ next.task.isOver = true

/-- The writer was aborted: where it awaits, it is dropped. -/
def DropsWriter (sh : Shared) (run : AioRun) (connection : Nat) : Prop :=
  (run.outbox.connections connection).writer.awaits = true →
    ∃ next, run.step sh (.writer connection .drop) = some next ∧ ¬ next.outbox.Runs connection

theorem dropsTask_of_aborted (aborted : run.taskAborted = true) (free : run.outbox.starting = none) :
    run.DropsTask sh := by
  intro task cancelled
  obtain ⟨-, ended⟩ := isOver_of_cancelled cancelled
  refine ⟨{ run with task }, ?_, ended⟩
  cases at_ : run.task <;> rw [at_] at cancelled <;> cases cancelled <;>
    simp [AioRun.step, taskStep, at_, aborted, free, LoopAt.cancelled]

theorem dropsWriter_of_aborted {connection : Nat}
    (aborted : (run.outbox.connections connection).aborted = true) :
    run.DropsWriter sh connection := by
  intro awaits
  refine ⟨{ run with outbox := run.outbox.finish connection }, ?_, fun runs => ?_⟩
  · cases at_ : (run.outbox.connections connection).writer <;> rw [at_] at awaits <;> cases awaits <;>
      simp [AioRun.step, AioRun.writerStep, Outbox.writerStep, at_, aborted, RunWriterAt.awaits]
  · rw [Outbox.Runs, Outbox.finish_writer] at runs
    cases runs

end AioRun

/-- The handles are held in every state the async client reaches under the condition. -/
theorem aioRun_owned {sh : Shared} {config : ReconnectionConfig} {run : AioRun}
    (reached : (aioRuns sh config).ReachableUnder (fun run call _ => run.Unhindered call) run) :
    run.Owned := by
  have base (first : AioRun) (starts : (aioRuns sh config).start first) : first.Owned := by
    cases starts
    exact .start config
  exact reached.invariant_with (fun _ known => aioRun_inv known.reachable) base
    fun _ _ _ inv owned stepped met => owned.step inv met stepped

/-- **A closing call beats a `connect` in progress.** In a run that meets the condition, once the close
is reported: no step of `connect` does more than move it on and use up the recorded close, so the stream,
the state and the tasks are as they were; the state is `Closed`; the closing call has taken both handles;
and the dispatch task and every writer are over, or `force_close` has aborted them. -/
theorem aio_close_beats_connect {sh : Shared} {config : ReconnectionConfig} {run : AioRun}
    (reached : (aioRuns sh config).ReachableUnder (fun run call _ => run.Unhindered call) run)
    {forced : Bool} (done : run.closer = .done forced) :
    (∀ input next, run.Unhindered (.connect input) → run.step sh (.connect input) = some next →
      ∃ conflict connect, next = { run with client := { run.client with conflict }, connect }) ∧
      run.client.connection.isClosed = true ∧
      (run.dispatchHandle = none ∧ run.outbox.writerHandle = none) ∧
      (run.task.isOver = true ∨ forced = true ∧ run.DropsTask sh) ∧
      ∀ connection, run.outbox.Runs connection → forced = true ∧ run.DropsWriter sh connection := by
  have inv := aioRun_inv reached.reachable
  obtain ⟨writers, task⟩ := aioRun_owned reached
  have free : run.outbox.starting = none := inv.cleared (by rw [done]; rfl)
  refine ⟨fun _ _ met stepped => inv.connect_done done met stepped, (inv.shut forced done).2,
    ⟨task.taken (by rw [done]; rfl), writers.taken (by rw [done]; rfl)⟩, ?_, fun connection runs => ?_⟩
  · cases going : run.task.isOver with
    | true => exact .inl rfl
    | false =>
      right
      rcases task.task going with ⟨handle, stored, -⟩ | ⟨handle, storing⟩ | locks | ⟨aborted, forces⟩
      · rw [task.taken (by rw [done]; rfl)] at stored
        cases stored
      · exact absurd storing (inv.not_storing (by rw [done]; rfl) handle)
      · rw [done] at locks
        cases locks
      · rw [done] at forces
        exact ⟨forces, AioRun.dropsTask_of_aborted aborted free⟩
  · rcases writers.writer connection runs with stored | started | awaits | ⟨aborted, forces⟩
    · rw [writers.taken (by rw [done]; rfl)] at stored
      cases stored
    · simp [Outbox.startAt, free] at started
    · rw [done] at awaits
      cases awaits
    · rw [done] at forces
      exact ⟨forces, AioRun.dropsWriter_of_aborted aborted⟩

/-! ### Concrete runs -/

/-- A whole `force_close`. -/
def forcedClose : List AioCall :=
  ([.force, .go, .go, .go, .go, .go, .go, .report 0] : List AioCloseInput).map .close

theorem aio_close_beats_connect_forced :
    ∃ run, (aioRuns smallStream .default).run { mgr := .new .default }
        (acceptedAioConnect ++ .connect (.begin true) :: forcedClose) = some run ∧
      run.task.isOver = false ∧ run.DropsTask smallStream ∧ run.DropsWriter smallStream 0 ∧
      run.client.connection.isClosed = true ∧
      ∀ next, run.step smallStream (.connect .go) = some next →
        next.client.stream = run.client.stream ∧ next.spawned = run.spawned := by
  have ends : ((aioRuns smallStream .default).runUnder (fun run call => run.Unhindered call)
      { mgr := .new .default } (acceptedAioConnect ++ .connect (.begin true) :: forcedClose)).any
      (fun run => decide (run.closer = .done true ∧ run.task.isOver = false ∧
        (run.outbox.connections 0).writer.isFinished = false)) = true := by
    decide +kernel
  obtain ⟨run, ran, last⟩ := (Option.any_eq_true ..).mp ends
  obtain ⟨done, going, runs⟩ := of_decide_eq_true last
  have reached := reachableUnder_of_run _ (.start rfl) ran
  obtain ⟨unchanged, isClosed, -, drops, writers⟩ := aio_close_beats_connect reached done
  refine ⟨run, run_of_runUnder _ ran, going, ?_, (writers 0 runs).2, isClosed, fun next stepped => ?_⟩
  · refine (drops.resolve_left ?_).2
    rw [going]
    nofun
  · obtain ⟨conflict, connect, rfl⟩ := unchanged .go next trivial stepped
    exact ⟨rfl, rfl⟩

/-- A caller of `connect()` finds the dispatch task's handle locked by the call that closes a connection
an automatic reconnect restored, and goes on once the close is reported. -/
def connectAfterClose : List AioCall :=
  acceptedAioConnect ++ connectionReplaced ++
    [.pop, .pop, .pop, .dropSender 1, .connect (.begin true)] ++
    ([.shutdown, .go, .go, .go, .go, .go] : List AioCloseInput).map .close ++
    [.writer 1 .go, .close .go, .close .go, .task (.go (.ending .eof)), .task .retire,
      .task (.go (.tick 0)), .close .go, .close .go, .close (.report 0), .connect .go, .connect .go]

/-- The drain times out while the dispatch task is awaited. -/
def timedOutDrain : List AioCall :=
  acceptedAioConnect ++ [.dropSender 0] ++
    ([.shutdown, .go, .go, .go, .go, .go] : List AioCloseInput).map .close ++ [.writer 0 .go] ++
    ([.go, .go, .timeout, .go, .go, .go, .report 0] : List AioCloseInput).map .close

/-- In some run `connect` queues an event once the close is reported; in some run a `disconnect()` ends
with the dispatch task neither over nor aborted. -/
theorem aio_connect_outlives_close :
    (¬ ∀ run, (aioRuns smallStream .default).Reachable run → run.closer.isDone = true →
      ∀ input next, run.step smallStream (.connect input) = some next →
        next.client.stream.items.length = run.client.stream.items.length) ∧
      ¬ ∀ run, (aioRuns smallStream .default).Reachable run → run.closer.isDone = true →
        run.task.isOver = true ∨ run.taskAborted = true := by
  constructor <;> intro always
  · have ends : ((aioRuns smallStream .default).run { mgr := .new .default } connectAfterClose).any
        (fun run => run.closer.isDone &&
          (run.step smallStream (.connect (.conflict 0 true))).any fun next =>
            decide (next.client.stream.items.length ≠ run.client.stream.items.length)) = true := by
      decide +kernel
    obtain ⟨run, ran, last⟩ := (Option.any_eq_true ..).mp ends
    simp only [Bool.and_eq_true, Option.any_eq_true, decide_eq_true_eq] at last
    obtain ⟨done, next, stepped, more⟩ := last
    exact more (always run (reachable_of_run _ (.init _ rfl) ran) done _ next stepped)
  · have ends : ((aioRuns smallStream .default).run { mgr := .new .default } timedOutDrain).any
        (fun run => run.closer.isDone && !run.task.isOver && !run.taskAborted) = true := by
      decide +kernel
    obtain ⟨run, ran, last⟩ := (Option.any_eq_true ..).mp ends
    simp only [Bool.and_eq_true, Bool.not_eq_true'] at last
    obtain ⟨⟨done, going⟩, unaborted⟩ := last
    have left := always run (reachable_of_run _ (.init _ rfl) ran) done
    simp [going, unaborted] at left

end FugleMarketdata
