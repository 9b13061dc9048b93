/-
**What becomes of the frames of a replay.** The replay of the last reconnect, frame by frame, in every run
of `waitRuns` until a call asks the client to stop.

* `ReplayRecord.Kept` — the frames that were queued, and why the others were not;
* `WaitRun.Replays` — whose connection the replay is, and where it is over;
* `waitRun_replays` — both hold in every run.
-/

import FugleMarketdata.Websocket.ConnectWaitOrder

namespace FugleMarketdata

open StepMachines StepMachine

/-! ### The frames of a replay -/

/-- The text a frame was put on the queue as. -/
def FrameOutcome.text : FrameOutcome → Option String
  | queued text => some text
  | failed _ => none

/-- What a replay has put on its connection's queue, in order. -/
def ReplayRecord.queued (replay : ReplayRecord) : List String :=
  replay.done.filterMap fun entry => entry.2.text

/-- What a replay has done: the frames it queued entered the connection's queue in order, and each of the
others was reported, and either could not be built or met a writer that had stopped. -/
structure ReplayRecord.Kept (frameRequest : WebSocketRequest → Except ErrorInfo String) (box : Outbox)
    (replay : ReplayRecord) : Prop where
  entered : replay.queued.Sublist (box.connections replay.connection).entered
  built : ∀ frame text, (frame, .queued text) ∈ replay.done → frameRequest frame.frame = .ok text
  reported : ∀ frame reported, (frame, .failed reported) ∈ replay.done → reported = true
  failed : ∀ frame reported, (frame, .failed reported) ∈ replay.done →
    (∃ info, frameRequest frame.frame = .error info) ∨
      (box.connections replay.connection).writer.isFinished = true

namespace ReplayRecord.Kept

variable {frameRequest : WebSocketRequest → Except ErrorInfo String} {box after : Outbox}
  {replay : ReplayRecord}

theorem grows (kept : replay.Kept frameRequest box) (inside : replay.connection < box.opened)
    (grows : box.Grows after) : replay.Kept frameRequest after where
  entered := kept.entered.trans (grows.entered _ inside).sublist
  built := kept.built
  reported := kept.reported
  failed := fun frame reported member =>
    (kept.failed frame reported member).imp_right (grows.finished _ inside)

/-- A frame is dealt with. -/
theorem concat (kept : replay.Kept frameRequest box) {frame : ResubscribeFrame} {outcome : FrameOutcome}
    {rest : List ResubscribeFrame}
    (entered : (replay.queued ++ outcome.text.toList).Sublist (box.connections replay.connection).entered)
    (built : ∀ text, outcome = .queued text → frameRequest frame.frame = .ok text)
    (failed : ∀ reported, outcome = .failed reported → reported = true ∧
      ((∃ info, frameRequest frame.frame = .error info) ∨
        (box.connections replay.connection).writer.isFinished = true)) :
    Kept frameRequest box { replay with done := replay.done ++ [(frame, outcome)], rest } := by
  have known {entry : ResubscribeFrame × FrameOutcome} (member : entry ∈ replay.done ++ [(frame, outcome)]) :
      entry ∈ replay.done ∨ entry = (frame, outcome) :=
    (List.mem_append.mp member).imp_right List.mem_singleton.mp
  refine ⟨?_, fun other text member => ?_, fun other reported member => ?_,
    fun other reported member => ?_⟩
  · have more : ReplayRecord.queued { replay with done := replay.done ++ [(frame, outcome)], rest } =
        replay.queued ++ outcome.text.toList := by
      unfold ReplayRecord.queued
      rw [List.filterMap_append]
      cases text : outcome.text <;> simp [text]
    rw [more]
    exact entered
  · rcases known member with before | last
    · exact kept.built other text before
    · obtain ⟨rfl, same⟩ := Prod.mk.inj last
      exact built text same.symm
  · rcases known member with before | last
    · exact kept.reported other reported before
    · exact (failed reported (Prod.mk.inj last).2.symm).1
  · rcases known member with before | last
    · exact kept.failed other reported before
    · obtain ⟨rfl, same⟩ := Prod.mk.inj last
      exact (failed reported same.symm).2

end ReplayRecord.Kept

namespace WaitRun

variable {sh : Shared} {frameRequest : WebSocketRequest → Except ErrorInfo String} {run next : WaitRun}

/-- The last replay: it is of the connection the dispatch task is about to read, and over once that is
read. -/
structure Replays (frameRequest : WebSocketRequest → Except ErrorInfo String) (run : WaitRun) : Prop where
  inside : ∀ replay, run.replay = some replay → replay.connection < run.base.outbox.opened
  here : ∀ failures, run.base.task = .replaying failures →
    ∃ replay, run.replay = some replay ∧ run.base.incoming = some replay.connection
  dealt : ∀ connection replay, run.base.Gives connection → run.replay = some replay →
    replay.connection ≠ connection ∨ replay.rest = []
  kept : ∀ replay, run.replay = some replay → replay.Kept frameRequest run.base.outbox

theorem Replays.start (config : ReconnectionConfig) :
    Replays frameRequest { base := { mgr := .new config } } := ⟨nofun, nofun, nofun, nofun⟩

/-- Somebody moves who leaves `connect`, the dispatch task and the replay alone. -/
theorem Replays.beside (replays : run.Replays frameRequest) {client : Client} {outbox : Outbox}
    {reports : List Report} {waiters : ConnectWaiters} {begun : Bool} {finish : FinishAt}
    {leaving : LeaveAt} {joined : Nat} {unwoken : Bool} {callers : Nat → Waiter}
    (grows : run.base.outbox.Grows outbox) :
    Replays frameRequest { run with
      base := { run.base with client, outbox, reports }
      waiters, begun, finish, leaving, joined, unwoken, callers } where
  inside := fun replay is => Nat.lt_of_lt_of_le (replays.inside replay is) grows.opened
  here := replays.here
  dealt := replays.dealt
  kept := fun replay is => (replays.kept replay is).grows (replays.inside replay is) grows

/-- `connect` moves on. -/
theorem Replays.connects (replays : run.Replays frameRequest) (inv : run.base.Inv)
    (running : run.base.shutdownRequested = false) {input : AioConnectInput} {base : AioRun}
    {waiters : ConnectWaiters} {leaving : LeaveAt}
    (stepped : run.base.connectStep sh input = some base) :
    Replays frameRequest { run with base, waiters, leaving } := by
  have grows := AioRun.connect_grows stepped
  have kept (replay : ReplayRecord) (is : run.replay = some replay) :
      replay.Kept frameRequest base.outbox :=
    (replays.kept replay is).grows (replays.inside replay is) grows
  have inside (replay : ReplayRecord) (is : run.replay = some replay) :
      replay.connection < base.outbox.opened :=
    Nat.lt_of_lt_of_le (replays.inside replay is) grows.opened
  refine ⟨inside, fun failures replaying => ?_, fun connection replay gives is => ?_, kept⟩
  · change base.task = .replaying failures at replaying
    cases looked : run.base.connect.looked with
    | false =>
      rcases AioRun.connect_unlooked stepped looked with ⟨handle, -, rfl⟩ | ⟨-, same⟩
      · exact replays.here failures replaying
      · rw [same] at replaying
        show ∃ replay, run.replay = some replay ∧ base.incoming = some replay.connection
        rw [same]
        exact replays.here failures replaying
    | true =>
      have ended := inv.over_of_looked running looked
      rcases AioRun.connect_task stepped with same | ⟨reading, -⟩
      · rw [← same, replaying] at ended
        cases ended
      · rw [replaying] at reading
        cases reading
  · rcases AioRun.connect_gives stepped gives with rfl | before
    · exact .inl (Nat.ne_of_lt (replays.inside replay is))
    · exact replays.dealt connection replay before is

/-- The dispatch task moves on, and leaves a replay only once it is over. -/
theorem Replays.loops (replays : run.Replays frameRequest) (inv : run.base.Inv)
    (running : run.base.shutdownRequested = false) {input : TaskInput} {base : AioRun}
    {waiters : ConnectWaiters} {begun : Bool} {finish : FinishAt}
    (stepped : run.base.taskStep sh input = some base) (uninstalled : ∀ failures, input ≠ .installed failures)
    (left : run.base.task = .replaying [] → (∃ moved, input = .go moved) →
      ∀ replay, run.replay = some replay → replay.rest = []) :
    Replays frameRequest { run with base, waiters, begun, finish } := by
  have grows := AioRun.task_grows stepped
  refine ⟨fun replay is => Nat.lt_of_lt_of_le (replays.inside replay is) grows.opened,
    fun failures replaying => ?_, fun connection replay gives is => ?_,
    fun replay is => (replays.kept replay is).grows (replays.inside replay is) grows⟩
  · obtain ⟨⟨before, at_⟩, same⟩ := AioRun.task_replays stepped uninstalled replaying
    obtain ⟨replay, is, incoming⟩ := replays.here before at_
    exact ⟨replay, is, same.trans incoming⟩
  · rcases AioRun.task_gives inv running stepped gives with before | ⟨replaying, unreported, incoming⟩
    · exact replays.dealt connection replay before is
    · exact .inr (left replaying (AioRun.replaying_input stepped replaying unreported) replay is)

/-- The replay of the next connection is still to come. -/
theorem Replays.installs (inv : run.base.Inv) (running : run.base.shutdownRequested = false)
    (opened : run.base.task = .opened) {base : AioRun} {frames : List ResubscribeFrame}
    (stepped : run.base.taskStep sh (.installed []) = some base) :
    Replays frameRequest { run with
      base, replay := some { connection := run.base.outbox.opened, rest := frames } } := by
  obtain ⟨-, rfl⟩ := AioRun.installed_opened stepped
  have unreceived := inv.receives_none running (by rw [opened]; rfl)
  refine ⟨?_, fun _ _ => ⟨_, rfl, rfl⟩, fun connection replay gives => ?_, ?_⟩
  · rintro _ ⟨⟩
    exact Nat.lt_succ_self _
  · rcases gives with own | ⟨unreported, -⟩
    · rw [show run.base.connect.receives = some connection from own] at unreceived
      cases unreceived
    · cases unreported
  · rintro _ ⟨⟩
    exact ⟨List.nil_sublist _, nofun, nofun, nofun⟩

/-- A frame of the replay under way is dealt with. -/
theorem Replays.deals (replays : run.Replays frameRequest) (inv : run.base.Inv)
    (running : run.base.shutdownRequested = false) {failures : List ResubscribeFailure}
    (replaying : run.base.task = .replaying failures) {replay : ReplayRecord}
    (is : run.replay = some replay) {client : Client} {outbox : Outbox} {frame : ResubscribeFrame}
    {outcome : FrameOutcome} {rest : List ResubscribeFrame} (grows : run.base.outbox.Grows outbox)
    (kept : ReplayRecord.Kept frameRequest outbox
      { replay with done := replay.done ++ [(frame, outcome)], rest }) :
    Replays frameRequest { run with
      base := { run.base with client, outbox }
      replay := some { replay with done := replay.done ++ [(frame, outcome)], rest } } where
  inside := by
    rintro _ ⟨⟩
    exact Nat.lt_of_lt_of_le (replays.inside replay is) grows.opened
  here := fun failures at_ => by
    obtain ⟨other, same, incoming⟩ := replays.here failures at_
    rw [is] at same
    cases same
    exact ⟨_, rfl, incoming⟩
  dealt := fun connection _ gives _ => by
    rcases gives with own | ⟨unreported, -⟩
    · have unreceived := inv.receives_none running (by rw [replaying]; rfl)
      rw [show run.base.connect.receives = some connection from own] at unreceived
      cases unreceived
    · rw [show run.base.task = _ from replaying] at unreported
      cases unreported
  kept := by
    rintro _ ⟨⟩
    exact kept

/-- Every step but for the marks leaves what is known of the replays. -/
theorem Replays.move (replays : run.Replays frameRequest) (inv : run.Inv)
    (running : run.base.shutdownRequested = false) (move : WaitMove sh frameRequest run next)
    (still : next.base.shutdownRequested = false) : next.Replays frameRequest := by
  cases move with
  | waits stepped =>
    obtain ⟨waiter, rfl⟩ := wait_cases stepped
    exact replays.beside (.refl _)
  | releases | leaves | returns | begins | clears | wakes | ends | asks =>
    exact replays.beside (.refl _)
  | connects stepped => exact replays.connects inv.base running stepped
  | joins =>
    exact ⟨replays.inside, replays.here, fun connection replay gives =>
      replays.dealt connection replay (.inr (gives.resolve_left nofun)), replays.kept⟩
  | loops stepped _ _ _ left uninstalled =>
    refine replays.loops inv.base running stepped uninstalled fun replaying moved replay is => ?_
    have dealt := left [] replaying moved
    rw [is] at dealt
    exact List.isEmpty_iff.mp dealt
  | installs opened stepped => exact .installs inv.base running opened stepped
  | @fails _ replay frame rest info replaying is reason =>
    have kept := replays.kept replay is
    refine replays.deals inv.base running replaying is (.refl _) (kept.concat ?_ nofun ?_)
    · simpa [FrameOutcome.text] using kept.entered
    · intro reported same
      have up := (inv.going running).stands.task (by rw [replaying]; rfl)
      rw [replaying] at up
      obtain rfl := FrameOutcome.failed.inj same
      exact ⟨Client.emitUnlessClosed_sent sh _ up.unreported, reason⟩
  | queues replaying is built queued =>
    have grows := Outbox.Grows.put queued
    have kept := (replays.kept _ is).grows (replays.inside _ is) grows
    refine replays.deals inv.base running replaying is grows (kept.concat ?_ ?_ nofun)
    · simp only [Outbox.put, Option.ite_none_right_eq_some, Option.some.injEq] at queued
      obtain ⟨-, rfl⟩ := queued
      rw [Outbox.connections_update_self]
      exact (replays.kept _ is).entered.append (.refl _)
    · rintro _ ⟨⟩
      exact built
  | closes stepped =>
    have both := (AioRun.close_stops inv.base stepped).symm.trans still
    cases both
  | beside other stepped =>
    obtain ⟨client, outbox, reports, rfl, -, -, grows⟩ := AioRun.beside_cases other stepped
    exact replays.beside grows

/-! ### Runs -/

/-- What every run keeps: the flags, and the replays of a client that no call has asked to stop. -/
structure Keeps (frameRequest : WebSocketRequest → Except ErrorInfo String) (run : WaitRun) : Prop where
  inv : run.Inv
  replays : run.base.shutdownRequested = false → run.Replays frameRequest

theorem Keeps.move (keeps : run.Keeps frameRequest) (move : WaitMove sh frameRequest run next) :
    next.Keeps frameRequest where
  inv := keeps.inv.move move
  replays := fun still => by
    have running := move_running keeps.inv move still
    exact (keeps.replays running).move keeps.inv running move still

/-- The marks are nothing to the flags, nor to the replays. -/
theorem Keeps.mark (keeps : run.Keeps frameRequest) : run.mark.Keeps frameRequest where
  inv := keeps.inv.outside
  replays := fun running => (keeps.replays running).beside (.refl _)

end WaitRun

end FugleMarketdata
