/-
**What the flags say of the client.** What a step of `waitRuns` can do, and what the flags of
`ConnectWaiters` and the ends still to come are beside the state and the slots.

* `WaitRun.WaitMove`, `WaitRun.move_cases` — the steps;
* `WaitRun.Going` — the flags of a client that no call has asked to stop;
* `WaitRun.Inv.move` — every step keeps the invariant of the flags.
-/

import FugleMarketdata.Websocket.AioPlaces
import FugleMarketdata.Websocket.ConnectWait

namespace FugleMarketdata

open StepMachines StepMachine

namespace WaitRun

variable {sh : Shared} {frameRequest : WebSocketRequest → Except ErrorInfo String} {run next : WaitRun}

/-! ### What a step can do -/

/-- A step of a waiting caller, of the parties of the client, or of what they do for the waiters. A
`connect` that claimed the gate goes on only where it finds no dispatch task running; the task goes on
from the end of a connection once the reconnect has begun, or the client is asked to stop, and from a
replay once its last frame is dealt with. -/
inductive WaitMove (sh : Shared) (frameRequest : WebSocketRequest → Except ErrorInfo String)
    (run : WaitRun) : WaitRun → Prop
  | waits {caller : Nat} {next : WaitRun} (stepped : run.waitStep caller = some next) :
      WaitMove sh frameRequest run next
  | connects {input : AioConnectInput} {base : AioRun} {waiters : ConnectWaiters} {leaving : LeaveAt}
      (stepped : run.base.connectStep sh input = some base) (still : run.leaving = .none)
      (free : run.base.connect = .claimed →
        ¬ (run.base.closer.locksDispatch = false ∧ run.dispatchTaskRunning = true))
      (fresh : waiters = run.waiters ∨ run.base.connect = .conflict ∧ waiters.reconnecting = false)
      (leaves : run.base.connect.holdsGate = true → run.base.connect ≠ .claimed →
        base.connect.holdsGate = true ∨ leaving = .gate) :
      WaitMove sh frameRequest run { run with base, waiters, leaving }
  | joins (at_ : run.base.connect = .joining ∨ run.base.connect = .claimed)
      (running : run.dispatchTaskRunning = true) :
      WaitMove sh frameRequest run { run with
        base := { run.base with connect := .idle }, joined := run.joined + 1 }
  | releases (at_ : run.leaving = .gate) : WaitMove sh frameRequest run { run with leaving := .wake }
  | leaves (at_ : run.leaving = .wake) : WaitMove sh frameRequest run { run.wake with leaving := .none }
  | returns : WaitMove sh frameRequest run { run.wake with joined := run.joined - 1 }
  | loops {input : TaskInput} {base : AioRun} {waiters : ConnectWaiters}
      (stepped : run.base.taskStep sh input = some base) (finish : run.finish = .none)
      (same : waiters.reconnecting = run.waiters.reconnecting)
      (begins : ∀ close, run.base.task = .returned close → (∃ moved, input = .go moved) →
        (run.begun || run.base.shutdownRequested) = true)
      (left : ∀ failures, run.base.task = .replaying failures → (∃ moved, input = .go moved) →
        (run.replay.all fun replay => replay.rest.isEmpty) = true)
      (uninstalled : ∀ failures, input ≠ .installed failures) :
      WaitMove sh frameRequest run { run with
        base, waiters, begun := false, finish := finishAfter run.base.task input base }
  | begins {close : ConnectionClose} (returned : run.base.task = .returned close)
      (retired : run.base.retired = true) (finish : run.finish = .none) :
      WaitMove sh frameRequest run { run with waiters := run.waiters.reconnectStarted, begun := true }
  | installs {base : AioRun} {frames : List ResubscribeFrame} (opened : run.base.task = .opened)
      (stepped : run.base.taskStep sh (.installed []) = some base) :
      WaitMove sh frameRequest run { run with
        base, replay := some { connection := run.base.outbox.opened, rest := frames } }
  | fails {failures : List ResubscribeFailure} {replay : ReplayRecord} {frame : ResubscribeFrame}
      {rest : List ResubscribeFrame} {info : ErrorInfo} (replaying : run.base.task = .replaying failures)
      (is : run.replay = some replay) (reason : (∃ info, frameRequest frame.frame = .error info) ∨
        (run.base.outbox.connections replay.connection).writer.isFinished = true) :
      WaitMove sh frameRequest run (run.frameFails sh replay frame rest info)
  | queues {failures : List ResubscribeFailure} {replay : ReplayRecord} {frame : ResubscribeFrame}
      {rest : List ResubscribeFrame} {text : String} {outbox : Outbox}
      (replaying : run.base.task = .replaying failures) (is : run.replay = some replay)
      (built : frameRequest frame.frame = .ok text)
      (queued : run.base.outbox.put replay.connection text = some outbox) :
      WaitMove sh frameRequest run { run with
        base := { run.base with outbox }
        replay := some { replay with done := replay.done ++ [(frame, .queued text)], rest } }
  | clears (at_ : run.finish = .clearing) : WaitMove sh frameRequest run { run with
      waiters := { run.waiters with reconnecting := false }, finish := .waking }
  | wakes (at_ : run.finish = .waking) : WaitMove sh frameRequest run { run.wake with
      finish := if run.base.task.isOver then .returning else .none }
  | ends (at_ : run.finish = .returning) : WaitMove sh frameRequest run { run with finish := .none }
  | closes {input : AioCloseInput} {base : AioRun} (stepped : run.base.closeStep sh input = some base)
      (woken : run.unwoken = false) : WaitMove sh frameRequest run { run with
        base, unwoken := base.shutdownRequested && !run.base.shutdownRequested }
  | asks (at_ : run.unwoken = true) : WaitMove sh frameRequest run { run.wake with unwoken := false }
  | beside {call : AioCall} {base : AioRun} (other : call.isBeside = true)
      (stepped : run.base.step sh call = some base) : WaitMove sh frameRequest run { run with base }

/-- A caller that waits only moves itself. -/
theorem wait_cases {caller : Nat} (stepped : run.waitStep caller = some next) :
    ∃ waiter, next = run.moveCaller caller waiter := by
  unfold waitStep at stepped
  simp only at stepped
  split at stepped
  case h_7 =>
    split at stepped
    · cases stepped
    · cases stepped
      exact ⟨_, rfl⟩
  case h_8 =>
    split at stepped <;> cases stepped
    exact ⟨_, rfl⟩
  case h_9 => cases stepped
  all_goals
    cases stepped
    exact ⟨_, rfl⟩

theorem connect_cases {input : AioConnectInput} (stepped : run.connectStep sh input = some next) :
    WaitMove sh frameRequest run next := by
  unfold connectStep at stepped
  split at stepped
  · cases stepped
  rename_i stays
  have still : run.leaving = .none := not_not.mp stays
  split at stepped
  case h_1 at_ | h_2 at_ =>
    split at stepped
    · rename_i running
      cases stepped
      exact .joins (by simp [at_]) running.2
    · rename_i refused
      obtain ⟨base, moved, rfl⟩ := Option.map_eq_some_iff.mp stepped
      refine .connects moved still (fun _ => refused) (.inl rfl) fun holds unclaimed => ?_
      rw [at_] at holds unclaimed
      first | exact absurd rfl unclaimed | cases holds
  case h_3 input at_ =>
    obtain ⟨base, moved, rfl⟩ := Option.map_eq_some_iff.mp stepped
    refine .connects moved still (fun claimed => ?_) (.inr ⟨at_, rfl⟩) fun _ _ => ?_
    · rw [at_] at claimed
      cases claimed
    · cases holds : base.connect.holdsGate with
      | true => exact .inl rfl
      | false => exact .inr rfl
  case h_4 given _ _ _ _ unclaimed =>
    obtain ⟨base, moved, rfl⟩ := Option.map_eq_some_iff.mp stepped
    refine .connects moved still (fun claimed => ?_) (.inl rfl) fun holds _ => ?_
    · -- with the gate claimed, the call only takes its second look
      cases given with
      | go => exact (unclaimed claimed rfl).elim
      | _ => simp [AioRun.connectStep, claimed] at moved
    · cases after : base.connect.holdsGate with
      | true => exact .inl rfl
      | false =>
        right
        show (if _ then _ else _) = _
        rw [holds]
        rfl

theorem loop_cases {input : TaskInput} {waiters : ConnectWaiters} (finish : run.finish = .none)
    (stepped : loopStep sh { run with waiters } input = some next)
    (same : waiters.reconnecting = run.waiters.reconnecting)
    (begins : ∀ close, run.base.task = .returned close → (∃ moved, input = .go moved) →
      (run.begun || run.base.shutdownRequested) = true)
    (left : ∀ failures, run.base.task = .replaying failures → (∃ moved, input = .go moved) →
      (run.replay.all fun replay => replay.rest.isEmpty) = true)
    (uninstalled : run.base.task = .opened → ∀ failures, input ≠ .installed failures) :
    WaitMove sh frameRequest run next := by
  obtain ⟨base, moved, rfl⟩ := Option.map_eq_some_iff.mp stepped
  refine .loops moved finish same begins left fun failures installed => ?_
  subst installed
  exact uninstalled (AioRun.installed_opened moved).1 failures rfl

theorem task_cases {input : TaskInput} (stepped : run.taskStep sh input = some next) :
    WaitMove sh frameRequest run next := by
  unfold WaitRun.taskStep at stepped
  split at stepped
  · cases stepped
  rename_i stays
  have finish : run.finish = .none := not_not.mp stays
  split at stepped
  case h_1 at_ =>
    refine loop_cases finish stepped rfl (fun _ _ moved => ?_) (fun _ other => ?_) fun _ _ => nofun
    · obtain ⟨_, moved⟩ := moved
      cases moved
    · rw [at_] at other
      cases other
  case h_2 at_ =>
    split at stepped
    · rename_i begun
      refine loop_cases finish stepped rfl (fun _ _ _ => begun) (fun _ other => ?_) fun _ _ => nofun
      rw [at_] at other
      cases other
    · cases stepped
  case h_3 at_ | h_4 at_ =>
    refine loop_cases finish stepped ?_ (fun _ other => ?_) (fun _ other => ?_) fun _ _ => nofun
    · rfl
    · rw [at_] at other
      cases other
    · rw [at_] at other
      cases other
  case h_5 => cases stepped
  case h_6 at_ =>
    split at stepped
    · rename_i dealt
      refine loop_cases finish stepped rfl (fun _ other => ?_) (fun _ _ _ => dealt) fun _ _ => nofun
      rw [at_] at other
      cases other
    · cases stepped
  case h_7 _ unbegun _ _ uninstalled unreplayed =>
    refine loop_cases finish stepped rfl (fun close returned moved => ?_)
      (fun failures replaying moved => ?_) fun opened failures installed => ?_
    · obtain ⟨moved, same⟩ := moved
      exact (unbegun close moved returned same).elim
    · obtain ⟨moved, same⟩ := moved
      exact (unreplayed failures moved replaying same).elim
    · exact uninstalled failures opened installed

/-- The dispatch task has begun to reconnect. -/
def Reconnects (run : WaitRun) : Prop := run.begun = true ∨ run.base.task.retries = true

/-- A client that no call has asked to stop. A task that has ended, or reads a connection it has just
opened, may have yet to say so, and no `connect` opens a connection before it has; the flag is set where
the task reconnects. -/
structure Going (run : WaitRun) : Prop where
  stands : run.base.Stands
  finishes : run.finish ≠ .none →
    run.base.task.isOver = true ∨ run.base.task = .reading none ∧ run.finish ≠ .returning
  alone : run.base.connect.looked = true → run.finish = .none
  stored : run.finish ≠ .none → ∃ handle, handle + 1 = run.base.spawned ∧
    (run.base.dispatchHandle = some handle ∨ run.base.connect = .storing handle)
  closed : run.finish ≠ .none → run.base.task.isOver = true →
    run.base.client.connection.isClosed = true
  began : run.begun = true → (∃ close, run.base.task = .returned close) ∧ run.base.retired = true
  flagged : run.Reconnects → run.waiters.reconnecting = true
  unflagged : run.waiters.reconnecting = true →
    run.finish = .clearing ∨ run.finish = .none ∧ run.Reconnects

/-- The invariant of the flags. -/
structure Inv (run : WaitRun) : Prop where
  base : run.base.Inv
  asked : run.unwoken = true → run.base.shutdownRequested = true
  going : run.base.shutdownRequested = false → run.Going

theorem Inv.start (config : ReconnectionConfig) : Inv { base := { mgr := .new config } } where
  base := .start config
  asked := nofun
  going := fun _ => {
    stands := .start config
    finishes := fun moved => absurd rfl moved
    alone := nofun
    stored := fun moved => absurd rfl moved
    closed := fun moved => absurd rfl moved
    began := nofun
    flagged := fun reconnects => by rcases reconnects with begun | retries <;> cases ‹_ = _›
    unflagged := nofun }

/-- Nothing of the callers, nor of those who have yet to wake them, is in the flags. -/
theorem Going.outside (going : run.Going) {leaving : LeaveAt} {joined : Nat} {unwoken : Bool}
    {callers : Nat → Waiter} : Going { run with leaving, joined, unwoken, callers } :=
  ⟨going.stands, going.finishes, going.alone, going.stored, going.closed, going.began, going.flagged,
    going.unflagged⟩

theorem Inv.outside (inv : run.Inv) {leaving : LeaveAt} {joined : Nat} {callers : Nat → Waiter} :
    Inv { run with leaving, joined, callers } :=
  ⟨inv.base, inv.asked, fun running => (inv.going running).outside⟩

/-- A reconnect that has begun is the task's. -/
theorem Going.running (going : run.Going) (reconnects : run.Reconnects) :
    run.base.task.isOver = false := by
  rcases reconnects with begun | retries
  · obtain ⟨⟨close, returned⟩, -⟩ := going.began begun
    rw [returned]
    rfl
  · by_contra ended
    rw [AioRun.not_retries (Bool.not_eq_false _ ▸ ended)] at retries
    cases retries

/-- What is still to come of a task that has ended, or of a reconnect, is no reconnect's. -/
theorem Going.not_reconnects (going : run.Going) (finishing : run.finish ≠ .none) : ¬ run.Reconnects := by
  rintro (begun | retries)
  · obtain ⟨⟨close, returned⟩, -⟩ := going.began begun
    rcases going.finishes finishing with ended | ⟨reading, -⟩
    · rw [returned] at ended
      cases ended
    · rw [returned] at reading
      cases reading
  · rcases going.finishes finishing with ended | ⟨reading, -⟩
    · rw [AioRun.not_retries ended] at retries
      cases retries
    · rw [reading] at retries
      cases retries

/-! ### `connect` -/

/-- Beside a `connect` past its looks the flags are down. -/
theorem Going.calm (going : run.Going) (inv : run.Inv) (running : run.base.shutdownRequested = false)
    (looked : run.base.connect.looked = true) :
    run.finish = .none ∧ ¬ run.Reconnects ∧ run.waiters.reconnecting = false := by
  have ended := inv.base.over_of_looked running looked
  have finish := going.alone looked
  have idle : ¬ run.Reconnects := fun reconnects => by
    have both := (going.running reconnects).symm.trans ended
    cases both
  refine ⟨finish, idle, ?_⟩
  by_contra flagged
  rcases going.unflagged (Bool.not_eq_false _ ▸ flagged) with clearing | ⟨-, reconnects⟩
  · rw [finish] at clearing
    cases clearing
  · exact idle reconnects

/-- Nothing is to come and no reconnect has begun. -/
theorem Going.quiet (stands : run.base.Stands) (finish : run.finish = .none) (idle : ¬ run.Reconnects)
    (down : run.waiters.reconnecting = false) : run.Going where
  stands := stands
  finishes := fun moved => absurd finish moved
  alone := fun _ => finish
  stored := fun moved => absurd finish moved
  closed := fun moved => absurd finish moved
  began := fun begun => absurd (.inl begun) idle
  flagged := fun reconnects => absurd reconnects idle
  unflagged := fun flagged => by
    rw [down] at flagged
    cases flagged

/-- `connect` moves on beside a client that is not stopping. -/
theorem Going.connects (going : run.Going) (inv : run.Inv) {input : AioConnectInput} {base : AioRun}
    {leaving : LeaveAt} (stepped : run.base.connectStep sh input = some base)
    (running : run.base.shutdownRequested = false)
    (free : run.base.connect = .claimed → run.dispatchTaskRunning = false) :
    Going { run with base, leaving } := by
  have stands := going.stands.connect inv.base running stepped
  cases looked : run.base.connect.looked with
  | true =>
    obtain ⟨finish, idle, down⟩ := going.calm inv running looked
    have ended := inv.base.over_of_looked running looked
    refine .quiet stands finish ?_ down
    rintro (begun | retries)
    · exact idle (.inl begun)
    · change base.task.retries = true at retries
      rcases AioRun.connect_task stepped with same | ⟨reading, -⟩
      · rw [same, AioRun.not_retries ended] at retries
        cases retries
      · rw [reading] at retries
        cases retries
  | false =>
    have alone (now : base.connect.looked = true) : run.finish = .none := by
      obtain ⟨claimed, -⟩ := AioRun.connect_looks stepped looked now
      by_contra finishing
      obtain ⟨handle, last, stored⟩ := going.stored finishing
      rw [claimed] at stored
      have busy : run.dispatchTaskRunning = true := by
        simp [dispatchTaskRunning, taskRunning, stored.resolve_right nofun, last, finishing]
      have both := busy.symm.trans (free claimed)
      cases both
    rcases AioRun.connect_unlooked stepped looked with ⟨handle, storing, rfl⟩ | ⟨still, same⟩
    · exact ⟨stands, going.finishes, alone,
        fun _ => ⟨handle, inv.base.storing handle storing, .inl rfl⟩, going.closed, going.began,
        going.flagged, going.unflagged⟩
    · rw [same] at stands alone ⊢
      refine ⟨stands, going.finishes, alone, fun finishing => ?_, going.closed, going.began,
        going.flagged, going.unflagged⟩
      obtain ⟨handle, last, stored⟩ := going.stored finishing
      exact ⟨handle, last, .inl (stored.resolve_right (still handle))⟩

/-- A `connect` that waits for the dispatch task it has found leaves the rest alone. -/
theorem Going.joins (going : run.Going) (unlooked : run.base.connect.looked = false)
    (still : ∀ handle, run.base.connect ≠ .storing handle) {joined : Nat} :
    Going { run with base := { run.base with connect := .idle }, joined } where
  stands := {
    task := going.stands.task
    calm := fun ended up => by
      have looked := AioRun.looked_of_isUp (going.stands.calm ended up)
      rw [unlooked] at looked
      cases looked
    shown := nofun
    opened := nofun
    given := nofun
    reads := going.stands.reads
    replays := going.stands.replays
    sink := going.stands.sink }
  finishes := going.finishes
  alone := nofun
  stored := fun finishing => by
    obtain ⟨handle, last, stored⟩ := going.stored finishing
    exact ⟨handle, last, .inl (stored.resolve_right (still handle))⟩
  closed := going.closed
  began := going.began
  flagged := going.flagged
  unflagged := going.unflagged

/-- No closing call has begun. -/
theorem closer_idle (inv : run.base.Inv) (running : run.base.shutdownRequested = false) :
    run.base.closer = .idle := by
  by_contra moved
  have both := (inv.stopping moved).symm.trans running
  cases both

/-- No dispatch task is found running by a `connect` that goes on with the gate. -/
theorem not_running (inv : run.base.Inv) (going : run.base.shutdownRequested = false)
    (free : ¬ (run.base.closer.locksDispatch = false ∧ run.dispatchTaskRunning = true)) :
    run.dispatchTaskRunning = false := by
  by_contra running
  refine free ⟨?_, Bool.not_eq_false _ ▸ running⟩
  rw [closer_idle inv going]
  rfl

/-! ### The dispatch task -/

theorem finishAfter_clearing {task : LoopAt} {input : TaskInput} {base : AioRun} (kept : input ≠ .drop)
    (ends : task = .replaying [] ∨ base.task.isOver = true) :
    finishAfter task input base = .clearing := by
  unfold finishAfter
  split
  · exact absurd rfl kept
  · rfl
  · rename_i unreplayed _
    exact if_pos (ends.resolve_left unreplayed)

theorem finishAfter_none {task : LoopAt} {input : TaskInput} {base : AioRun}
    (unreplayed : task ≠ .replaying []) (running : base.task.isOver = false) :
    finishAfter task input base = .none := by
  unfold finishAfter
  split
  · rfl
  · exact absurd rfl unreplayed
  · rw [running]
    rfl

theorem finishAfter_cases (task : LoopAt) (input : TaskInput) (base : AioRun) :
    finishAfter task input base = .none ∨ finishAfter task input base = .clearing ∧
      (task = .replaying [] ∨ base.task.isOver = true) := by
  unfold finishAfter
  split
  · exact .inl rfl
  · exact .inr ⟨rfl, .inl rfl⟩
  · split
    · rename_i ended
      exact .inr ⟨rfl, .inr ended⟩
    · exact .inl rfl

/-- The dispatch task moves on beside a client that is not stopping. What it has yet to do is what the end
of a replay or of the task leaves it. -/
theorem Going.loops (going : run.Going) (inv : run.Inv) (finish : run.finish = .none)
    {input : TaskInput} {base : AioRun} {waiters : ConnectWaiters}
    (stepped : run.base.taskStep sh input = some base) (running : run.base.shutdownRequested = false)
    (same : waiters.reconnecting = run.waiters.reconnecting)
    (begins : ∀ close, run.base.task = .returned close → (∃ moved, input = .go moved) →
      run.begun = true) :
    Going { run with
      base, waiters, begun := false, finish := finishAfter run.base.task input base } := by
  obtain ⟨going_, connect, handle, spawned, -⟩ := AioRun.task_frame stepped
  have kept := AioRun.task_undropped inv.base running stepped
  exact {
    stands := going.stands.taskStep inv.base running stepped
    finishes := fun finishing => by
      rcases finishAfter_cases run.base.task input base with none | ⟨clearing, replaying | ended⟩
      · exact absurd none finishing
      · rcases AioRun.task_replayed stepped replaying with reading | ended
        · refine .inr ⟨reading, ?_⟩
          show finishAfter run.base.task input base ≠ .returning
          rw [clearing]
          nofun
        · exact .inl ended
      · exact .inl ended
    alone := fun looked => by
      rw [show base.connect = run.base.connect from connect] at looked
      have both := (inv.base.over_of_looked running looked).symm.trans going_
      cases both
    stored := fun _ => by
      show ∃ stored, stored + 1 = base.spawned ∧
        (base.dispatchHandle = some stored ∨ base.connect = .storing stored)
      rw [connect, handle, spawned]
      exact inv.base.stored going_ running
    closed := fun _ ended => (going.stands.halts inv.base running stepped ended).closed ended
    began := nofun
    flagged := fun reconnects => by
      have retries : base.task.retries = true := reconnects.resolve_left nofun
      refine same.trans (going.flagged ?_)
      by_cases replaying : run.base.task = .replaying []
      · exact .inr (by rw [replaying]; rfl)
      rcases (AioRun.task_stays stepped replaying).begins retries with before | ⟨close, returned⟩
      · exact .inr before
      rcases AioRun.returned_input returned stepped with ⟨-, -, still⟩ | ⟨moved, -⟩
      · rw [still, returned] at retries
        cases retries
      · exact .inl (begins close returned moved)
    unflagged := fun flagged => by
      have before : run.Reconnects := by
        rcases going.unflagged (same.symm.trans flagged) with clearing | ⟨-, reconnects⟩
        · rw [finish] at clearing
          cases clearing
        · exact reconnects
      by_cases replaying : run.base.task = .replaying []
      · exact .inl (finishAfter_clearing kept (.inl replaying))
      have onward : base.task.isOver = true ∨ base.task.retries = true := by
        rcases before with begun | retries
        · obtain ⟨⟨close, returned⟩, retired⟩ := going.began begun
          rcases AioRun.returned_input returned stepped with ⟨-, fresh, -⟩ | ⟨-, onward⟩
          · rw [retired] at fresh
            cases fresh
          · exact onward
        · exact (AioRun.task_stays stepped replaying).goes retries
      cases ended : base.task.isOver with
      | true => exact .inl (finishAfter_clearing kept (.inr ended))
      | false =>
        refine .inr ⟨finishAfter_none replaying ended, .inr ?_⟩
        exact onward.resolve_left (by rw [ended]; nofun) }

/-- The next connection's writer is started. -/
theorem Going.installs (going : run.Going) (inv : run.base.Inv) (running : run.base.shutdownRequested = false)
    (opened : run.base.task = .opened) {base : AioRun} {replay : Option ReplayRecord}
    (stepped : run.base.taskStep sh (.installed []) = some base) : Going { run with base, replay } := by
  have reconnects : run.Reconnects := .inr (by rw [opened]; rfl)
  have finish : run.finish = .none := by
    by_contra finishing
    exact going.not_reconnects finishing reconnects
  have unbegun : run.begun = false := by
    by_contra begun
    obtain ⟨⟨close, returned⟩, -⟩ := going.began (Bool.not_eq_false _ ▸ begun)
    rw [opened] at returned
    cases returned
  have stands := going.stands.taskStep inv running stepped
  obtain ⟨-, rfl⟩ := AioRun.installed_opened stepped
  have flagged := going.flagged reconnects
  exact {
    stands := stands
    finishes := fun finishing => absurd finish finishing
    alone := fun _ => finish
    stored := fun finishing => absurd finish finishing
    closed := fun finishing => absurd finish finishing
    began := fun begun => by
      have both := unbegun.symm.trans begun
      cases both
    flagged := fun _ => flagged
    unflagged := fun _ => .inr ⟨finish, .inr rfl⟩ }

/-- The reconnect begins. -/
theorem Going.begins (going : run.Going) {close : ConnectionClose} (returned : run.base.task = .returned close)
    (retired : run.base.retired = true) (finish : run.finish = .none) :
    Going { run with waiters := run.waiters.reconnectStarted, begun := true } where
  stands := going.stands
  finishes := going.finishes
  alone := fun _ => finish
  stored := going.stored
  closed := going.closed
  began := fun _ => ⟨⟨close, returned⟩, retired⟩
  flagged := fun _ => rfl
  unflagged := fun _ => .inr ⟨finish, .inl rfl⟩

/-- Somebody moves who leaves the state, the slots and the flags alone. -/
theorem Going.beside (going : run.Going) {client : Client} {outbox : Outbox} {reports : List Report}
    {replay : Option ReplayRecord} (same : Client.Same run.base.client client)
    (slots : run.base.outbox.SameSlots outbox) :
    Going { run with base := { run.base with client, outbox, reports }, replay } where
  stands := going.stands.beside same slots
  finishes := going.finishes
  alone := going.alone
  stored := going.stored
  closed := fun finishing ended => by
    show client.connection.isClosed = true
    rw [same.connection]
    exact going.closed finishing ended
  began := going.began
  flagged := going.flagged
  unflagged := going.unflagged

/-! ### The ends -/

/-- The flag is down once a reconnect or the task is over, and no reconnect has begun then. -/
theorem Going.ends (going : run.Going) (finishing : run.finish ≠ .none)
    {waiters : ConnectWaiters} {finish : FinishAt} (down : waiters.reconnecting = false)
    (returning : finish = .returning → run.base.task.isOver = true) :
    Going { run with waiters, finish } := by
  have idle := going.not_reconnects finishing
  exact {
    stands := going.stands
    finishes := fun _ => by
      rcases going.finishes finishing with ended | ⟨reading, -⟩
      · exact .inl ended
      · refine .inr ⟨reading, fun returns => ?_⟩
        have ended := returning returns
        rw [reading] at ended
        cases ended
    alone := fun looked => absurd (going.alone looked) finishing
    stored := fun _ => going.stored finishing
    closed := fun _ => going.closed finishing
    began := going.began
    flagged := fun reconnects => absurd reconnects idle
    unflagged := fun flagged => by
      have both := down.symm.trans flagged
      cases both }

/-- Past `reconnecting.store(false)` the flag is down. -/
theorem Going.cleared (going : run.Going) (later : run.finish = .waking ∨ run.finish = .returning) :
    run.waiters.reconnecting = false := by
  by_contra flagged
  rcases going.unflagged (Bool.not_eq_false _ ▸ flagged) with clearing | ⟨none, -⟩
  · rcases later with later | later <;> rw [clearing] at later <;> cases later
  · rcases later with later | later <;> rw [none] at later <;> cases later

/-! ### Every step -/

/-- A step that leaves the client asked to stop where it was. -/
theorem Inv.goes (inv : run.Inv) (base : next.base.Inv)
    (stop : next.base.shutdownRequested = run.base.shutdownRequested) (unwoken : next.unwoken = run.unwoken)
    (going : run.base.shutdownRequested = false → run.Going → next.Going) : next.Inv where
  base := base
  asked := fun asked => stop.trans (inv.asked (unwoken.symm.trans asked))
  going := fun running => by
    have before := stop.symm.trans running
    exact going before (inv.going before)

/-- Every step but for the marks keeps the invariant. -/
theorem Inv.move (inv : run.Inv) (move : WaitMove sh frameRequest run next) : next.Inv := by
  cases move with
  | waits stepped =>
    obtain ⟨waiter, rfl⟩ := wait_cases stepped
    exact inv.outside
  | releases | leaves | returns => exact inv.outside
  | @connects input base waiters leaving stepped still free fresh leaves =>
    refine inv.goes (inv.base.connectMove (AioRun.connect_cases stepped)) (AioRun.connect_stop stepped) rfl
      fun running going => ?_
    have kept : Going { run with base, leaving } := going.connects inv stepped running fun claimed =>
      not_running inv.base running (free claimed)
    rcases fresh with rfl | ⟨conflict, lowered⟩
    · exact kept
    · obtain ⟨finish, idle, down⟩ := going.calm inv running (by rw [conflict]; rfl)
      refine .quiet kept.stands finish (fun reconnects => ?_) lowered
      have flagged := kept.flagged reconnects
      rw [show run.waiters.reconnecting = true from flagged] at down
      cases down
  | joins at_ =>
    have unlooked : run.base.connect.looked = false := by rcases at_ with at_ | at_ <;> rw [at_] <;> rfl
    have still (handle : Nat) : run.base.connect ≠ .storing handle := by
      rcases at_ with at_ | at_ <;> rw [at_] <;> nofun
    have installed (data : Value) (frames : List WebSocketMessage) :
        run.base.connect ≠ .installing data frames := by
      rcases at_ with at_ | at_ <;> rw [at_] <;> nofun
    have base := @AioRun.Inv.connectMove sh _ _ inv.base (.returns installed still)
    exact inv.goes base rfl rfl fun _ going => going.joins unlooked still
  | loops stepped finish same begins =>
    refine inv.goes (inv.base.taskMove (AioRun.task_cases stepped)) (AioRun.task_stop stepped) rfl
      fun running going => ?_
    refine going.loops inv finish stepped running same fun close returned moved => ?_
    have begun := begins close returned moved
    rw [running, Bool.or_false] at begun
    exact begun
  | begins returned retired finish =>
    exact inv.goes inv.base rfl rfl fun _ going => going.begins returned retired finish
  | installs opened stepped =>
    exact inv.goes (inv.base.taskMove (AioRun.task_cases stepped)) (AioRun.task_stop stepped) rfl
      fun running going => going.installs inv.base running opened stepped
  | fails =>
    exact inv.goes (inv.base.beside (.of_section (Client.emitUnlessClosed_section sh rfl _)) inv.base.box
      (.refl _)) rfl rfl fun _ going => going.beside (Client.emitUnlessClosed_same sh _ _) (.refl _)
  | queues replaying is built queued =>
    exact inv.goes (inv.base.beside (.refl _) (inv.base.box.put queued) (.put queued)) rfl rfl
      fun _ going => going.beside (.refl _) (.put queued)
  | clears at_ =>
    exact inv.goes inv.base rfl rfl fun _ going => going.ends (by rw [at_]; nofun) rfl nofun
  | wakes at_ =>
    refine inv.goes inv.base rfl rfl fun _ going => ?_
    have returns (returning : (if run.base.task.isOver then FinishAt.returning else .none) = .returning) :
        run.base.task.isOver = true := by
      by_contra ended
      rw [if_neg ended] at returning
      cases returning
    exact (going.ends (by rw [at_]; nofun) (going.cleared (.inl at_)) returns).outside
  | ends at_ =>
    exact inv.goes inv.base rfl rfl fun _ going =>
      going.ends (by rw [at_]; nofun) (going.cleared (.inr at_)) nofun
  | closes stepped =>
    have stops := AioRun.close_stops inv.base stepped
    exact ⟨inv.base.closeStep stepped, fun _ => stops, fun running => by
      have both := stops.symm.trans running
      cases both⟩
  | asks => exact ⟨inv.base, nofun, fun running => (inv.going running).outside⟩
  | beside other stepped =>
    have kept := AioRun.step_inv inv.base stepped
    obtain ⟨client, outbox, reports, rfl, same, slots, -⟩ := AioRun.beside_cases other stepped
    exact inv.goes kept rfl rfl fun _ going => going.beside same slots

/-- No step takes back that the client was asked to stop. -/
theorem move_running (inv : run.Inv) (move : WaitMove sh frameRequest run next)
    (running : next.base.shutdownRequested = false) : run.base.shutdownRequested = false := by
  cases move with
  | waits stepped =>
    obtain ⟨waiter, rfl⟩ := wait_cases stepped
    exact running
  | connects stepped => exact (AioRun.connect_stop stepped).symm.trans running
  | loops stepped | installs _ stepped => exact (AioRun.task_stop stepped).symm.trans running
  | closes stepped =>
    have both := (AioRun.close_stops inv.base stepped).symm.trans running
    cases both
  | beside other stepped =>
    obtain ⟨client, outbox, reports, rfl, -⟩ := AioRun.beside_cases other stepped
    exact running
  | _ => exact running

end WaitRun

end FugleMarketdata
