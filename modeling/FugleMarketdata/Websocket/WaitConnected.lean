/-
**What `wait_connected` answers.** Its callers beside the client, in every run of `waitRuns`: an `Ok` comes
from a connection whose writer is installed and whose replay is over, and a caller that goes on waiting has
a wake-up to come.

* `WaitRun.InProgress`, `WaitRun.WakeDue` — the wake-ups still to come;
* `WaitRun.Sure` — what a caller relies on where it is;
* `WaitRun.Passes` — what a step of the others leaves of it;
* `wait_connected_answers` — what a caller is answered.
-/

import FugleMarketdata.Websocket.OutboundReports
import FugleMarketdata.Websocket.WaitReplay

namespace FugleMarketdata

open StepMachines StepMachine

namespace WaitRun

variable {sh : Shared} {frameRequest : WebSocketRequest → Except ErrorInfo String} {run next : WaitRun}

/-! ### A connected client -/

/-- The dispatch task has opened a connection it has yet to read. -/
def Replaying (run : WaitRun) : Prop :=
  run.waiters.reconnecting = true ∧
    (run.base.task = .opened ∨ ∃ failures, run.base.task = .replaying failures)

theorem isSettled_of_holds {connection : Nat} (current : run.base.current = some connection)
    (holds : run.base.outbox.Holds connection)
    (dealt : ∀ replay, run.replay = some replay → replay.connection ≠ connection ∨ replay.rest = []) :
    run.isSettled = true := by
  have installed : run.base.outbox.installed connection = true := by
    simp [Outbox.installed, holds.sink, holds.sender, holds.handle]
  unfold isSettled
  rw [current]
  show (_ && _) = true
  rw [installed, Bool.true_and]
  cases is : run.replay with
  | none => rfl
  | some replay => simpa using dealt replay is

/-- The connection the dispatch task reads has its writer, and its replay is over. -/
theorem Keeps.settled_of_unreported (keeps : run.Keeps frameRequest)
    (running : run.base.shutdownRequested = false) (unreported : run.base.task.unreported = true) :
    run.isSettled = true := by
  have stands := (keeps.inv.going running).stands
  have working : run.base.task.isOver = false := by
    by_contra ended
    rw [AioRun.not_unreported (Bool.not_eq_false _ ▸ ended)] at unreported
    cases unreported
  have unreceived := keeps.inv.base.receives_none running working
  have current : run.base.current = some run.base.taskConnection := by
    unfold AioRun.current
    split
    case h_1 own | h_2 own =>
      rw [own] at unreceived
      cases unreceived
    case h_3 =>
      split
      · rfl
      · rfl
      · rfl
      · rename_i reading deciding reporting
        cases at_ : run.base.task with
        | reading last => exact (reading last at_).elim
        | deciding last ending => exact (deciding last ending at_).elim
        | reporting last ending will => exact (reporting last ending will at_).elim
        | _ =>
          rw [at_] at unreported
          cases unreported
  exact isSettled_of_holds current (stands.reads unreported) fun replay is =>
    (keeps.replays running).dealt _ replay (.inr ⟨unreported, rfl⟩) is

/-- A client found connected is settled, or its dispatch task is at the replay. -/
theorem Keeps.settled_of_connected (keeps : run.Keeps frameRequest)
    (running : run.base.shutdownRequested = false)
    (connected : run.base.client.connection = .connected) : run.isSettled = true ∨ run.Replaying := by
  have going := keeps.inv.going running
  have stands := going.stands
  cases ended : run.base.task.isOver with
  | true =>
    left
    have shown := stands.calm ended connected
    have given {connection : Nat} (current : run.base.current = some connection)
        (receives : run.base.connect.receives = some connection) : run.isSettled = true :=
      isSettled_of_holds current (stands.given connection receives) fun replay is =>
        (keeps.replays running).dealt connection replay (.inl receives) is
    cases at_ : run.base.connect with
    | authenticating connection data frames =>
      exact @given connection (by rw [AioRun.current, at_]) (by rw [at_]; rfl)
    | spawning connection => exact @given connection (by rw [AioRun.current, at_]) (by rw [at_]; rfl)
    | _ =>
      rw [at_] at shown
      cases shown
  | false =>
    have flagged (retries : run.base.task.retries = true) : run.waiters.reconnecting = true :=
      going.flagged (.inr retries)
    rcases (stands.task ended).place ended connected with unreported | opened | ⟨failures, replaying⟩
    · exact .inl (keeps.settled_of_unreported running unreported)
    · exact .inr ⟨flagged (by rw [opened]; rfl), .inl opened⟩
    · exact .inr ⟨flagged (by rw [replaying]; rfl), .inr ⟨failures, replaying⟩⟩

/-! ### The wake-ups to come -/

/-- A `connect` holds the gate and finds no dispatch task running. -/
def Opening (run : WaitRun) : Prop :=
  run.base.connect.holdsGate = true ∧ (run.base.connect = .claimed → run.dispatchTaskRunning = false)

/-- A `connect` opens a connection or has yet to wake the waiters, or the dispatch task has yet to: it ends,
or it lost its connection and reconnects or gives up. -/
inductive InProgress (run : WaitRun) : Prop
  | opening (opens : run.Opening)
  | leaving (left : run.leaving ≠ .none)
  | finishing (finishes : run.finish = .clearing ∨ run.finish = .waking)
  | reconnecting (working : run.base.task.isOver = false) (lost : run.base.task.unreported = false)

/-- No dispatch task runs, and none has yet to return. -/
def Idle (run : WaitRun) : Prop := run.base.task.isOver = true ∧ run.finish = .none

theorem Idle.not_running (idle : run.Idle) : run.dispatchTaskRunning = false := by
  unfold dispatchTaskRunning
  cases run.base.dispatchHandle with
  | none => rfl
  | some handle => simp [taskRunning, idle.1, idle.2]

/-- A dispatch task that runs beside a `connect` past the claim keeps it from going on. -/
theorem Opening.unclaimed (opens : run.Opening) (inv : run.Inv)
    (running : run.base.shutdownRequested = false)
    (busy : run.base.task.isOver = false ∨ run.finish ≠ .none) : run.base.connect ≠ .claimed := by
  intro claimed
  have stored : ∃ handle, handle + 1 = run.base.spawned ∧
      (run.base.dispatchHandle = some handle ∨ run.base.connect = .storing handle) :=
    busy.elim (fun working => inv.base.stored working running) (inv.going running).stored
  obtain ⟨handle, last, stored⟩ := stored
  have held : run.base.dispatchHandle = some handle := stored.resolve_right fun storing => by
    rw [claimed] at storing
    cases storing
  have free := opens.2 claimed
  simp only [dispatchTaskRunning, held, Option.any_some, taskRunning, last, Bool.and_eq_false_iff] at free
  rcases busy with working | finishing
  · simp [working] at free
  · simp [finishing] at free

/-- A step that leaves the dispatch task, and what is yet to be done, where they are. -/
theorem InProgress.stays (progress : run.InProgress) (opening : run.Opening → next.Opening)
    (leaving : next.leaving = run.leaving) (finish : next.finish = run.finish)
    (task : next.base.task = run.base.task) : next.InProgress := by
  cases progress with
  | opening opens => exact .opening (opening opens)
  | leaving left => exact .leaving (leaving ▸ left)
  | finishing finishes => exact .finishing (finish ▸ finishes)
  | reconnecting working lost => exact .reconnecting (task ▸ working) (task ▸ lost)

/-! ### What the others leave -/

/-- The step woke the waiters. -/
def Woke (run next : WaitRun) : Prop := next.callers = run.wake.callers

/-- What a step of the others leaves of what a caller relies on. -/
structure Passes (run next : WaitRun) : Prop where
  callers : next.callers = run.callers ∨ run.Woke next
  asks : next.base.shutdownRequested = true →
    next.unwoken = true ∨ run.base.shutdownRequested = true ∧ (run.unwoken = true → run.Woke next)
  due : next.base.shutdownRequested = false → run.InProgress → next.InProgress ∨ run.Woke next
  idle : next.base.shutdownRequested = false → run.Idle → next.Idle ∨ next.InProgress
  replays : next.base.shutdownRequested = false → run.Replaying → next.Replaying ∨ next.isSettled = true

/-- A step that asks nobody to stop. -/
theorem Passes.going (callers : next.callers = run.callers ∨ run.Woke next)
    (stop : next.base.shutdownRequested = run.base.shutdownRequested) (unwoken : next.unwoken = run.unwoken)
    (due : run.base.shutdownRequested = false → run.InProgress → next.InProgress ∨ run.Woke next)
    (idle : run.base.shutdownRequested = false → run.Idle → next.Idle ∨ next.InProgress)
    (replays : run.base.shutdownRequested = false → run.Replaying →
      next.Replaying ∨ next.isSettled = true) : run.Passes next where
  callers := callers
  asks := fun stopped => by
    by_cases asked : run.unwoken = true
    · exact .inl (unwoken.trans asked)
    · exact .inr ⟨stop.symm.trans stopped, fun now => absurd now asked⟩
  due := fun running => due (stop.symm.trans running)
  idle := fun running => idle (stop.symm.trans running)
  replays := fun running => replays (stop.symm.trans running)

/-- A step that leaves the parties where they are. -/
theorem Passes.still {client : Client} {outbox : Outbox} {reports : List Report}
    {replay : Option ReplayRecord} {waiters : ConnectWaiters} {begun : Bool}
    (flagged : run.waiters.reconnecting = true → waiters.reconnecting = true) :
    run.Passes { run with
      base := { run.base with client, outbox, reports }, replay, waiters, begun } :=
  .going (.inl rfl) rfl rfl (fun _ progress => .inl (progress.stays id rfl rfl rfl))
    (fun _ idle => .inl idle) fun _ replaying => .inl (replaying.imp_left flagged)

/-- `connect` moves on. -/
theorem Passes.connects (inv : run.base.Inv) {input : AioConnectInput} {base : AioRun}
    {waiters : ConnectWaiters} {leaving : LeaveAt}
    (stepped : run.base.connectStep sh input = some base) (still : run.leaving = .none)
    (fresh : waiters = run.waiters ∨ run.base.connect = .conflict ∧ waiters.reconnecting = false)
    (leaves : run.base.connect.holdsGate = true → run.base.connect ≠ .claimed →
      base.connect.holdsGate = true ∨ leaving = .gate) :
    run.Passes { run with base, waiters, leaving } := by
  have moved := AioRun.connect_task stepped
  have opening {handle : Nat} (storing : base.connect = .storing handle) :
      Opening { run with base, waiters, leaving } := by
    refine ⟨(congrArg AioConnectAt.holdsGate storing).trans rfl, fun now => ?_⟩
    rw [show base.connect = .claimed from now] at storing
    cases storing
  refine .going (.inl rfl) (AioRun.connect_stop stepped) rfl (fun _ progress => .inl ?_) (fun _ idle => ?_)
    fun running replaying => ?_
  · cases progress with
    | opening opens =>
      obtain ⟨holds, free⟩ := opens
      by_cases claimed : run.base.connect = .claimed
      · have running := free claimed
        have goes : base.connect = .conflict := AioRun.connect_goes stepped claimed (by
          simp only [dispatchTaskRunning, Option.any_eq_false, taskRunning, AioRun.taskRunning] at running ⊢
          intro handle is
          have := running handle is
          simp_all)
        refine .opening ⟨?_, fun now => ?_⟩
        · show base.connect.holdsGate = true
          rw [goes]
          rfl
        · rw [show base.connect = .claimed from now] at goes
          cases goes
      · rcases leaves holds claimed with up | gate
        · refine .opening ⟨up, fun now => ?_⟩
          rw [AioRun.connect_claims stepped now] at holds
          cases holds
        · refine .leaving fun left => ?_
          rw [show leaving = .none from left] at gate
          cases gate
    | leaving left => exact absurd still left
    | finishing finishes => exact .finishing finishes
    | reconnecting working lost =>
      rcases moved with same | ⟨-, handle, storing⟩
      · exact .reconnecting ((congrArg LoopAt.isOver same).trans working)
          ((congrArg LoopAt.unreported same).trans lost)
      · exact .opening (opening storing)
  · rcases moved with same | ⟨-, handle, storing⟩
    · exact .inl ⟨(congrArg LoopAt.isOver same).trans idle.1, idle.2⟩
    · exact .inr (.opening (opening storing))
  · obtain ⟨flagged, at_⟩ := replaying
    have working : run.base.task.isOver = false := by
      rcases at_ with at_ | ⟨failures, at_⟩ <;> rw [at_] <;> rfl
    have unlooked : run.base.connect.looked = false := by
      by_contra looked
      have both := (inv.over_of_looked running (Bool.not_eq_false _ ▸ looked)).symm.trans working
      cases both
    rcases fresh with rfl | ⟨conflict, -⟩
    · rcases AioRun.connect_unlooked stepped unlooked with ⟨handle, -, rfl⟩ | ⟨-, same⟩
      · exact .inl ⟨flagged, at_⟩
      · refine .inl ⟨flagged, ?_⟩
        show base.task = .opened ∨ ∃ failures, base.task = .replaying failures
        rw [same]
        exact at_
    · rw [conflict] at unlooked
      cases unlooked

/-- The dispatch task moves on. -/
theorem Passes.loops (inv : run.Inv) (after : next.Keeps frameRequest) {input : TaskInput} {base : AioRun}
    {waiters : ConnectWaiters} (stepped : run.base.taskStep sh input = some base)
    (finish : run.finish = .none) (same : waiters.reconnecting = run.waiters.reconnecting)
    (is : next = { run with
      base, waiters, begun := false, finish := finishAfter run.base.task input base }) :
    run.Passes next := by
  obtain ⟨working, connect, handle, spawned, -⟩ := AioRun.task_frame stepped
  subst is
  have stop := AioRun.task_stop stepped
  refine .going (.inl rfl) stop rfl (fun running progress => .inl ?_) (fun _ idle => ?_)
    fun running replaying => ?_
  · cases progress with
    | opening opens =>
      have unclaimed := opens.unclaimed inv running (.inl working)
      refine .opening ⟨(congrArg AioConnectAt.holdsGate connect).trans opens.1, fun now => ?_⟩
      exact absurd (connect.symm.trans now) unclaimed
    | leaving left => exact .leaving left
    | finishing finishes =>
      rw [finish] at finishes
      rcases finishes with at_ | at_ <;> cases at_
    | reconnecting _ lost =>
      have kept := AioRun.task_undropped inv.base running stepped
      cases ended : base.task.isOver with
      | true => exact .finishing (.inl (finishAfter_clearing kept (.inr ended)))
      | false =>
        cases unreported : base.task.unreported with
        | false => exact .reconnecting ended unreported
        | true =>
          rcases AioRun.task_unreported stepped unreported with before | replayed
          · have both := before.symm.trans lost
            cases both
          · exact .finishing (.inl (finishAfter_clearing kept (.inl replayed)))
  · have both := working.symm.trans idle.1
    cases both
  · obtain ⟨flagged, at_⟩ := replaying
    have flag := same.trans flagged
    rcases AioRun.task_goes inv.base running stepped at_ with opened | reading | replaying
    · exact .inl ⟨flag, .inl opened⟩
    · exact .inr (after.settled_of_unreported (stop.trans running) (by
        show base.task.unreported = true
        rw [reading]
        rfl))
    · exact .inl ⟨flag, .inr replaying⟩

/-- No connection is at its replay beside what is still to come of the last reconnect. -/
theorem Going.not_replaying (going : run.Going) (finishing : run.finish ≠ .none) : ¬ run.Replaying := by
  rintro ⟨-, at_⟩
  have retries : run.base.task.retries = true := by
    rcases at_ with at_ | ⟨failures, at_⟩ <;> rw [at_] <;> rfl
  exact going.not_reconnects finishing (.inr retries)

/-- The task does what it has yet to do. -/
theorem Passes.finishes (inv : run.Inv) (finishing : run.finish ≠ .none)
    (callers : next.callers = run.callers ∨ run.Woke next)
    (stop : next.base.shutdownRequested = run.base.shutdownRequested) (unwoken : next.unwoken = run.unwoken)
    (due : run.base.shutdownRequested = false → run.InProgress → next.InProgress ∨ run.Woke next) :
    run.Passes next :=
  .going callers stop unwoken due (fun _ idle => absurd idle.2 finishing) fun running replaying =>
    absurd replaying ((inv.going running).not_replaying finishing)

/-- **What a step of the others leaves**, but for the marks. -/
theorem Keeps.passes (keeps : run.Keeps frameRequest) (move : WaitMove sh frameRequest run next) :
    (∃ caller, run.waitStep caller = some next) ∨ run.Passes next := by
  have after := keeps.move move
  have inv := keeps.inv
  cases move with
  | @waits caller _ stepped => exact .inl ⟨caller, stepped⟩
  | connects stepped still free fresh leaves =>
    exact .inr (.connects inv.base stepped still fresh leaves)
  | joins at_ running =>
    refine .inr (.going (.inl rfl) rfl rfl (fun _ progress => .inl ?_) (fun _ idle => .inl idle)
      fun _ replaying => .inl replaying)
    refine progress.stays (fun opens => ?_) rfl rfl rfl
    obtain ⟨holds, free⟩ := opens
    rcases at_ with joining | claimed
    · rw [joining] at holds
      cases holds
    · have both := (free claimed).symm.trans running
      cases both
  | releases =>
    exact .inr (.going (.inl rfl) rfl rfl (fun _ _ => .inl (.leaving nofun)) (fun _ idle => .inl idle)
      fun _ replaying => .inl replaying)
  | leaves | returns =>
    exact .inr (.going (.inr rfl) rfl rfl (fun _ _ => .inr rfl) (fun _ idle => .inl idle)
      fun _ replaying => .inl replaying)
  | loops stepped finish same => exact .inr (.loops inv after stepped finish same rfl)
  | begins => exact .inr (.still fun _ => rfl)
  | installs opened stepped =>
    obtain ⟨-, rfl⟩ := AioRun.installed_opened stepped
    refine .inr (.going (.inl rfl) rfl rfl (fun _ _ => .inl (.reconnecting rfl rfl)) (fun _ idle => ?_)
      fun _ replaying => .inl ⟨replaying.1, .inr ⟨[], rfl⟩⟩)
    have ended := idle.1
    rw [opened] at ended
    cases ended
  | fails | queues => exact .inr (.still id)
  | clears at_ =>
    exact .inr (.finishes inv (by rw [at_]; nofun) (.inl rfl) rfl rfl fun _ _ =>
      .inl (.finishing (.inr rfl)))
  | wakes at_ =>
    exact .inr (.finishes inv (by rw [at_]; nofun) (.inr rfl) rfl rfl fun _ _ => .inr rfl)
  | ends at_ =>
    have finishing : run.finish ≠ .none := by rw [at_]; nofun
    refine .inr (.finishes inv finishing (.inl rfl) rfl rfl fun running progress => .inl ?_)
    cases progress with
    | opening opens =>
      exact .opening ⟨opens.1, fun claimed => absurd claimed (opens.unclaimed inv running (.inr finishing))⟩
    | leaving left => exact .leaving left
    | finishing finishes =>
      rw [at_] at finishes
      rcases finishes with now | now <;> cases now
    | reconnecting working lost => exact .reconnecting working lost
  | @closes input base stepped woken =>
    have stops := AioRun.close_stops inv.base stepped
    have over_ {goal : Prop} (running : base.shutdownRequested = false) : goal := by
      have both := stops.symm.trans running
      cases both
    refine .inr ⟨.inl rfl, fun _ => ?_, fun running => over_ running, fun running => over_ running,
      fun running => over_ running⟩
    cases before : run.base.shutdownRequested with
    | false =>
      left
      show (base.shutdownRequested && !false) = true
      rw [stops]
      rfl
    | true =>
      refine .inr ⟨rfl, fun unwoken => ?_⟩
      have both := woken.symm.trans unwoken
      cases both
  | asks =>
    exact .inr ⟨.inr rfl, fun stopped => .inr ⟨stopped, fun _ => rfl⟩, fun _ _ => .inr rfl,
      fun _ idle => .inl idle, fun _ replaying => .inl replaying⟩
  | beside other stepped =>
    obtain ⟨client, outbox, reports, rfl, -⟩ := AioRun.beside_cases other stepped
    exact .inr (.still id)

end WaitRun

/-! ### A caller -/

/-- The caller has looked at the flag that a closing call sets. -/
def WaitAt.looked : WaitAt → Bool
  | idle | stopping | returned _ => false
  | _ => true

/-- The caller has found the client neither connected nor closed. -/
def WaitAt.awaits : WaitAt → Bool
  | gate | task | waiting => true
  | _ => false

theorem WaitAt.looked_of_awaits {pc : WaitAt} (awaits : pc.awaits = true) : pc.looked = true := by
  cases pc <;> first | rfl | cases awaits

namespace WaitRun

variable {sh : Shared} {frameRequest : WebSocketRequest → Except ErrorInfo String} {run next : WaitRun}

/-- What a caller relies on where it is: it is woken where a call asks the client to stop, or a step that
wakes it is to come, unless it has yet to find that there is none; and the connection whose flag it reads
is there, or about to be. -/
structure Sure (run : WaitRun) (waiter : Waiter) : Prop where
  woken : waiter.pc.looked = true → run.base.shutdownRequested = true →
    run.unwoken = true ∨ waiter.notified = true
  due : waiter.pc.awaits = true → run.base.shutdownRequested = false →
    waiter.notified = true ∨ run.InProgress ∨ waiter.pc ≠ .waiting ∧ run.Idle
  settled : waiter.pc = .reconnecting → run.base.shutdownRequested = false →
    waiter.settled = true ∨ run.Replaying

/-- A caller that has not looked yet, or has returned, relies on nothing. -/
theorem Sure.outside {waiter : Waiter} (outside : waiter.pc.looked = false) : run.Sure waiter where
  woken := fun looked => by
    have both := outside.symm.trans looked
    cases both
  due := fun awaits => by
    have both := outside.symm.trans (WaitAt.looked_of_awaits awaits)
    cases both
  settled := fun at_ => by
    rw [at_] at outside
    cases outside

/-- A caller past its look at the flag moves on. -/
theorem Sure.goes {waiter : Waiter} (sure : run.Sure waiter) (looked : waiter.pc.looked = true) {pc : WaitAt}
    {settled : Bool}
    (due : pc.awaits = true → run.base.shutdownRequested = false →
      waiter.notified = true ∨ run.InProgress ∨ pc ≠ .waiting ∧ run.Idle)
    (settles : pc = .reconnecting → run.base.shutdownRequested = false →
      settled = true ∨ run.Replaying) : run.Sure { waiter with pc, settled } :=
  ⟨fun _ => sure.woken looked, due, settles⟩

/-- What the callers do is nothing to the wake-ups to come. -/
theorem InProgress.callers (progress : run.InProgress) {callers : Nat → Waiter} :
    InProgress { run with callers } := progress.stays id rfl rfl rfl

/-- What the other callers do is nothing to this one. -/
theorem Sure.callers {waiter : Waiter} (sure : run.Sure waiter) {callers : Nat → Waiter} :
    Sure { run with callers } waiter where
  woken := sure.woken
  due := fun awaits running => (sure.due awaits running).imp_right (.imp_left fun progress => progress.callers)
  settled := sure.settled

theorem Sure.mark {waiter : Waiter} (sure : run.Sure waiter) (settled : Bool) :
    run.Sure { waiter with settled := waiter.settled || settled } where
  woken := sure.woken
  due := sure.due
  settled := fun at_ running => (sure.settled at_ running).imp_left fun marked => by
    show (waiter.settled || settled) = true
    rw [marked]
    rfl

/-- A client that is neither connected nor closed has a wake-up to come, or no dispatch task. -/
theorem Going.due_of_down (going : run.Going) (down : run.base.client.connection ≠ .connected)
    (unclosed : run.base.client.connection.isClosed = false) : run.InProgress ∨ run.Idle := by
  cases ended : run.base.task.isOver with
  | true =>
    refine .inr ⟨ended, ?_⟩
    by_contra finishing
    have both := (going.closed finishing ended).symm.trans unclosed
    cases both
  | false =>
    refine .inl (.reconnecting ended ?_)
    by_contra unreported
    exact down ((going.stands.task ended).up (Bool.not_eq_false _ ▸ unreported)).connected

/-- The flag of a reconnect is lowered by a wake-up to come. -/
theorem Going.due_of_flagged (going : run.Going) (flagged : run.waiters.reconnecting = true) :
    run.InProgress := by
  rcases going.unflagged flagged with clearing | ⟨-, reconnects⟩
  · exact .finishing (.inl clearing)
  · refine .reconnecting (going.running reconnects) ?_
    rcases reconnects with begun | retries
    · obtain ⟨⟨close, returned⟩, -⟩ := going.began begun
      rw [returned]
      rfl
    · cases at_ : run.base.task <;> rw [at_] at retries <;> first | rfl | cases retries

/-- A busy gate is released by a wake-up to come, where the caller has not found a dispatch task. -/
theorem due_of_busy (busy : run.gateBusy = true) (idle : run.Idle) : run.InProgress := by
  simp only [gateBusy, Bool.or_eq_true, decide_eq_true_eq] at busy
  rcases busy with holds | leaving
  · exact .opening ⟨holds, fun _ => idle.not_running⟩
  · exact .leaving (by rw [leaving]; nofun)

/-- A caller's own step: what it relies on then, and what an `Ok` came from. -/
theorem Sure.waits (keeps : run.Keeps frameRequest) {caller : Nat} (sure : run.Sure (run.callers caller))
    (stepped : run.waitStep caller = some next) : ∃ waiter, next = run.moveCaller caller waiter ∧
      run.Sure { waiter with settled := waiter.settled || run.isSettled } ∧
      (waiter.pc = .returned (.ok ()) → run.base.shutdownRequested = false → waiter.settled = true) := by
  unfold waitStep at stepped
  simp only at stepped
  split at stepped
  case h_1 =>
    cases stepped
    exact ⟨_, rfl, .outside rfl, nofun⟩
  case h_2 at_ =>
    cases stepped
    refine ⟨_, rfl, ?_⟩
    cases stop : run.base.shutdownRequested with
    | true => exact ⟨.outside rfl, nofun⟩
    | false =>
      exact ⟨⟨fun _ stopped => absurd (stop.symm.trans stopped) nofun, nofun, nofun⟩, nofun⟩
  case h_3 at_ =>
    cases stepped
    have looked : (run.callers caller).pc.looked = true := by rw [at_]; rfl
    refine ⟨_, rfl, ?_⟩
    have down (unconnected : run.base.client.connection ≠ .connected)
        (unclosed : run.base.client.connection.isClosed = false) {settled : Bool} :
        run.Sure { run.callers caller with pc := .gate, settled } :=
      sure.goes looked (fun _ running => by
        have due := (keeps.inv.going running).due_of_down unconnected unclosed
        exact .inr (due.imp_right fun idle => ⟨nofun, idle⟩)) nofun
    cases connection : run.base.client.connection with
    | connected =>
      refine ⟨sure.goes looked nofun fun _ running => ?_, nofun⟩
      exact (keeps.settled_of_connected running connection).imp_left fun settled => settled
    | closed => exact ⟨sure.goes looked nofun nofun, nofun⟩
    | _ => exact ⟨down (by rw [connection]; nofun) (by rw [connection]; rfl), nofun⟩
  case h_4 at_ =>
    cases stepped
    have looked : (run.callers caller).pc.looked = true := by rw [at_]; rfl
    refine ⟨_, rfl, ?_⟩
    cases flagged : run.waiters.reconnecting with
    | true =>
      refine ⟨sure.goes looked (fun _ running => .inr (.inl ?_)) nofun, nofun⟩
      exact (keeps.inv.going running).due_of_flagged flagged
    | false =>
      refine ⟨.outside rfl, fun _ running => (sure.settled at_ running).resolve_right fun replaying => ?_⟩
      have both := flagged.symm.trans replaying.1
      cases both
  case h_5 =>
    cases stepped
    exact ⟨_, rfl, .outside rfl, nofun⟩
  case h_6 at_ =>
    cases stepped
    have looked : (run.callers caller).pc.looked = true := by rw [at_]; rfl
    have due := sure.due (by rw [at_]; rfl)
    refine ⟨_, rfl, ?_⟩
    cases busy : run.gateBusy with
    | true =>
      refine ⟨sure.goes looked (fun _ running => ?_) nofun, nofun⟩
      rcases due running with notified | progress | ⟨-, idle⟩
      · exact .inl notified
      · exact .inr (.inl progress)
      · exact .inr (.inl (due_of_busy busy idle))
    | false =>
      refine ⟨sure.goes looked (fun _ running => ?_) nofun, nofun⟩
      exact (due running).imp_right (.imp_right fun idle => ⟨nofun, idle.2⟩)
  case h_7 at_ =>
    have looked : (run.callers caller).pc.looked = true := by rw [at_]; rfl
    have due := sure.due (by rw [at_]; rfl)
    split at stepped
    · cases stepped
    cases stepped
    refine ⟨_, rfl, ?_⟩
    cases working : run.dispatchTaskRunning with
    | true =>
      refine ⟨sure.goes looked (fun _ running => ?_) nofun, nofun⟩
      rcases due running with notified | progress | ⟨-, idle⟩
      · exact .inl notified
      · exact .inr (.inl progress)
      · have both := idle.not_running.symm.trans working
        cases both
    | false => exact ⟨.outside rfl, nofun⟩
  case h_8 =>
    split at stepped <;> cases stepped
    exact ⟨_, rfl, .outside rfl, nofun⟩
  case h_9 => cases stepped

/-- What a step of the others leaves a caller. -/
theorem Sure.passes {caller : Nat} (sure : run.Sure (run.callers caller)) (passes : run.Passes next)
    (before : next.base.shutdownRequested = false → run.base.shutdownRequested = false) :
    next.Sure { next.callers caller with
      settled := (next.callers caller).settled || next.isSettled } := by
  have woken (woke : run.Woke next) : (next.callers caller).notified = true := by rw [woke]; rfl
  have same : (next.callers caller).pc = (run.callers caller).pc ∧
      (next.callers caller).settled = (run.callers caller).settled ∧
      ((run.callers caller).notified = true → (next.callers caller).notified = true) := by
    rcases passes.callers with callers | woke
    · rw [callers]
      exact ⟨rfl, rfl, id⟩
    · refine ⟨?_, ?_, fun _ => woken woke⟩ <;> rw [woke] <;> rfl
  obtain ⟨pc, settled, notified⟩ := same
  refine ⟨fun looked stopped => ?_, fun awaits running => ?_, fun at_ running => ?_⟩
  · rcases passes.asks stopped with unwoken | ⟨asked, kept⟩
    · exact .inl unwoken
    · rcases sure.woken (pc ▸ looked) asked with unwoken | woke
      · exact .inr (woken (kept unwoken))
      · exact .inr (notified woke)
  · rcases sure.due (pc ▸ awaits) (before running) with woke | progress | ⟨elsewhere, idle⟩
    · exact .inl (notified woke)
    · rcases passes.due running progress with progress | woke
      · exact .inr (.inl progress)
      · exact .inl (woken woke)
    · rcases passes.idle running idle with idle | progress
      · exact .inr (.inr ⟨fun waiting => elsewhere (pc.symm.trans waiting), idle⟩)
      · exact .inr (.inl progress)
  · show ((next.callers caller).settled || next.isSettled) = true ∨ next.Replaying
    rcases sure.settled (pc.symm.trans at_) (before running) with marked | replaying
    · rw [settled, marked]
      exact .inl rfl
    · rcases passes.replays running replaying with replaying | over_
      · exact .inr replaying
      · rw [over_, Bool.or_true]
        exact .inl rfl

/-! ### Runs -/

/-- The invariant of the waiting callers. -/
structure Answers (frameRequest : WebSocketRequest → Except ErrorInfo String) (run : WaitRun) : Prop where
  keeps : run.Keeps frameRequest
  sure : ∀ caller, run.Sure (run.callers caller)

end WaitRun

end FugleMarketdata
