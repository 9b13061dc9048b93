/-
**The order in which the async client is closed.** What holds of `connect`, the closing call, the
dispatch task and the slots of the writers in every run of `aioRuns`.

The flag is set first, then `connecting` is waited for, then the sender is dropped under the lock of
`write_tx`: from the wait on no `connect` goes on, and from the drop on no writer is started.

* `ConnectMove`, `TaskMove` — what a step of `connect` or of the dispatch task can do;
* `AioRun.Inv` — the invariant of every run, and `aioRun_inv`.
-/

import FugleMarketdata.Websocket.AioConnect
import FugleMarketdata.Websocket.SupervisorStop

namespace FugleMarketdata

open StepMachines StepMachine

/-! ### A step of the dispatch task's loop -/

namespace LoopRun

variable {sh : Shared} {run next : LoopRun} {input : Input}

/-- A step of the dispatch task, by what becomes of the reported close. -/
theorem dispatch_effect (stepped : run.dispatchStep sh (.task input) = some next) :
    ThreadEffect run next := by
  simp only [dispatchStep] at stepped
  split at stepped
  case h_1 =>
    split at stepped
    · cases stepped
      exact .keeps (.refl _)
    · split at stepped <;> cases stepped <;> exact .keeps (.refl _)
  case h_2 data frames now pc =>
    cases stepped
    rcases Client.reconnectAuthenticated_cases sh now data frames run.client with
      refused | ⟨before, after⟩
    · rw [refused]
      exact .keeps (.refl _)
    · exact .opened before after
  case h_3 => split at stepped <;> cases stepped <;> exact .keeps (.refl _)
  case h_4 =>
    cases stepped
    exact .keeps (.refl _)
  case h_5 => exact step_effect sh stepped

/-- A task that is over takes no step. -/
theorem dispatch_not_over (stepped : run.dispatchStep sh (.task input) = some next) :
    run.pc.isOver = false := by
  by_contra ended
  cases pc : run.pc with
  | ended | dropped => cases input <;> simp [dispatchStep, LoopRun.step, pc] at stepped
  | _ =>
    rw [pc] at ended
    exact ended rfl

/-- A task that can no longer report or reconnect stays that way. -/
theorem dispatch_inactive (stepped : run.dispatchStep sh (.task input) = some next)
    (idle : run.pc.active run.stop = false) : next.pc.active run.stop = false := by
  cases pc : run.pc with
  | reading last =>
    rw [pc] at idle
    have stop : run.stop = true := by simpa [LoopAt.active] using idle
    simp only [dispatchStep, pc] at stepped
    cases input <;> simp only [LoopRun.step, pc, stop] at stepped <;> cases stepped <;>
      rw [stop] <;> rfl
  | returned close =>
    rw [pc] at idle
    have stop : run.stop = true := by simpa [LoopAt.active] using idle
    cases input <;> simp [dispatchStep, LoopRun.step, pc, stop] at stepped
    rw [← stepped]
    rfl
  | shuttingDown | ended | dropped =>
    cases input <;> simp [dispatchStep, LoopRun.step, pc] at stepped
  | _ =>
    rw [pc] at idle
    cases idle

end LoopRun

/-! ### What a step can do -/

/-- `connect` has found no dispatch task running, and has not spawned its own. -/
def AioConnectAt.looked : AioConnectAt → Bool
  | .conflict | .locking | .entered => true
  | connect => connect.unspawned

theorem AioConnectAt.opens_of_unspawned {connect : AioConnectAt}
    (unspawned : connect.unspawned = true) : connect.opens = true := by
  cases connect <;> first | rfl | cases unspawned

theorem AioConnectAt.looked_of_unspawned {connect : AioConnectAt}
    (unspawned : connect.unspawned = true) : connect.looked = true := by
  cases connect <;> first | rfl | cases unspawned

namespace AioRun

variable {sh : Shared} {run next : AioRun}

/-- A step of `connect`: it moves on and may report, installs a connection and its writer, opens the
stream, or spawns the dispatch task and stores its handle. -/
inductive ConnectMove (sh : Shared) (run : AioRun) : AioRun → Prop
  | moves {client : Client} {connect : AioConnectAt}
      (keeps : run.connect.opens = false → KeepsClose run.client client)
      (reported : client.stream.closeReported = run.client.stream.closeReported)
      (claimed : client.stream.disconnectClaimed = run.client.stream.disconnectClaimed)
      (opens : connect.opens = true → run.connect.opens = true ∨ run.shutdownRequested = false)
      (looked : connect.looked = true → run.connect.looked = true ∨
        connect.opens = false ∧ run.dispatchHandle.any run.taskRunning = false)
      (still : ∀ handle, run.connect ≠ .storing handle)
      (calm : ∀ connection, connect ≠ .spawning connection)
      (waits : (∀ data frames, run.connect ≠ .installing data frames) ∧
        ∀ handle, connect ≠ .storing handle)
      (receives : connect.receives = none ∨ connect.receives = run.connect.receives) :
      ConnectMove sh run { run with client, connect }
  | locks {data : Value} {frames : List WebSocketMessage} {outbox : Outbox}
      (accepted : run.connect = .accepted data frames)
      (locked : run.outbox.lockWriteTx .connect = some outbox) :
      ConnectMove sh run { run with outbox, connect := .installing data frames }
  | starts {data : Value} {frames : List WebSocketMessage} {outbox : Outbox}
      (installing : run.connect = .installing data frames) (unspawned : run.outbox.startAt ≠ some .spawn)
      (advanced : run.outbox.advance = some outbox) : ConnectMove sh run { run with outbox }
  | installs {data : Value} {frames : List WebSocketMessage}
      (installing : run.connect = .installing data frames) (spawn : run.outbox.startAt = some .spawn) :
      ConnectMove sh run { run with
        outbox := run.outbox.spawn, connect := .installed run.outbox.opened data frames }
  | opens {connection : Nat} {data : Value} {frames : List WebSocketMessage}
      (authenticating : run.connect = .authenticating connection data frames) :
      ConnectMove sh run
        (run.report (run.client.authenticated sh data frames) (.spawning connection))
  | spawns {connection : Nat} (spawning : run.connect = .spawning connection) :
      ConnectMove sh run { run with
        task := .reading none
        taskConnection := connection
        incoming := none
        retired := false
        taskAborted := false
        spawned := run.spawned + 1
        connect := .storing run.spawned }
  | stores {handle : Nat} (storing : run.connect = .storing handle) :
      ConnectMove sh run { run with dispatchHandle := some handle, connect := .idle }

/-- A step of `connect` that touches neither stream nor slots. -/
theorem ConnectMove.goto {connect : AioConnectAt}
    (opens : connect.opens = true → run.connect.opens = true ∨ run.shutdownRequested = false)
    (looked : connect.looked = true → run.connect.looked = true ∨
      connect.opens = false ∧ run.dispatchHandle.any run.taskRunning = false)
    (still : ∀ handle, run.connect ≠ .storing handle)
    (calm : ∀ connection, connect ≠ .spawning connection)
    (waits : (∀ data frames, run.connect ≠ .installing data frames) ∧
      ∀ handle, connect ≠ .storing handle)
    (receives : connect.receives = none ∨ connect.receives = run.connect.receives) :
    ConnectMove sh run { run with connect } :=
  .moves (fun _ => .refl _) rfl rfl opens looked still calm waits receives

/-- A step of `connect` within an opening. -/
theorem ConnectMove.opening {client : Client} {connect : AioConnectAt}
    (unspawned : run.connect.unspawned = true)
    (installed : ∀ data frames, run.connect ≠ .installing data frames)
    (reported : client.stream.closeReported = run.client.stream.closeReported)
    (claimed : client.stream.disconnectClaimed = run.client.stream.disconnectClaimed)
    (calm : ∀ connection, connect ≠ .spawning connection) (waits : ∀ handle, connect ≠ .storing handle)
    (receives : connect.receives = none ∨ connect.receives = run.connect.receives) :
    ConnectMove sh run { run with client, connect } := by
  have opening := AioConnectAt.opens_of_unspawned unspawned
  refine .moves (fun shut => ?_) reported claimed (fun _ => .inl opening)
    (fun _ => .inl (AioConnectAt.looked_of_unspawned unspawned)) (fun handle storing => ?_) calm
    ⟨installed, waits⟩ receives
  · rw [opening] at shut
    cases shut
  · rw [storing] at unspawned
    cases unspawned

/-- `connect` returns with nothing more done. -/
theorem ConnectMove.returns (installed : ∀ data frames, run.connect ≠ .installing data frames)
    (still : ∀ handle, run.connect ≠ .storing handle) :
    ConnectMove sh run { run with connect := .idle } :=
  .goto nofun nofun still nofun ⟨installed, nofun⟩ (.inl rfl)

theorem callerConnecting_keeps (now : Nat) (client : Client) :
    KeepsClose client (client.callerConnecting sh now).1 := by
  unfold Client.callerConnecting
  split
  · exact .refl client
  · split
    · exact ⟨rfl, rfl, fun _ => id⟩
    · obtain ⟨new, pushes, -⟩ := State.pushEvent_pushes sh (.reconnectConflict (sh.seconds _))
        (client.stream, {})
      exact .of_pushes pushes rfl

/-- **What a step of `connect` can do.** -/
theorem connect_cases {input : AioConnectInput} (stepped : run.connectStep sh input = some next) :
    ConnectMove sh run next := by
  unfold connectStep at stepped
  split at stepped
  case h_1 valid phase =>
    by_cases refused : (run.client.connection.isClosed || !valid) = true
    · rw [if_pos refused] at stepped
      cases stepped
      exact .returns (by rw [phase]; nofun) (by rw [phase]; nofun)
    · rw [if_neg refused] at stepped
      cases stepped
      exact .goto nofun nofun (by rw [phase]; nofun) nofun ⟨by rw [phase]; nofun, nofun⟩ (.inl rfl)
  case h_2 phase =>
    by_cases running : run.dispatchHandle.any run.taskRunning = true
    · rw [if_pos running] at stepped
      split at stepped <;> cases stepped
      exact .returns (by rw [phase]; nofun) (by rw [phase]; nofun)
    · rw [if_neg running] at stepped
      split at stepped <;> cases stepped
      exact .goto nofun nofun (by rw [phase]; nofun) nofun ⟨by rw [phase]; nofun, nofun⟩ (.inl rfl)
  case h_3 phase =>
    by_cases running : run.dispatchHandle.any run.taskRunning = true
    · rw [if_pos running] at stepped
      split at stepped <;> cases stepped
      exact .returns (by rw [phase]; nofun) (by rw [phase]; nofun)
    · rw [if_neg running] at stepped
      split at stepped <;> cases stepped
      exact .goto nofun (fun _ => .inr ⟨rfl, Bool.eq_false_iff.mpr running⟩) (by rw [phase]; nofun)
        nofun ⟨by rw [phase]; nofun, nofun⟩ (.inl rfl)
  case h_4 now tls phase =>
    have keeps : KeepsClose run.client (run.client.callerConnecting sh now).1 :=
      callerConnecting_keeps now run.client
    cases stepped
    cases tls with
    | true =>
      exact .moves (fun _ => keeps) keeps.reported keeps.claimed nofun
        (fun _ => .inl (by rw [phase]; rfl)) (by rw [phase]; nofun) nofun
        ⟨by rw [phase]; nofun, nofun⟩ (.inl rfl)
    | false =>
      exact .moves (fun _ => keeps) keeps.reported keeps.claimed nofun nofun (by rw [phase]; nofun)
        nofun ⟨by rw [phase]; nofun, nofun⟩ (.inl rfl)
  case h_5 phase =>
    cases stepped
    exact .goto nofun (fun _ => .inl (by rw [phase]; rfl)) (by rw [phase]; nofun) nofun
      ⟨by rw [phase]; nofun, nofun⟩ (.inl rfl)
  case h_6 phase =>
    by_cases stop : run.shutdownRequested = true
    · rw [if_pos stop] at stepped
      cases stepped
      exact .returns (by rw [phase]; nofun) (by rw [phase]; nofun)
    · rw [if_neg stop] at stepped
      cases stepped
      exact .goto (fun _ => .inr (Bool.eq_false_iff.mpr stop)) (fun _ => .inl (by rw [phase]; rfl))
        (by rw [phase]; nofun) nofun ⟨by rw [phase]; nofun, nofun⟩ (.inl rfl)
  case h_7 phase | h_13 phase | h_14 phase | h_16 phase | h_18 phase =>
    cases stepped
    exact .opening (by rw [phase]; rfl) (by rw [phase]; nofun) rfl rfl nofun nofun (.inl rfl)
  case h_8 phase | h_12 phase | h_17 phase =>
    cases stepped
    exact .opening (by rw [phase]; rfl) (by rw [phase]; nofun) (Client.emit_keeps sh _ _).reported
      (Client.emit_keeps sh _ _).claimed nofun nofun (.inl rfl)
  case h_9 failure phase | h_15 handshake phase =>
    by_cases stop : run.shutdownRequested = true
    · rw [if_pos stop] at stepped
      cases stepped
      exact .returns (by rw [phase]; nofun) (by rw [phase]; nofun)
    · rw [if_neg stop] at stepped
      split at stepped
      all_goals
        cases stepped
        exact .opening (by rw [phase]; rfl) (by rw [phase]; nofun) rfl rfl nofun nofun (.inl rfl)
  case h_10 phase | h_11 phase =>
    split at stepped <;> cases stepped
    exact .returns (by rw [phase]; nofun) (by rw [phase]; nofun)
  case h_19 message data frames phase =>
    cases stepped
    have keeps := Client.unauthenticated_keeps sh message data frames run.client
    exact .opening (by rw [phase]; rfl) (by rw [phase]; nofun) keeps.reported keeps.claimed nofun nofun
      (.inl rfl)
  case h_20 phase =>
    obtain ⟨outbox, locked, rfl⟩ := Option.map_eq_some_iff.mp stepped
    exact .locks phase locked
  case h_21 phase =>
    obtain ⟨outbox, advanced, rfl⟩ := Option.map_eq_some_iff.mp stepped
    have last := Outbox.advance_starting advanced
    by_cases spawn : run.outbox.startAt = some .spawn
    · rw [if_pos (last.mpr spawn), Outbox.advance_spawn advanced spawn]
      exact .installs phase spawn
    · rw [if_neg (mt last.mp spawn), ← phase]
      exact .starts phase spawn advanced
  case h_22 phase =>
    cases stepped
    exact .opening (by rw [phase]; rfl) (by rw [phase]; nofun) rfl rfl nofun nofun
      (.inr (by rw [phase]; rfl))
  case h_23 phase =>
    cases stepped
    exact .opens phase
  case h_24 phase =>
    cases stepped
    exact .spawns phase
  case h_25 phase =>
    split at stepped <;> cases stepped
    exact .stores phase
  case h_26 => cases stepped

/-- A step of the dispatch task: its loop moves, the writer of a connection that ended is retired, the
writer of a new one is started, a new connection is read, or the task is over. -/
inductive TaskMove (sh : Shared) (run : AioRun) : AioRun → Prop
  | loops {input : Input} {after : AioRun} (elsewhere : run.task ≠ .opened)
      (retired : ∀ close, run.task = .returned close → run.retired = true)
      (handed : ∀ last info text, run.task = .reading last →
        input = .ending (.writeFailed info text) →
          (run.outbox.connections run.taskConnection).handed ≠ none)
      (replays : run.task = .replaying [] → ∀ now, input ≠ .tick now)
      (stepped : run.taskLoop sh input = some after) : TaskMove sh run after
  | retires {close : ConnectionClose} (returned : run.task = .returned close)
      (fresh : run.retired = false) :
      TaskMove sh run { run with outbox := run.outbox.retire, retired := true }
  | locks {outbox : Outbox} (opened : run.task = .opened) (going : run.shutdownRequested = false)
      (locked : run.outbox.lockWriteTx .dispatch = some outbox) :
      TaskMove sh run { run with outbox, mgr := run.mgr.reset }
  | starts {outbox : Outbox} (opened : run.task = .opened) (unspawned : run.outbox.startAt ≠ some .spawn)
      (advanced : run.outbox.advance = some outbox) : TaskMove sh run { run with outbox }
  | installs {failures : List ResubscribeFailure} (opened : run.task = .opened)
      (spawn : run.outbox.startAt = some .spawn) :
      TaskMove sh run { run with
        outbox := run.outbox.spawn
        incoming := some run.outbox.opened
        task := .replaying failures }
  | reads {connection : Nat} (replayed : run.task = .replaying [])
      (incoming : run.incoming = some connection) :
      TaskMove sh run { run with
        task := .reading none, taskConnection := connection, incoming := none, retired := false }
  | ends {mgr : ReconnectionManager} {task : LoopAt}
      (going : run.task.isOver = false ∧ ∀ close, run.task ≠ .returned close)
      (ended : task.isOver = true)
      (free : run.task = .opened → ∀ point, run.outbox.starting ≠ some (.dispatch, point)) :
      TaskMove sh run { run with mgr, task }
  | abandons {task : LoopAt} {outbox : Outbox}
      (going : run.task.isOver = false ∧ ∀ close, run.task ≠ .returned close)
      (ended : task.isOver = true) (aborted : run.taskAborted = true)
      (abandoned : run.outbox.abandon = some outbox) : TaskMove sh run { run with outbox, task }

theorem isOver_of_cancelled {task after : LoopAt} (cancelled : task.cancelled = some after) :
    (task.isOver = false ∧ ∀ close, task ≠ .returned close) ∧ after.isOver = true := by
  cases task <;> cases cancelled <;> exact ⟨⟨rfl, nofun⟩, rfl⟩

/-- **What a step of the dispatch task can do.** -/
theorem task_cases {input : TaskInput} (stepped : run.taskStep sh input = some next) :
    TaskMove sh run next := by
  unfold taskStep at stepped
  split at stepped
  case h_1 last at_ =>
    split at stepped
    · rename_i failure handed
      exact .loops (by rw [at_]; nofun) (by rw [at_]; nofun)
        (fun _ _ _ _ _ absent => by rw [handed] at absent; cases absent) (by rw [at_]; nofun) stepped
    · cases stepped
  case h_3 close at_ =>
    split at stepped <;> cases stepped
    rename_i fresh
    exact .retires at_ (Bool.eq_false_iff.mpr fresh)
  case h_4 close input at_ =>
    split at stepped
    · rename_i retired
      exact .loops (by rw [at_]; nofun) (fun _ _ => retired) (by rw [at_]; nofun) (by rw [at_]; nofun)
        stepped
    · cases stepped
  case h_5 at_ =>
    obtain ⟨outbox, locked, rfl⟩ := Option.map_eq_some_iff.mp stepped
    by_cases stop : run.shutdownRequested = true
    · rw [if_pos stop]
      refine .ends (by rw [at_]; exact ⟨rfl, nofun⟩) rfl fun _ point starting => ?_
      rw [(Outbox.lockWriteTx_free locked).1] at starting
      cases starting
    · rw [if_neg stop]
      exact .locks at_ (Bool.eq_false_iff.mpr stop) locked
  case h_6 at_ =>
    split at stepped
    · cases stepped
    · rename_i unspawned
      obtain ⟨outbox, advanced, rfl⟩ := Option.map_eq_some_iff.mp stepped
      exact .starts at_ unspawned advanced
  case h_7 failures at_ =>
    split at stepped <;> cases stepped
    rename_i spawn
    exact .installs at_ spawn
  case h_9 now at_ =>
    split at stepped
    · rename_i connection incoming
      by_cases stop : run.shutdownRequested = true
      · rw [if_pos stop] at stepped
        cases stepped
        exact .ends (by rw [at_]; exact ⟨rfl, nofun⟩) rfl (by rw [at_]; nofun)
      · rw [if_neg stop] at stepped
        cases stepped
        exact .reads at_ incoming
    · cases stepped
  case h_10 input notEnding notReturned notOpened notReplayed =>
    refine .loops notOpened (fun close returned => (notReturned close returned).elim)
      (fun last info text reading ending => ?_) (fun replayed now tick => ?_) stepped
    · exact absurd ending (notEnding last info text reading)
    · exact absurd tick (notReplayed now replayed)
  case h_11 =>
    simp only [Option.ite_none_right_eq_some, Option.some.injEq] at stepped
    obtain ⟨⟨-, wakes⟩, rfl⟩ := stepped
    refine .ends ⟨?_, fun close at_ => ?_⟩ rfl fun opened => ?_
    · cases at_ : run.task <;> first | rfl | (rw [at_] at wakes; cases wakes)
    · rw [at_] at wakes
      cases wakes
    · rw [opened] at wakes
      cases wakes
  case h_12 =>
    simp only [Option.ite_none_right_eq_some] at stepped
    obtain ⟨aborted, stepped⟩ := stepped
    obtain ⟨task, cancelled, stepped⟩ := Option.bind_eq_some_iff.mp stepped
    obtain ⟨going, ended⟩ := isOver_of_cancelled cancelled
    split at stepped
    · obtain ⟨outbox, abandoned, rfl⟩ := Option.map_eq_some_iff.mp stepped
      exact .abandons going ended aborted abandoned
    · rename_i free
      cases stepped
      exact .ends going ended fun _ point starting => free point starting
  all_goals cases stepped

/-! ### The invariant -/

/-- No writer will be started any more: the client is stopping, and no `connect` goes on. -/
def Quiet (run : AioRun) : Prop := run.shutdownRequested = true ∧ run.connect.opens = false

/-- The invariant of a run. Whoever starts a writer is where it does so; a closing call that has waited
finds no `connect` going on, and one that has cleared the sender finds no writer being started; the
handle of a task that runs is stored while the client is not stopping, and a `connect` that found none
opens its connection alone. The last three are of the stream: a task that may still report finds the
`Disconnected` claimed once the close is reported, and a close that was reported stays. -/
structure Inv (run : AioRun) : Prop where
  box : run.outbox.Inv run.Quiet
  byConnect : ∀ point, run.outbox.starting = some (.connect, point) →
    ∃ data frames, run.connect = .installing data frames
  byDispatch : ∀ point, run.outbox.starting = some (.dispatch, point) → run.task = .opened
  stopping : run.closer ≠ .idle → run.shutdownRequested = true
  waited : run.closer.hasWaited = true → run.connect.opens = false
  cleared : run.closer.hasCleared = true → run.outbox.starting = none
  aborted : run.taskAborted = true → run.Quiet
  stored : run.task.isOver = false → run.shutdownRequested = false →
    ∃ handle, handle + 1 = run.spawned ∧
      (run.dispatchHandle = some handle ∨ run.connect = .storing handle)
  storing : ∀ handle, run.connect = .storing handle → handle + 1 = run.spawned
  alone : run.connect.looked = true → run.task.isOver = true ∨ run.Quiet
  inside : ∀ connection, run.receives connection = true → connection < run.outbox.opened
  fresh : ∀ connection, run.connect = .spawning connection → run.client.stream.closeReported = false
  latched : run.task.active run.shutdownRequested = true →
    run.client.stream.closeReported = true → run.client.stream.disconnectClaimed = true
  shut : ∀ forced, run.closer = .done forced →
    run.client.stream.closeReported = true ∧ run.client.connection.isClosed = true

theorem Inv.start (config : ReconnectionConfig) : Inv { mgr := .new config } where
  box := .start
  byConnect := nofun
  byDispatch := nofun
  stopping := fun moved => absurd rfl moved
  waited := nofun
  cleared := nofun
  aborted := nofun
  stored := nofun
  storing := nofun
  alone := nofun
  inside := nofun
  fresh := nofun
  latched := nofun
  shut := nofun

theorem not_quiet (opens : run.connect.opens = true) : ¬ run.Quiet := by
  rintro ⟨-, shut⟩
  rw [opens] at shut
  cases shut

/-- While a connection is opened, no closing call has waited. -/
theorem Inv.unwaited (inv : run.Inv) (opens : run.connect.opens = true) :
    run.closer.hasWaited = false := by
  by_contra waited
  have shut := inv.waited (Bool.not_eq_false _ ▸ waited)
  rw [opens] at shut
  cases shut

theorem hasWaited_of_hasCleared {closer : AioCloseAt} (cleared : closer.hasCleared = true) :
    closer.hasWaited = true := by
  cases closer <;> first | rfl | cases cleared

/-- A task beside which a `connect` goes on is over. -/
theorem Inv.ended (inv : run.Inv) (unspawned : run.connect.unspawned = true) :
    run.task.isOver = true :=
  (inv.alone (AioConnectAt.looked_of_unspawned unspawned)).resolve_right
    (not_quiet (AioConnectAt.opens_of_unspawned unspawned))

/-! ### `connect` -/

theorem receives_iff {connection : Nat} : run.receives connection = true ↔
    run.connect.receives = some connection ∨ run.task.isOver = false ∧
      (run.taskConnection = connection ∨ run.incoming = some connection) := by
  simp [receives]

/-- Only a `connect` at its installation starts a writer as `connect`. -/
theorem Inv.not_starting (inv : run.Inv) (elsewhere : ∀ data frames, run.connect ≠ .installing data frames)
    (point : StartAt) : run.outbox.starting ≠ some (.connect, point) := by
  intro starting
  obtain ⟨data, frames, installing⟩ := inv.byConnect point starting
  exact elsewhere data frames installing

/-- The handle of a task that runs is stored but for a `connect` that is about to. -/
theorem Inv.stored_handle (inv : run.Inv) (still : ∀ handle, run.connect ≠ .storing handle)
    (working : run.task.isOver = false) (running : run.shutdownRequested = false) :
    ∃ handle, handle + 1 = run.spawned ∧ run.dispatchHandle = some handle := by
  obtain ⟨handle, last, either⟩ := inv.stored working running
  exact ⟨handle, last, either.resolve_right (still handle)⟩

/-- `connect` moves on. -/
theorem Inv.moves (inv : run.Inv) {client : Client} {connect : AioConnectAt}
    (keeps : run.connect.opens = false → KeepsClose run.client client)
    (reported : client.stream.closeReported = run.client.stream.closeReported)
    (claimed : client.stream.disconnectClaimed = run.client.stream.disconnectClaimed)
    (opens : connect.opens = true → run.connect.opens = true ∨ run.shutdownRequested = false)
    (looked : connect.looked = true → run.connect.looked = true ∨
      connect.opens = false ∧ run.dispatchHandle.any run.taskRunning = false)
    (still : ∀ handle, run.connect ≠ .storing handle)
    (calm : ∀ connection, connect ≠ .spawning connection)
    (waits : (∀ data frames, run.connect ≠ .installing data frames) ∧
      ∀ handle, connect ≠ .storing handle)
    (receives : connect.receives = none ∨ connect.receives = run.connect.receives) :
    Inv { run with client, connect } := by
  have quiet (before : run.Quiet) : Quiet { run with client, connect } := by
    refine ⟨before.1, Bool.eq_false_iff.mpr fun opened => ?_⟩
    rcases opens opened with opened | going
    · exact not_quiet opened before
    · have both := before.1.symm.trans going
      cases both
  exact {
    box := inv.box.mono quiet
    byConnect := fun point starting => absurd starting (inv.not_starting waits.1 point)
    byDispatch := inv.byDispatch
    stopping := inv.stopping
    waited := fun waited => by
      have moved : run.closer ≠ .idle := by
        intro idle
        rw [show run.closer = .idle from idle] at waited
        cases waited
      exact (quiet ⟨inv.stopping moved, inv.waited waited⟩).2
    cleared := inv.cleared
    aborted := fun aborted => quiet (inv.aborted aborted)
    stored := fun working running => by
      obtain ⟨handle, last, stored⟩ := inv.stored_handle still working running
      exact ⟨handle, last, .inl stored⟩
    storing := fun handle storing => absurd storing (waits.2 handle)
    alone := fun now => by
      rcases looked now with before | ⟨shut, idle⟩
      · exact (inv.alone before).imp_right quiet
      · cases going : run.task.isOver with
        | true => exact .inl rfl
        | false =>
          cases running : run.shutdownRequested with
          | true => exact .inr ⟨rfl, shut⟩
          | false =>
            obtain ⟨handle, last, stored⟩ := inv.stored_handle still going running
            rw [stored] at idle
            simp [taskRunning, last, going] at idle
    inside := fun connection received => by
      refine inv.inside connection (receives_iff.mpr ?_)
      rcases receives_iff.mp received with here | task
      · rcases receives with none | same
        · rw [show connect.receives = some connection from here] at none
          cases none
        · exact .inl (same.symm.trans here)
      · exact .inr task
    fresh := fun connection spawning => absurd spawning (calm connection)
    latched := fun active closed => claimed.trans (inv.latched active (reported.symm.trans closed))
    shut := fun forced done => by
      obtain ⟨before, isClosed⟩ := inv.shut forced done
      have waited : run.closer.hasWaited = true := by
        rw [show run.closer = .done forced from done]
        rfl
      exact ⟨reported.trans before, (keeps (inv.waited waited)).isClosed before isClosed⟩ }

/-- A step of an opening: no closing call has waited, so what concerns those that have is as before. -/
theorem Inv.opening (inv : run.Inv) (going : run.connect.opens = true) {client : Client}
    {outbox : Outbox} {connect : AioConnectAt} {task : LoopAt} {taskConnection spawned : Nat}
    {incoming dispatchHandle : Option Nat} {retired taskAborted : Bool}
    (box : outbox.Inv run.Quiet)
    (byConnect : ∀ point, outbox.starting = some (.connect, point) →
      ∃ data frames, connect = .installing data frames)
    (byDispatch : ∀ point, outbox.starting = some (.dispatch, point) → task = .opened)
    (aborted : taskAborted = true → run.taskAborted = true)
    (stored : task.isOver = false → run.shutdownRequested = false → ∃ handle, handle + 1 = spawned ∧
      (dispatchHandle = some handle ∨ connect = .storing handle))
    (storing : ∀ handle, connect = .storing handle → handle + 1 = spawned)
    (alone : connect.looked = true → task.isOver = true)
    (inside : ∀ connection, (connect.receives = some connection ∨ task.isOver = false ∧
      (taskConnection = connection ∨ incoming = some connection)) → connection < outbox.opened)
    (fresh : ∀ connection, connect = .spawning connection → client.stream.closeReported = false)
    (latched : task.active run.shutdownRequested = true → client.stream.closeReported = true →
      client.stream.disconnectClaimed = true) :
    Inv { run with
      client, outbox, connect, task, taskConnection, incoming, retired, taskAborted, spawned,
      dispatchHandle } := by
  have unwaited := inv.unwaited going
  have never {goal : Prop} (waited : run.closer.hasWaited = true) : goal := by
    rw [unwaited] at waited
    cases waited
  exact {
    box := box.mono fun quiet => absurd quiet (not_quiet going)
    byConnect := byConnect
    byDispatch := byDispatch
    stopping := inv.stopping
    waited := fun waited => never waited
    cleared := fun cleared => never (hasWaited_of_hasCleared cleared)
    aborted := fun now => absurd (inv.aborted (aborted now)) (not_quiet going)
    stored := stored
    storing := storing
    alone := fun looked => .inl (alone looked)
    inside := fun connection received => inside connection (receives_iff.mp received)
    fresh := fresh
    latched := latched
    shut := fun forced done => never (by rw [show run.closer = .done forced from done]; rfl) }

/-- The stream opened by a connection has reported no close. -/
theorem authenticated_fresh (data : Value) (frames : List WebSocketMessage) (client : Client) :
    (client.authenticated sh data frames).1.stream.closeReported = false := by
  obtain ⟨new, pushes, -⟩ := State.openConnection_quiet sh data frames
    ({ client.stream with reconnectedAt := none }, {})
  exact pushes.reported

/-- Every step of `connect` keeps the invariant. -/
theorem Inv.connectMove (inv : run.Inv) (move : ConnectMove sh run next) : next.Inv := by
  cases move with
  | moves keeps reported claimed opens looked still calm waits receives =>
    exact inv.moves keeps reported claimed opens looked still calm waits receives
  | locks accepted locked =>
    have going : run.connect.opens = true := by rw [accepted]; rfl
    obtain ⟨-, rfl⟩ := Outbox.lockWriteTx_free locked
    exact inv.opening going (inv.box.lockWriteTx (not_quiet going) locked) (fun _ _ => ⟨_, _, rfl⟩)
      nofun id
      (fun working running => by
        obtain ⟨handle, last, stored⟩ := inv.stored_handle (by rw [accepted]; nofun) working running
        exact ⟨handle, last, .inl stored⟩)
      nofun (fun _ => inv.ended (by rw [accepted]; rfl))
      (fun connection received => inv.inside connection
        (receives_iff.mpr (.inr (received.resolve_left nofun)))) nofun inv.latched
  | starts installing unspawned advanced =>
    have going : run.connect.opens = true := by rw [installing]; rfl
    obtain ⟨same, -⟩ := Outbox.advance_frame advanced unspawned
    exact inv.opening going (inv.box.advance advanced) (fun _ _ => ⟨_, _, installing⟩)
      (fun point starting => by
        obtain ⟨before, was⟩ := Outbox.advance_callers advanced unspawned starting
        exact inv.byDispatch before was)
      id inv.stored inv.storing (fun _ => inv.ended (by rw [installing]; rfl))
      (fun connection received => same ▸ inv.inside connection (receives_iff.mpr received))
      inv.fresh inv.latched
  | installs installing spawn =>
    have going : run.connect.opens = true := by rw [installing]; rfl
    obtain ⟨opener, starting⟩ := Outbox.starting_of_startAt spawn
    exact inv.opening going (inv.box.spawn starting) nofun nofun id
      (fun working running => by
        obtain ⟨handle, last, stored⟩ := inv.stored_handle (by rw [installing]; nofun) working running
        exact ⟨handle, last, .inl stored⟩)
      nofun (fun _ => inv.ended (by rw [installing]; rfl))
      (fun connection received => by
        rcases received with own | task
        · cases own
          exact Nat.lt_succ_self _
        · exact Nat.lt_succ_of_lt (inv.inside connection (receives_iff.mpr (.inr task))))
      nofun inv.latched
  | opens authenticating =>
    have going : run.connect.opens = true := by rw [authenticating]; rfl
    have ended : run.task.isOver = true := inv.ended (by rw [authenticating]; rfl)
    exact inv.opening going inv.box
      (fun point starting => absurd starting (inv.not_starting (by rw [authenticating]; nofun) point))
      inv.byDispatch id (fun still => by rw [ended] at still; cases still) nofun (fun _ => ended)
      (fun connection received => inv.inside connection (receives_iff.mpr
        (received.imp_left fun own => by rw [authenticating]; exact own)))
      (fun _ _ => authenticated_fresh _ _ _)
      (fun _ closed => by rw [authenticated_fresh] at closed; cases closed)
  | spawns spawning =>
    have going : run.connect.opens = true := by rw [spawning]; rfl
    have ended : run.task.isOver = true := inv.ended (by rw [spawning]; rfl)
    exact inv.opening going inv.box
      (fun point starting => absurd starting (inv.not_starting (by rw [spawning]; nofun) point))
      (fun point starting => by
        rw [inv.byDispatch point starting] at ended
        cases ended)
      nofun (fun _ _ => ⟨_, rfl, .inr rfl⟩)
      (fun _ stored => by cases stored; rfl)
      nofun
      (fun connection received => by
        rcases received with own | ⟨-, rfl | given⟩
        · cases own
        · exact inv.inside _ (receives_iff.mpr (.inl (by rw [spawning]; rfl)))
        · cases given)
      nofun
      (fun _ closed => by
        have both := (inv.fresh _ spawning).symm.trans closed
        cases both)
  | stores storing =>
    have going : run.connect.opens = true := by rw [storing]; rfl
    exact inv.opening going inv.box
      (fun point starting => absurd starting (inv.not_starting (by rw [storing]; nofun) point))
      inv.byDispatch id (fun _ _ => ⟨_, inv.storing _ storing, .inl rfl⟩) nofun nofun
      (fun connection received => inv.inside connection
        (receives_iff.mpr (.inr (received.resolve_left nofun))))
      nofun inv.latched

/-! ### The dispatch task -/

theorem not_active_of_over {task : LoopAt} {stop : Bool} (ended : task.isOver = true) :
    task.active stop = false := by
  cases task <;> first | rfl | cases ended

/-- Beside a task that runs no `connect` is past its looks, unless the client is stopping. -/
theorem Inv.quiet_of_looked (inv : run.Inv) (going : run.task.isOver = false)
    (looked : run.connect.looked = true) : run.Quiet := by
  refine (inv.alone looked).resolve_left ?_
  rw [going]
  nofun

/-- A step of a task that runs, which leaves the calls alone. -/
theorem Inv.working (inv : run.Inv) (going : run.task.isOver = false) {client : Client}
    {mgr : ReconnectionManager} {outbox : Outbox} {task : LoopAt} {taskConnection : Nat}
    {incoming : Option Nat} {retired : Bool} {reports : List Report}
    (box : outbox.Inv run.Quiet)
    (byConnect : ∀ point, outbox.starting = some (.connect, point) →
      ∃ before, run.outbox.starting = some (.connect, before))
    (byDispatch : ∀ point, outbox.starting = some (.dispatch, point) → task = .opened)
    (cleared : run.closer.hasCleared = true → outbox.starting = none)
    (inside : ∀ connection, run.connect.receives = some connection ∨ task.isOver = false ∧
      (taskConnection = connection ∨ incoming = some connection) → connection < outbox.opened)
    (latched : task.active run.shutdownRequested = true → client.stream.closeReported = true →
      client.stream.disconnectClaimed = true)
    (shut : run.client.stream.closeReported = true → run.client.connection.isClosed = true →
      client.stream.closeReported = true ∧ client.connection.isClosed = true) :
    Inv { run with
      client, mgr, outbox, task, taskConnection, incoming, retired, reports } where
  box := box
  byConnect := fun point starting => by
    obtain ⟨before, was⟩ := byConnect point starting
    exact inv.byConnect before was
  byDispatch := byDispatch
  stopping := inv.stopping
  waited := inv.waited
  cleared := cleared
  aborted := inv.aborted
  stored := fun _ => inv.stored going
  storing := inv.storing
  alone := fun looked => .inr (inv.quiet_of_looked going looked)
  inside := fun connection received => inside connection (receives_iff.mp received)
  fresh := fun connection spawning => by
    have opens : run.connect.opens = true := by rw [show run.connect = _ from spawning]; rfl
    have looked : run.connect.looked = true := by rw [show run.connect = _ from spawning]; rfl
    exact absurd (inv.quiet_of_looked going looked) (not_quiet opens)
  latched := latched
  shut := fun forced done => by
    obtain ⟨closed, isClosed⟩ := inv.shut forced done
    exact shut closed isClosed

/-- A step of the task's loop, by what becomes of the reported close. -/
theorem taskLoop_cases {input : Input} (stepped : run.taskLoop sh input = some next) :
    ∃ loop, run.loop.dispatchStep sh (.task input) = some loop ∧ run.task.isOver = false ∧
      LoopRun.ThreadEffect run.loop loop ∧
      (run.task.active run.shutdownRequested = false → loop.pc.active run.shutdownRequested = false) ∧
      next = { run with
        client := loop.client
        mgr := loop.mgr
        task := loop.pc
        reports := run.reports ++ run.taskReports } := by
  obtain ⟨loop, moved, rfl⟩ := Option.map_eq_some_iff.mp stepped
  exact ⟨loop, moved, LoopRun.dispatch_not_over moved, LoopRun.dispatch_effect moved,
    LoopRun.dispatch_inactive moved, rfl⟩

/-- Every step of the dispatch task keeps the invariant. -/
theorem Inv.taskMove (inv : run.Inv) (move : TaskMove sh run next) : next.Inv := by
  cases move with
  | loops elsewhere retired handed replays stepped =>
    obtain ⟨loop, -, going, effect, idle, rfl⟩ := taskLoop_cases stepped
    have active (active : loop.pc.active run.shutdownRequested = true) :
        run.task.active run.shutdownRequested = true := by
      by_contra inactive
      rw [idle (Bool.eq_false_iff.mpr inactive)] at active
      cases active
    refine inv.working going inv.box (fun point starting => ⟨point, starting⟩)
      (fun point starting => absurd (inv.byDispatch point starting) elsewhere) inv.cleared
      (fun connection received => inv.inside connection (receives_iff.mpr ?_)) (fun still closed => ?_)
      fun closed isClosed => ?_
    · exact received.imp_right fun task => ⟨going, task.2⟩
    · cases effect with
      | keeps keeps => exact keeps.claimed.trans (inv.latched (active still) (keeps.reported.symm.trans closed))
      | lost _ _ claimed => exact claimed
      | opened _ unreported =>
        have both := unreported.symm.trans closed
        cases both
      | gaveUp _ _ ended =>
        rw [ended] at still
        cases still
    · cases effect with
      | keeps keeps => exact ⟨keeps.reported.trans closed, keeps.isClosed closed isClosed⟩
      | lost active unclaimed _ =>
        have both := unclaimed.symm.trans (inv.latched active closed)
        cases both
      | opened fresh _ | gaveUp _ fresh _ =>
        have both := fresh.symm.trans closed
        cases both
  | retires returned fresh =>
    have going : run.task.isOver = false := by rw [returned]; rfl
    exact inv.working going inv.box.retire (fun point starting => ⟨point, starting⟩) inv.byDispatch
      inv.cleared (fun connection received => inv.inside connection (receives_iff.mpr received))
      inv.latched fun closed isClosed => ⟨closed, isClosed⟩
  | locks opened running locked =>
    have going : run.task.isOver = false := by rw [opened]; rfl
    have open_ : ¬ run.Quiet := fun quiet => by
      have both := quiet.1.symm.trans running
      cases both
    obtain ⟨-, rfl⟩ := Outbox.lockWriteTx_free locked
    refine inv.working going (inv.box.lockWriteTx open_ locked) nofun (fun _ _ => opened)
      (fun cleared => ?_) (fun connection received => inv.inside connection (receives_iff.mpr received))
      inv.latched fun closed isClosed => ⟨closed, isClosed⟩
    have moved : run.closer ≠ .idle := by
      intro idle
      rw [idle] at cleared
      cases cleared
    have both := (inv.stopping moved).symm.trans running
    cases both
  | starts opened unspawned advanced =>
    have going : run.task.isOver = false := by rw [opened]; rfl
    obtain ⟨same, opener, before, point, was, -⟩ := Outbox.advance_frame advanced unspawned
    refine inv.working going (inv.box.advance advanced)
      (fun _ starting => Outbox.advance_callers advanced unspawned starting) (fun _ _ => opened)
      (fun cleared => ?_) (fun connection received => same ▸ inv.inside connection (receives_iff.mpr received))
      inv.latched fun closed isClosed => ⟨closed, isClosed⟩
    rw [inv.cleared cleared] at was
    cases was
  | installs opened spawn =>
    have going : run.task.isOver = false := by rw [opened]; rfl
    obtain ⟨opener, starting⟩ := Outbox.starting_of_startAt spawn
    refine inv.working going (inv.box.spawn starting) nofun nofun (fun _ => rfl) ?_
      (fun _ => inv.latched (by rw [opened]; rfl)) fun closed isClosed => ⟨closed, isClosed⟩
    rintro connection (own | ⟨-, read | given⟩)
    · exact Nat.lt_succ_of_lt (inv.inside connection (receives_iff.mpr (.inl own)))
    · exact Nat.lt_succ_of_lt (inv.inside connection (receives_iff.mpr (.inr ⟨going, .inl read⟩)))
    · cases given
      exact Nat.lt_succ_self _
  | reads replayed incoming =>
    have going : run.task.isOver = false := by rw [replayed]; rfl
    refine inv.working going inv.box (fun point starting => ⟨point, starting⟩) (fun point starting => ?_)
      inv.cleared ?_ (fun _ => inv.latched (by rw [replayed]; rfl))
      fun closed isClosed => ⟨closed, isClosed⟩
    · have opened := inv.byDispatch point starting
      rw [replayed] at opened
      cases opened
    · rintro connection (own | ⟨-, rfl | given⟩)
      · exact inv.inside connection (receives_iff.mpr (.inl own))
      · exact inv.inside _ (receives_iff.mpr (.inr ⟨going, .inr incoming⟩))
      · cases given
  | ends going ended free =>
    refine inv.working going.1 inv.box (fun point starting => ⟨point, starting⟩)
      (fun point starting => absurd starting (free (inv.byDispatch point starting) point)) inv.cleared
      (fun connection received => inv.inside connection (receives_iff.mpr (.inl ?_)))
      (fun active => ?_) fun closed isClosed => ⟨closed, isClosed⟩
    · refine received.resolve_right ?_
      rw [ended]
      nofun
    · rw [not_active_of_over ended] at active
      cases active
  | abandons going ended aborted abandoned =>
    have quiet := inv.aborted aborted
    obtain ⟨free, same⟩ := Outbox.abandon_frame abandoned
    refine inv.working going.1 (inv.box.abandon quiet abandoned)
      (fun point starting => by rw [free] at starting; cases starting)
      (fun point starting => by rw [free] at starting; cases starting) (fun _ => free)
      (fun connection received => same ▸ inv.inside connection (receives_iff.mpr (.inl ?_)))
      (fun active => ?_) fun closed isClosed => ⟨closed, isClosed⟩
    · refine received.resolve_right ?_
      rw [ended]
      nofun
    · rw [not_active_of_over ended] at active
      cases active

/-! ### The closing call -/

/-- A closing call that has set the flag moves on. -/
theorem Inv.closing (inv : run.Inv) {shutdownRequested taskAborted : Bool} {outbox : Outbox}
    {closer : AioCloseAt} {dispatchHandle : Option Nat} (stop : shutdownRequested = true)
    (waited : closer.hasWaited = true → run.connect.opens = false)
    (cleared : closer.hasCleared = true → outbox.starting = none)
    (box : outbox.Inv run.Quiet) (starting : outbox.starting = run.outbox.starting)
    (opened : outbox.opened = run.outbox.opened)
    (aborted : taskAborted = true → run.taskAborted = true ∨ run.connect.opens = false)
    (undone : ∀ forced, closer ≠ .done forced) :
    Inv { run with shutdownRequested, outbox, closer, taskAborted, dispatchHandle } where
  box := box.mono fun quiet => ⟨stop, quiet.2⟩
  byConnect := fun point at_ => inv.byConnect point (starting.symm.trans at_)
  byDispatch := fun point at_ => inv.byDispatch point (starting.symm.trans at_)
  stopping := fun _ => stop
  waited := waited
  cleared := cleared
  aborted := fun now => by
    rcases aborted now with before | shut
    · exact ⟨stop, (inv.aborted before).2⟩
    · exact ⟨stop, shut⟩
  stored := fun _ running => by
    have both := stop.symm.trans running
    cases both
  storing := inv.storing
  alone := fun looked => (inv.alone looked).imp_right fun quiet => ⟨stop, quiet.2⟩
  inside := fun connection received => by
    show connection < outbox.opened
    rw [opened]
    exact inv.inside connection received
  fresh := inv.fresh
  latched := fun active => inv.latched (LoopAt.active_mono (fun _ => stop) active)
  shut := fun forced done => absurd done (undone forced)

/-- A closing call that has waited moves on. -/
theorem Inv.closes (inv : run.Inv) {taskAborted : Bool} {outbox : Outbox} {closer : AioCloseAt}
    {dispatchHandle : Option Nat} (at_ : run.closer.hasWaited = true)
    (cleared : closer.hasCleared = true → outbox.starting = none)
    (box : run.Quiet → outbox.Inv run.Quiet) (starting : outbox.starting = run.outbox.starting)
    (opened : outbox.opened = run.outbox.opened) (undone : ∀ forced, closer ≠ .done forced) :
    Inv { run with outbox, closer, taskAborted, dispatchHandle } := by
  have moved : run.closer ≠ .idle := by
    intro idle
    rw [idle] at at_
    cases at_
  have quiet : run.Quiet := ⟨inv.stopping moved, inv.waited at_⟩
  exact inv.closing quiet.1 (fun _ => quiet.2) cleared (box quiet) starting opened
    (fun _ => .inr quiet.2) undone

/-- A closing call that has cleared the sender moves on. -/
theorem Inv.goes (inv : run.Inv) {taskAborted : Bool} {outbox : Outbox} {closer : AioCloseAt}
    {dispatchHandle : Option Nat} (at_ : run.closer.hasCleared = true)
    (box : run.Quiet → outbox.Inv run.Quiet) (starting : outbox.starting = run.outbox.starting)
    (opened : outbox.opened = run.outbox.opened) (undone : ∀ forced, closer ≠ .done forced) :
    Inv { run with outbox, closer, taskAborted, dispatchHandle } :=
  inv.closes (hasWaited_of_hasCleared at_) (fun _ => starting.trans (inv.cleared at_)) box starting
    opened undone

/-- A closing call takes the dispatch task's handle and aborts the task. -/
theorem Inv.takeDispatch (inv : run.Inv) {awaiting following : AioCloseAt}
    (at_ : run.closer.hasWaited = true)
    (cleared : awaiting.hasCleared = true ∨ following.hasCleared = true → run.outbox.starting = none)
    (undone : ∀ forced, awaiting ≠ .done forced ∧ following ≠ .done forced) :
    (run.takeDispatch awaiting following).Inv := by
  unfold AioRun.takeDispatch
  split
  · rename_i handle stored
    have moves {closer : AioCloseAt} (free : closer.hasCleared = true → run.outbox.starting = none)
        (undone : ∀ forced, closer ≠ .done forced) :
        Inv { run.abortTask handle with dispatchHandle := none, closer } := by
      unfold abortTask
      split
      · exact inv.closes at_ free (fun _ => inv.box) rfl rfl undone
      · exact inv.closes at_ free (fun _ => inv.box) rfl rfl undone
    split
    · exact moves (fun free => cleared (.inl free)) fun forced => (undone forced).1
    · exact moves (fun free => cleared (.inr free)) fun forced => (undone forced).2
  · exact inv.closes at_ (fun free => cleared (.inr free)) (fun _ => inv.box) rfl rfl
      fun forced => (undone forced).2

/-- A closing call takes the writer's handle. -/
theorem Inv.takeWriter (inv : run.Inv) {closer : AioCloseAt} (at_ : run.closer.hasCleared = true)
    (undone : ∀ forced, closer ≠ .done forced) :
    Inv { run with outbox := { run.outbox with writerHandle := none }, closer } :=
  inv.goes at_ (fun quiet => inv.box.takeHandle quiet (inv.cleared at_)) rfl rfl undone

/-- A closing call takes the writer's handle and aborts the writer. -/
theorem Inv.abortWriter (inv : run.Inv) {closer : AioCloseAt} {connection : Nat}
    (at_ : run.closer.hasCleared = true) (undone : ∀ forced, closer ≠ .done forced) :
    Inv { run with outbox := { run.outbox.abort connection with writerHandle := none }, closer } :=
  inv.goes at_ (fun quiet => Outbox.Inv.takeHandle inv.box.abort quiet (inv.cleared at_)) rfl rfl undone

/-- A closing call reports the close. -/
theorem Inv.reportClose (inv : run.Inv) {forced : Bool} (at_ : run.closer = .reporting forced)
    (now : Nat) : (run.reportClose sh now forced).Inv := by
  have hasCleared : run.closer.hasCleared = true := by rw [at_]; rfl
  have stop := inv.stopping (by rw [at_]; nofun)
  have shut := inv.waited (hasWaited_of_hasCleared hasCleared)
  have closes : (run.reportClose sh now forced).client.stream.closeReported = true ∧
      (run.reportClose sh now forced).client.connection.isClosed = true ∧
      ((run.reportClose sh now forced).client.stream.disconnectClaimed = true ∨
        (run.reportClose sh now forced).client.stream = run.client.stream) := by
    cases forced with
    | true => exact Client.clientClosed_closes sh now 1006 "Force closed" run.client
    | false => exact Client.clientClosed_closes sh now 1000 "Normal closure" run.client
  obtain ⟨reported, isClosed, claims⟩ := closes
  exact {
    box := inv.box
    byConnect := inv.byConnect
    byDispatch := inv.byDispatch
    stopping := fun _ => stop
    waited := fun _ => shut
    cleared := fun _ => inv.cleared hasCleared
    aborted := inv.aborted
    stored := inv.stored
    storing := inv.storing
    alone := inv.alone
    inside := inv.inside
    fresh := fun connection spawning => by
      rw [show run.connect = .spawning connection from spawning] at shut
      cases shut
    latched := fun active _ => by
      rcases claims with claimed | same
      · exact claimed
      · rw [same] at reported ⊢
        exact inv.latched active reported
    shut := fun _ _ => ⟨reported, isClosed⟩ }

/-- Every step of a closing call keeps the invariant. -/
theorem Inv.closeStep (inv : run.Inv) {input : AioCloseInput}
    (stepped : run.closeStep sh input = some next) : next.Inv := by
  unfold AioRun.closeStep at stepped
  split at stepped
  case h_1 | h_2 =>
    cases stepped
    exact inv.closing rfl nofun nofun inv.box rfl rfl .inl nofun
  case h_3 forced phase =>
    split at stepped <;> cases stepped
    rename_i free
    have shut : run.connect.opens = false := by
      cases at_ : run.connect <;> first | rfl | rw [at_] at free; exact absurd rfl free
    exact inv.closing (inv.stopping (by rw [phase]; nofun)) (fun _ => shut) nofun inv.box rfl rfl .inl
      nofun
  case h_4 phase | h_22 phase =>
    obtain ⟨outbox, cleared, rfl⟩ := Option.map_eq_some_iff.mp stepped
    obtain ⟨free, beside⟩ := Outbox.Beside.clearWriteTx cleared
    exact inv.closes (by rw [phase]; rfl) (fun _ => beside.starting.trans free)
      (fun _ => inv.box.clearWriteTx cleared) beside.starting beside.opened nofun
  -- the Close frame
  case h_5 phase =>
    split at stepped
    · split at stepped <;> cases stepped
      · exact inv.goes (by rw [phase]; rfl) (fun _ => inv.box.holder _) rfl rfl nofun
      · exact inv.goes (by rw [phase]; rfl) (fun _ => inv.box) rfl rfl nofun
    · cases stepped
  case h_6 phase =>
    cases stepped
    exact inv.goes (by rw [phase]; rfl) (fun _ => inv.box.holder none) rfl rfl nofun
  -- the tasks are awaited
  case h_7 phase =>
    cases stepped
    refine inv.takeWriter (by rw [phase]; rfl) ?_
    split <;> nofun
  case h_9 phase =>
    cases stepped
    refine inv.goes (by rw [phase]; rfl) (fun _ => inv.box) rfl rfl ?_
    split <;> nofun
  case h_8 phase | h_10 phase | h_11 phase | h_17 phase =>
    split at stepped <;> cases stepped
    exact inv.goes (by rw [phase]; rfl) (fun _ => inv.box) rfl rfl nofun
  case h_12 phase | h_13 phase | h_14 phase | h_15 phase =>
    cases stepped
    exact inv.goes (by rw [phase]; rfl) (fun _ => inv.box) rfl rfl nofun
  -- the tasks are aborted
  case h_16 phase | h_23 phase =>
    split at stepped <;> cases stepped
    · refine inv.abortWriter (by rw [phase]; rfl) ?_
      nofun
    · exact inv.goes (by rw [phase]; rfl) (fun _ => inv.box) rfl rfl nofun
  case h_18 phase =>
    cases stepped
    exact inv.takeDispatch (by rw [phase]; rfl) (fun _ => inv.cleared (by rw [phase]; rfl))
      fun _ => ⟨nofun, nofun⟩
  case h_20 phase =>
    cases stepped
    exact inv.takeDispatch (by rw [phase]; rfl) (fun cleared => by rcases cleared with free | free <;> cases free)
      fun _ => ⟨nofun, nofun⟩
  case h_21 phase =>
    cases stepped
    exact inv.closes (by rw [phase]; rfl) nofun (fun _ => inv.box.retire) rfl rfl nofun
  case h_19 phase | h_24 phase =>
    obtain ⟨outbox, cleared, rfl⟩ := Option.map_eq_some_iff.mp stepped
    have beside := Outbox.Beside.clearSink cleared
    exact inv.goes (by rw [phase]; rfl) (fun _ => inv.box.clearSink cleared) beside.starting
      beside.opened nofun
  case h_25 forced now phase =>
    cases stepped
    exact inv.reportClose phase now
  case h_26 => cases stepped

/-! ### The writers, the callers that send and the consumer -/

/-- A step of a party that neither starts writers nor closes the client. -/
theorem Inv.beside (inv : run.Inv) {client : Client} {outbox : Outbox} {reports : List Report}
    (keeps : KeepsClose run.client client) (box : outbox.Inv run.Quiet)
    (beside : run.outbox.Beside outbox) : Inv { run with client, outbox, reports } where
  box := box
  byConnect := fun point at_ => inv.byConnect point (beside.starting.symm.trans at_)
  byDispatch := fun point at_ => inv.byDispatch point (beside.starting.symm.trans at_)
  stopping := inv.stopping
  waited := inv.waited
  cleared := fun cleared => beside.starting.trans (inv.cleared cleared)
  aborted := inv.aborted
  stored := inv.stored
  storing := inv.storing
  alone := inv.alone
  inside := fun connection received => by
    show connection < outbox.opened
    rw [beside.opened]
    exact inv.inside connection received
  fresh := fun connection spawning => keeps.reported.trans (inv.fresh connection spawning)
  latched := fun active closed =>
    keeps.claimed.trans (inv.latched active (keeps.reported.symm.trans closed))
  shut := fun forced done => by
    obtain ⟨closed, isClosed⟩ := inv.shut forced done
    exact ⟨keeps.reported.trans closed, keeps.isClosed closed isClosed⟩

/-- Every step of a writer keeps the invariant. -/
theorem Inv.writerStep (inv : run.Inv) {connection : Nat} {input : RunWriterInput}
    (stepped : run.writerStep sh connection input = some next) : next.Inv := by
  unfold AioRun.writerStep at stepped
  split at stepped
  case h_1 failure at_ =>
    cases stepped
    have runs : run.outbox.Runs connection := by rw [Outbox.Runs, at_]; rfl
    exact inv.beside (.refl _) (inv.box.handOver runs _) (.handOver runs _)
  case h_2 failure at_ =>
    cases stepped
    exact inv.beside (.of_section (Client.emitUnlessClosed_section sh rfl _)) inv.box.finish .finish
  case h_3 =>
    obtain ⟨outbox, moved, rfl⟩ := Option.map_eq_some_iff.mp stepped
    exact inv.beside (.refl _) (inv.box.writerStep moved) (.writerStep moved)

theorem pop_keeps {client : Client} {item : StreamItem} {stream : State}
    (popped : client.stream.pop = some (item, stream)) : KeepsClose client { client with stream } := by
  unfold State.pop at popped
  split at popped <;> cases popped <;> exact ⟨rfl, rfl, fun _ => id⟩

/-- Every step keeps the invariant. -/
theorem step_inv (inv : run.Inv) {call : AioCall} (stepped : run.step sh call = some next) :
    next.Inv := by
  cases call with
  | connect input => exact inv.connectMove (connect_cases stepped)
  | close input => exact inv.closeStep stepped
  | task input => exact inv.taskMove (task_cases stepped)
  | writer connection input => exact inv.writerStep stepped
  | cloneSender =>
    obtain ⟨outbox, cloned, rfl⟩ := Option.map_eq_some_iff.mp stepped
    exact inv.beside (.refl _) (inv.box.cloneSender cloned) (.cloneSender cloned)
  | put connection text =>
    obtain ⟨outbox, queued, rfl⟩ := Option.map_eq_some_iff.mp stepped
    exact inv.beside (.refl _) (inv.box.put queued) (.put queued)
  | dropSender connection =>
    obtain ⟨outbox, dropped, rfl⟩ := Option.map_eq_some_iff.mp stepped
    exact inv.beside (.refl _) (inv.box.dropSender dropped) (.dropSender dropped)
  | pop =>
    obtain ⟨⟨item, stream⟩, popped, rfl⟩ := Option.map_eq_some_iff.mp stepped
    exact inv.beside (pop_keeps popped) inv.box (.refl _)

end AioRun

/-- Every state the async client reaches satisfies the invariant. -/
theorem aioRun_inv {sh : Shared} {config : ReconnectionConfig} {run : AioRun}
    (reached : (aioRuns sh config).Reachable run) : run.Inv := by
  have base (first : AioRun) (starts : (aioRuns sh config).start first) : first.Inv := by
    cases starts
    exact .start config
  exact reached.invariant base fun _ _ _ inv stepped => AioRun.step_inv inv stepped

end FugleMarketdata
