/-
**Closing the sync client while it connects.** `connect()` does not look at the state again after its
first check, so a closing call whose report falls between that check and `connect`'s own last report
is not the last word. In every other run it is.

* `ClientRun.Inv` — what holds in every run whose closing calls report outside that window: at most one
  supervisor can still report or reconnect, and a reported close stays;
* `closed_beats_connect` — after the report `connect` changes neither stream nor state, the state stays
  `Closed`, and every supervisor is on its way out;
* `connect_reopens` — a run in which it is not so.
-/

import FugleMarketdata.Websocket.SyncConnect

namespace FugleMarketdata

open StepMachines StepMachine

namespace ClientRun

variable {sh : Shared} {run next : ClientRun}

/-- The condition: the close is not reported while `connect` is past its check of the state and has
a report to come. -/
def ReportsOutside (run : ClientRun) : ClientCall → Prop
  | .close (.report _) => run.connect.opens = false
  | _ => True

instance (run : ClientRun) : (call : ClientCall) → Decidable (run.ReportsOutside call)
  | .close (.report _) => inferInstanceAs (Decidable (run.connect.opens = false))
  | .close .shutdown | .close .force | .close .go | .close (.signal _) => .isTrue trivial
  | .connect _ | .supervise _ _ | .pop => .isTrue trivial

/-- The supervisor may still report its connection lost, or reconnect it. -/
def Active (run : ClientRun) (connection : Nat) : Prop :=
  ∃ pc, run.supervisors[connection]? = some pc ∧ pc.active run.shouldStop = true

/-! ### The invariant -/

/-- What holds in every run. Before a closing call asks, at most one supervisor is ever spawned; later
ones find `should_stop` set. A supervisor that may still report finds the `Disconnected` claimed once
the close is reported. -/
structure Inv (run : ClientRun) : Prop where
  asked : run.closer.asks = true → run.shouldStop = true
  single : run.shouldStop = false → run.supervisors.length ≤ 1
  unspawned : run.shouldStop = false → run.connect.unspawned = true → run.supervisors = []
  stored : run.shouldStop = false → run.supervisorHandle = none →
    run.supervisors = [] ∨ run.connect = .storing
  fresh : run.shouldStop = false → run.connect = .spawning → run.client.stream.closeReported = false
  one : ∀ first second, run.Active first → run.Active second → first = second
  latched : (∃ connection, run.Active connection) → run.client.stream.closeReported = true →
    run.client.stream.disconnectClaimed = true
  shut : run.closed = true → run.shouldStop = true ∧ run.client.stream.closeReported = true ∧
    run.client.connection.isClosed = true ∧ run.connect.opens = false

theorem Inv.start (config : ReconnectionConfig) : Inv { mgr := .new config } where
  asked := nofun
  single := fun _ => Nat.zero_le 1
  unspawned := fun _ _ => rfl
  stored := fun _ _ => .inl rfl
  fresh := fun _ => nofun
  one := by
    rintro first second ⟨pc, found, -⟩
    cases found
  latched := fun _ => nofun
  shut := nofun

/-! ### The thread in `connect` -/

/-- A step of an opening that leaves the flags of the stream alone. -/
theorem Inv.opening (inv : run.Inv) (opens : run.connect.opens = true) {client : Client}
    {connect : ConnectAt} {writeTxSlot : Option Nat}
    (reported : client.stream.closeReported = run.client.stream.closeReported)
    (claimed : client.stream.disconnectClaimed = run.client.stream.disconnectClaimed)
    (unspawned : connect.unspawned = true → run.connect.unspawned = true)
    (calm : connect ≠ .spawning) : Inv { run with client, connect, writeTxSlot } where
  asked := inv.asked
  single := inv.single
  unspawned := fun running still => inv.unspawned running (unspawned still)
  stored := fun running absent => by
    rcases inv.stored running absent with nobody | storing
    · exact .inl nobody
    · rw [storing] at opens
      cases opens
  fresh := fun _ same => absurd same calm
  one := inv.one
  latched := fun active closed => claimed.trans (inv.latched active (reported.symm.trans closed))
  shut := fun closed => by
    have past := (inv.shut closed).2.2.2
    rw [opens] at past
    cases past

/-- `connect` reports the connection authenticated. -/
theorem Inv.authenticated (inv : run.Inv) (opens : run.connect.opens = true)
    (unspawned : run.connect.unspawned = true) (data : Value) (frames : List WebSocketMessage) :
    (run.report (run.client.authenticated sh data frames) .spawning).Inv := by
  obtain ⟨new, pushes, -⟩ := State.openConnection_quiet sh data frames
    ({ run.client.stream with reconnectedAt := none }, {})
  have cleared :
      (run.client.authenticated sh data frames).1.stream.closeReported = false := pushes.reported
  exact {
    asked := inv.asked
    single := inv.single
    unspawned := fun running _ => inv.unspawned running unspawned
    stored := fun running _ => .inl (inv.unspawned running unspawned)
    fresh := fun _ _ => cleared
    one := inv.one
    latched := fun _ reported => by
      have both := cleared.symm.trans reported
      cases both
    shut := fun closed => by
      have past := (inv.shut closed).2.2.2
      rw [opens] at past
      cases past }

/-- A supervisor just spawned is active only where no closing call has asked, and is the first. -/
theorem Inv.spawn (inv : run.Inv) (spawning : run.connect = .spawning) :
    Inv { run with supervisors := run.supervisors ++ [.reading none], connect := .storing } := by
  have alone (running : run.shouldStop = false) : run.supervisors = [] :=
    inv.unspawned running (by rw [spawning]; rfl)
  have active {connection : Nat}
      (active : Active { run with
        supervisors := run.supervisors ++ [.reading none], connect := .storing } connection) :
      run.Active connection ∨ run.shouldStop = false ∧ connection = 0 := by
    obtain ⟨pc, found, active⟩ := active
    rcases getElem?_concat_cases found with before | ⟨last, rfl⟩
    · exact .inl ⟨pc, before, active⟩
    · have running : run.shouldStop = false := by simpa [LoopAt.active] using active
      rw [alone running] at last
      exact .inr ⟨running, last⟩
  have nobody {connection : Nat} (running : run.shouldStop = false) : ¬ run.Active connection := by
    rintro ⟨pc, found, -⟩
    rw [alone running] at found
    cases found
  exact {
    asked := inv.asked
    single := fun running => by
      rw [alone running]
      exact Nat.le_refl 1
    unspawned := fun _ still => by cases still
    stored := fun _ _ => .inr rfl
    fresh := fun _ same => by cases same
    one := fun first second left right => by
      rcases active left with before | ⟨running, rfl⟩
      · rcases active right with other | ⟨running, -⟩
        · exact inv.one first second before other
        · exact absurd before (nobody running)
      · rcases active right with other | ⟨-, rfl⟩
        · exact absurd other (nobody running)
        · rfl
    latched := by
      rintro ⟨connection, there⟩ reported
      rcases active there with before | ⟨running, -⟩
      · exact inv.latched ⟨connection, before⟩ reported
      · have both := (inv.fresh running spawning).symm.trans reported
        cases both
    shut := fun closed => by
      obtain ⟨stop, reported, isClosed, -⟩ := inv.shut closed
      exact ⟨stop, reported, isClosed, rfl⟩ }

/-- A step that leaves client and supervisors alone. -/
theorem Inv.goto (inv : run.Inv) {connect : ConnectAt} {supervisorHandle supervisorExitRx : Option Nat}
    (unspawned : run.shouldStop = false → connect.unspawned = true → run.supervisors = [])
    (stored : run.shouldStop = false → supervisorHandle = none →
      run.supervisors = [] ∨ connect = .storing)
    (calm : connect ≠ .spawning) (past : run.closed = true → connect.opens = false) :
    Inv { run with connect, supervisorHandle, supervisorExitRx } where
  asked := inv.asked
  single := inv.single
  unspawned := unspawned
  stored := stored
  fresh := fun _ same => absurd same calm
  one := inv.one
  latched := inv.latched
  shut := fun closed => by
    obtain ⟨stop, reported, isClosed, -⟩ := inv.shut closed
    exact ⟨stop, reported, isClosed, past closed⟩

theorem Inv.stored_idle (inv : run.Inv) (elsewhere : run.connect ≠ .storing)
    (running : run.shouldStop = false) (absent : run.supervisorHandle = none) :
    run.supervisors = [] :=
  (inv.stored running absent).resolve_right elsewhere

/-- `connect` begins: it goes on only where the client is not closed. -/
theorem Inv.begins (inv : run.Inv) (idle : run.connect = .idle) (valid : Bool) :
    Inv { run with
      connect := if run.client.connection.isClosed || !valid then .idle else .checked } := by
  have elsewhere : run.connect ≠ .storing := by rw [idle]; nofun
  refine inv.goto (fun _ still => ?_) (fun running absent => .inl (inv.stored_idle elsewhere running absent))
    ?_ fun closed => ?_
  · split at still <;> cases still
  · split <;> nofun
  · rw [(inv.shut closed).2.2.1]
    rfl

/-- `connect` is refused where a supervisor's handle is stored. -/
theorem Inv.admit (inv : run.Inv) (checked : run.connect = .checked) :
    Inv { run with connect := if run.supervisorHandle.isSome then .idle else .admitted } := by
  have elsewhere : run.connect ≠ .storing := by rw [checked]; nofun
  refine inv.goto (fun running still => ?_)
    (fun running absent => .inl (inv.stored_idle elsewhere running absent)) ?_ fun closed => ?_
  · split at still
    · cases still
    · rename_i absent
      exact inv.stored_idle elsewhere running (Option.not_isSome_iff_eq_none.mp absent)
  · split <;> nofun
  · have past := (inv.shut closed).2.2.2
    rw [checked] at past
    cases past

/-- Every step of `connect` keeps the invariant. -/
theorem Inv.connectStep (inv : run.Inv) {input : ConnectInput}
    (stepped : run.connectStep sh input = some next) : next.Inv := by
  unfold ClientRun.connectStep at stepped
  split at stepped
  case h_1 phase =>
    cases stepped
    exact inv.begins phase _
  case h_2 phase =>
    cases stepped
    exact inv.admit phase
  case h_4 phase | h_7 phase | h_14 phase =>
    cases stepped
    exact inv.opening (by rw [phase]; rfl) (Client.emit_keeps sh _ _).reported
      (Client.emit_keeps sh _ _).claimed (fun _ => by rw [phase]; rfl) nofun
  case h_16 message data frames phase =>
    cases stepped
    have keeps := Client.unauthenticated_keeps sh message data frames run.client
    exact inv.opening (by rw [phase]; rfl) keeps.reported keeps.claimed nofun nofun
  case h_19 phase =>
    cases stepped
    exact inv.authenticated (by rw [phase]; rfl) (by rw [phase]; rfl) _ _
  case h_20 phase =>
    cases stepped
    exact inv.spawn phase
  case h_21 phase =>
    cases stepped
    refine inv.goto (fun _ => nofun) (fun running absent => .inl ?_) nofun fun _ => rfl
    exact inv.stored_idle (by rw [phase]; nofun) running absent
  case h_22 phase =>
    cases stepped
    exact inv.goto (fun _ => nofun) (fun _ => nofun) nofun fun _ => rfl
  case h_23 phase =>
    cases stepped
    refine inv.goto (fun _ => nofun) (fun running absent => .inl ?_) nofun fun _ => rfl
    exact inv.stored_idle (by rw [phase]; nofun) running absent
  case h_24 => cases stepped
  all_goals
    cases stepped
    rename_i phase
    exact inv.opening (by rw [phase]; rfl) rfl rfl (fun _ => by rw [phase]; rfl) nofun

/-! ### The closing thread -/

/-- A closing call moves on; it may raise `should_stop`. -/
theorem Inv.closing (inv : run.Inv) {shouldStop abort : Bool} {closer : CloseAt}
    {writeTxSlot supervisorHandle supervisorExitRx : Option Nat}
    (raises : run.shouldStop = true → shouldStop = true) (asks : closer.asks = true → shouldStop = true)
    (keepsHandle : shouldStop = false → supervisorHandle = run.supervisorHandle) :
    Inv { run with
      shouldStop, abort, closer, writeTxSlot, supervisorHandle, supervisorExitRx } := by
  have before (running : shouldStop = false) : run.shouldStop = false := by
    by_contra stopped
    rw [raises (Bool.not_eq_false _ ▸ stopped)] at running
    cases running
  have active {connection : Nat} (active : Active { run with
      shouldStop, abort, closer, writeTxSlot, supervisorHandle, supervisorExitRx } connection) :
      run.Active connection := by
    obtain ⟨pc, found, active⟩ := active
    exact ⟨pc, found, LoopAt.active_mono raises active⟩
  exact {
    asked := asks
    single := fun running => inv.single (before running)
    unspawned := fun running => inv.unspawned (before running)
    stored := fun running absent =>
      inv.stored (before running) ((keepsHandle running).symm.trans absent)
    fresh := fun running => inv.fresh (before running)
    one := fun first second left right => inv.one first second (active left) (active right)
    latched := fun ⟨connection, there⟩ => inv.latched ⟨connection, active there⟩
    shut := fun closed => by
      obtain ⟨stop, rest⟩ := inv.shut closed
      exact ⟨raises stop, rest⟩ }

/-- A closing call that has asked moves on. -/
theorem Inv.asking (inv : run.Inv) (asks : run.closer.asks = true) {closer : CloseAt}
    {writeTxSlot supervisorHandle supervisorExitRx : Option Nat} :
    Inv { run with closer, writeTxSlot, supervisorHandle, supervisorExitRx } := by
  have stop := inv.asked asks
  refine inv.closing id (fun _ => stop) fun running => ?_
  rw [stop] at running
  cases running

/-- A closing call reports the close, with no report of `connect` to come. -/
theorem Inv.reportClose (inv : run.Inv) (asks : run.closer.asks = true)
    (past : run.connect.opens = false) (now code : Nat) (reason : String) :
    Inv { run with
      client := (run.client.clientClosed sh now code reason).1, closer := .idle, closed := true } := by
  have stop := inv.asked asks
  have raised {goal : Prop} (running : run.shouldStop = false) : goal := by
    rw [stop] at running
    cases running
  obtain ⟨reported, isClosed, claims⟩ := Client.clientClosed_closes sh now code reason run.client
  exact {
    asked := nofun
    single := raised
    unspawned := raised
    stored := raised
    fresh := raised
    one := inv.one
    latched := fun active _ => by
      rcases claims with claimed | same
      · exact claimed
      · show (run.client.clientClosed sh now code reason).1.stream.disconnectClaimed = true
        rw [same] at reported ⊢
        exact inv.latched active reported
    shut := fun _ => ⟨stop, reported, isClosed, past⟩ }

/-- Every step of a closing call keeps the invariant. -/
theorem Inv.closeStep (inv : run.Inv) {input : CloseInput}
    (outside : run.ReportsOutside (.close input)) (stepped : run.closeStep sh input = some next) :
    next.Inv := by
  unfold ClientRun.closeStep at stepped
  split at stepped
  case h_1 | h_3 =>
    cases stepped
    exact inv.closing (fun _ => rfl) (fun _ => rfl) nofun
  case h_2 =>
    cases stepped
    exact inv.closing id nofun fun _ => rfl
  case h_5 phase | h_7 phase =>
    split at stepped <;> cases stepped
    exact inv.asking (by rw [phase]; rfl)
  case h_4 phase | h_6 phase | h_8 phase | h_9 phase =>
    cases stepped
    exact inv.asking (by rw [phase]; rfl)
  case h_10 forced now phase =>
    cases stepped
    have asks : run.closer.asks = true := by rw [phase]; rfl
    cases forced with
    | true => exact inv.reportClose asks outside now 1006 "Force closed"
    | false => exact inv.reportClose asks outside now 1000 "Normal closure"
  case h_11 => cases stepped

/-! ### The supervisors -/

/-- A supervisor's step makes none active that was not. -/
theorem active_of_supervised {connection other : Nat} {pc : LoopAt} {loop : LoopRun}
    (there : run.supervisors[connection]? = some pc)
    (idle : pc.active run.shouldStop = false → loop.pc.active run.shouldStop = false)
    (active : (run.supervised connection loop).Active other) :
    run.Active other ∧ (other = connection → loop.pc.active run.shouldStop = true) := by
  obtain ⟨found, position, active⟩ := active
  rw [supervised_shouldStop] at active
  rcases getElem?_set_cases position with ⟨rfl, rfl⟩ | ⟨elsewhere, before⟩
  · refine ⟨⟨pc, there, ?_⟩, fun _ => active⟩
    by_contra inactive
    rw [idle (Bool.eq_false_iff.mpr inactive)] at active
    cases active
  · exact ⟨⟨found, before, active⟩, fun same => absurd same elsewhere⟩

/-- Every step of a supervisor keeps the invariant. -/
theorem Inv.superviseStep (inv : run.Inv) {connection : Nat} {call : SupervisorCall}
    (stepped : run.superviseStep sh connection call = some next) : next.Inv := by
  unfold ClientRun.superviseStep at stepped
  split at stepped
  case h_2 => cases stepped
  rename_i pc there
  simp only [Option.ite_none_right_eq_some] at stepped
  obtain ⟨own, stepped⟩ := stepped
  obtain ⟨moved, threadStep, rfl⟩ := Option.map_eq_some_iff.mp stepped
  have effect := LoopRun.thread_effect sh own threadStep
  have idle := LoopRun.thread_inactive sh own threadStep
  have somebody {goal : Prop} (nobody : run.supervisors = []) : goal := by
    rw [nobody] at there
    cases there
  exact {
    asked := inv.asked
    single := fun running => by
      rw [supervised_supervisors, List.length_set]
      exact inv.single running
    unspawned := fun running before => somebody (inv.unspawned running before)
    stored := fun running absent => .inr ((inv.stored running absent).resolve_left somebody)
    fresh := fun running spawning =>
      somebody (inv.unspawned running (by rw [show run.connect = _ from spawning]; rfl))
    one := fun first second left right =>
      inv.one first second (active_of_supervised there idle left).1
        (active_of_supervised there idle right).1
    latched := by
      rintro ⟨other, active⟩ reported
      obtain ⟨before, still⟩ := active_of_supervised there idle active
      cases effect with
      | keeps keeps =>
        have already := keeps.reported.symm.trans reported
        exact keeps.claimed.trans (inv.latched ⟨other, before⟩ already)
      | lost active unclaimed claimed => exact claimed
      | opened fresh unreported =>
        have both := unreported.symm.trans reported
        cases both
      | gaveUp active fresh ended =>
        have same : other = connection := inv.one _ _ before ⟨pc, there, active⟩
        have active := still same
        rw [ended] at active
        cases active
    shut := fun closed => by
      obtain ⟨stop, reported, isClosed, past⟩ := inv.shut closed
      cases effect with
      | keeps keeps =>
        exact ⟨stop, keeps.reported.trans reported, keeps.isClosed reported isClosed, past⟩
      | lost active unclaimed claimed =>
        have both := unclaimed.symm.trans (inv.latched ⟨connection, pc, there, active⟩ reported)
        cases both
      | opened fresh unreported =>
        have both := fresh.symm.trans reported
        cases both
      | gaveUp active fresh ended =>
        have both := fresh.symm.trans reported
        cases both }

/-! ### Every run -/

theorem Inv.pop (inv : run.Inv) {item : StreamItem} {stream : State}
    (popped : run.client.stream.pop = some (item, stream)) :
    Inv { run with client := { run.client with stream } } := by
  have same : stream.closeReported = run.client.stream.closeReported ∧
      stream.disconnectClaimed = run.client.stream.disconnectClaimed := by
    unfold State.pop at popped
    split at popped <;> cases popped <;> exact ⟨rfl, rfl⟩
  obtain ⟨reported, claimed⟩ := same
  exact {
    asked := inv.asked
    single := inv.single
    unspawned := inv.unspawned
    stored := inv.stored
    fresh := fun running spawning => reported.trans (inv.fresh running spawning)
    one := inv.one
    latched := fun active closed => claimed.trans (inv.latched active (reported.symm.trans closed))
    shut := fun closed => by
      obtain ⟨stop, before, rest⟩ := inv.shut closed
      exact ⟨stop, reported.trans before, rest⟩ }

theorem step_inv (inv : run.Inv) {call : ClientCall} (outside : run.ReportsOutside call)
    (stepped : run.step sh call = some next) : next.Inv := by
  cases call with
  | connect input => exact inv.connectStep stepped
  | close input => exact inv.closeStep outside stepped
  | supervise connection call => exact inv.superviseStep stepped
  | pop =>
    obtain ⟨⟨item, stream⟩, popped, rfl⟩ := Option.map_eq_some_iff.mp stepped
    exact inv.pop popped

theorem reachable_inv {config : ReconnectionConfig}
    (reached : (clientRuns sh config).ReachableUnder (fun run call _ => run.ReportsOutside call) run) :
    run.Inv := by
  have base (first : ClientRun) (starts : (clientRuns sh config).start first) : first.Inv := by
    cases starts
    exact .start config
  exact reached.invariant base fun _ _ _ inv stepped outside => step_inv inv outside stepped

/-- The supervisor of a connection is on its way out: each step brings it closer to its end, but for
what it still reads, and from reading it can leave at once. -/
def Leaves (sh : Shared) (run : ClientRun) (connection : Nat) : Prop :=
  ∀ pc, run.supervisors[connection]? = some pc →
    (∀ call next moved, run.superviseStep sh connection call = some next →
      next.supervisors[connection]? = some moved →
      moved.rank < pc.rank ∨ pc.isReading = true ∧ moved.isReading = true) ∧
    (pc.isReading = true → ∃ next moved, run.superviseStep sh connection .stopSeen = some next ∧
      next.supervisors[connection]? = some moved ∧ moved.rank < pc.rank)

theorem leaves_of_closed (inv : run.Inv) (closed : run.closed = true) (connection : Nat) :
    run.Leaves sh connection := by
  obtain ⟨stop, reported, -, -⟩ := inv.shut closed
  intro pc there
  have inside : connection < run.supervisors.length := (List.getElem?_eq_some_iff.mp there).1
  refine ⟨fun call next moved stepped found => ?_, fun reading => ?_⟩
  · simp only [superviseStep, there, Option.ite_none_right_eq_some] at stepped
    obtain ⟨own, stepped⟩ := stepped
    obtain ⟨loop, threadStep, rfl⟩ := Option.map_eq_some_iff.mp stepped
    have rank := LoopRun.thread_rank sh own stop reported threadStep
    have same : loop.pc = moved := by
      simpa [List.getElem?_set, inside] using found
    rw [same] at rank
    exact rank
  · have stopped : (run.loop connection pc).stop = true := stop
    obtain ⟨loop, threadStep, rank⟩ := LoopRun.stopSeen_enabled sh stopped reading
    refine ⟨run.supervised connection loop, loop.pc, ?_, List.getElem?_set_self inside, rank⟩
    simp only [superviseStep, there, SupervisorCall.ofThread, if_true, threadStep, Option.map_some]

end ClientRun

/-! ### The closing call has the last word -/

/-- **Closing the sync client beats a `connect()` in progress** in every run whose closing calls do
not report between `connect`'s check of the state and its last report. Once the close is reported,
`connect` changes neither the stream nor the state, the state is `Closed`, and every supervisor is on
its way out. -/
theorem closed_beats_connect {sh : Shared} {config : ReconnectionConfig} {run : ClientRun}
    (reached : (clientRuns sh config).ReachableUnder (fun run call _ => run.ReportsOutside call) run)
    (closed : run.closed = true) :
    (∀ input next, run.step sh (.connect input) = some next → next.client = run.client) ∧
      run.client.connection.isClosed = true ∧ ∀ connection, run.Leaves sh connection := by
  have inv := ClientRun.reachable_inv reached
  obtain ⟨-, -, isClosed, past⟩ := inv.shut closed
  refine ⟨fun input next stepped => ?_, isClosed, ClientRun.leaves_of_closed inv closed⟩
  simp only [ClientRun.step, ClientRun.connectStep] at stepped
  split at stepped
  case h_24 => cases stepped
  case h_1 | h_20 | h_21 | h_22 | h_23 =>
    cases stepped
    rfl
  all_goals
    rename_i phase
    rw [phase] at past
    cases past

/-! ### Concrete runs -/

/-- A whole `connect()` the server accepts. -/
def acceptedConnect : List ClientCall :=
  ([.begin true, .go, .go, .go, .dialed none, .go, .go, .go, .verdict (.authenticated .null []), .go,
    .go, .go, .spawned true, .go, .go] : List ConnectInput).map .connect

/-- A whole `shutdown_with_timeout`, whose wait times out. -/
def timedOutShutdown : List ClientCall :=
  ([.shutdown, .go, .signal false, .go, .go, .report 0] : List CloseInput).map .close

theorem closed_beats_connect_connected :
    ∃ run, (clientRuns smallStream .default).run { mgr := .new .default }
        (acceptedConnect ++ timedOutShutdown) = some run ∧
      run.client.connection.isClosed = true ∧ run.Leaves smallStream 0 ∧
      ∀ next, run.step smallStream (.connect (.begin true)) = some next → next.client = run.client := by
  obtain ⟨run, ran, closed⟩ : ∃ run, (clientRuns smallStream .default).runUnder
      (fun run call => run.ReportsOutside call) { mgr := .new .default }
      (acceptedConnect ++ timedOutShutdown) = some run ∧ run.closed = true := ⟨_, rfl, rfl⟩
  have reached := reachableUnder_of_run (acceptedConnect ++ timedOutShutdown) (.start rfl) ran
  obtain ⟨unchanged, isClosed, leaves⟩ := closed_beats_connect reached closed
  exact ⟨run, run_of_runUnder _ ran, isClosed, leaves 0, unchanged (.begin true)⟩

/-- A whole `shutdown_with_timeout` of a client that never connected, with no wait. -/
def idleShutdown : List ClientCall :=
  ([.shutdown, .go, .signal true, .go, .go, .report 0] : List CloseInput).map .close

/-- `connect()` finds the client not closed, the client is closed, and `connect()` goes on. -/
def closedMeanwhile : List ClientCall :=
  .connect (.begin true) :: idleShutdown ++ List.replicate 3 (.connect .go)

/-- In some run `connect` reopens a client that has been closed. -/
theorem connect_reopens :
    ¬ ∀ run, (clientRuns smallStream .default).Reachable run → run.closed = true →
      (∀ input next, run.step smallStream (.connect input) = some next → next.client = run.client) ∧
        run.client.connection.isClosed = true ∧ ∀ connection, run.Leaves smallStream connection := by
  refine not_forall_reachable closedMeanwhile rfl ⟨_, rfl, fun beats => ?_⟩
  cases (beats rfl).2.1

end FugleMarketdata
