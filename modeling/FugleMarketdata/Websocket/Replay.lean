/-
**Subscribing while a reconnect replays.** The end of a successful reconnect, `open_reconnected` of
`sync/owner_thread.rs` and `try_reconnect` of `aio/reconnect.rs`, beside the callers' `subscribe` and
`subscribe_futopt`.

The owner of the connection works through a fixed list of steps, which is all the two clients differ
in (`syncReplay`, `asyncReplay`). A call stores its rows one at a time, reads the connection state,
and only if that is `Connected` takes the sender from the slot and sends its frame. What the new channel
carries the synchronous owner receives itself; the asynchronous one gives the receiver to a writer task,
which may end at any time, and then reports what it cannot queue.

* `ReplayRun.Inv` — a stored key is in the snapshot, or some call still answers for it;
* `replay_covers` — for an owner that installs the new channel before it lets callers use it, every
  key stored at the end has a frame on the new channel or one that was dropped, if each call that found
  the client unconnected did so before the snapshot or with nothing new;
* `asyncReplay_covers`, `syncReplay_covers` — the two clients: the asynchronous one records
  `Connected` before the snapshot and needs no such condition, and drops a frame only where its writer has
  ended; the synchronous one drops none.
-/

import Mathlib.Data.List.Infix
import FugleMarketdata.Websocket.Protocol
import FugleMarketdata.Websocket.ReconnectLoop

namespace FugleMarketdata

open StepMachines StepMachine

/-! ### The owner and the callers -/

/-- The write channel of the connection that was lost, and the one of the new connection. -/
inductive WriteChannel where
  | old | new
  deriving DecidableEq, Repr

/-- A step of the connection's owner after the handshake. -/
inductive OwnerStep where
  | recordConnected
  | stopWriter
  | spawnWriter
  | install
  | clearServerIds
  | snapshot
  | queueReplay
  deriving DecidableEq, Repr

/-- The synchronous owner thread: ids cleared and subscriptions read in `reconnect_and_authenticate`,
the rest in `open_reconnected`. -/
def syncReplay : List OwnerStep := [.clearServerIds, .snapshot, .install, .queueReplay, .recordConnected]

/-- Who receives what the new channel carries: the owner, or a writer task, which may have ended. -/
inductive Receiver where
  | owner | writer | gone
  deriving DecidableEq, Repr

/-- Where a subscribe call is. -/
inductive CallPhase where
  | storing (rows : List SubscribeRequest)
  | reading
  | taking
  | sending (channel : WriteChannel)
  | returned (ok : Bool)
  deriving DecidableEq, Repr

/-- A caller's `subscribe` or `subscribe_futopt`. -/
structure SubscribeCall where
  req : SubscribeRequest
  phase : CallPhase
  deriving DecidableEq, Repr

/-- The client during a reconnect: whether the recorded state is `Connected`, the write slot and
whether the owner holds its lock, who receives from the new channel, what the owner has yet to do, what
it read and has yet to queue, all that was queued on the new channel, the frames of the replay that could
not be, whether the client's close was reported, the errors reported, and the calls. -/
structure ReplayRun where
  manager : SubscriptionManager := {}
  connected : Bool := false
  slot : Option WriteChannel := none
  slotLocked : Bool := false
  receiver : Receiver := .owner
  todo : List OwnerStep
  read : List SubscribeRequest := []
  replay : List ResubscribeFrame := []
  queued : List WebSocketRequest := []
  dropped : List ResubscribeFrame := []
  closeReported : Bool := false
  errors : List ConnectionEvent := []
  calls : List SubscribeCall := []

/-- One step of the owner, of the call at a position (`accepted` says what the old channel answers), an
unsubscribe, the end of the new channel's writer, or a closing caller that drops the sender from the slot
or reports the close. -/
inductive ReplayStep where
  | owner
  | begin (req : SubscribeRequest)
  | advance (position : Nat) (accepted : Bool)
  | unsubscribe (target : String)
  | writerEnds
  | clearSlot
  | reportClose
  deriving DecidableEq, Repr

namespace ReplayRun

/-- `replay_subscriptions`, one frame: it is queued, or reported where the writer has ended, unless the
client's close was. -/
def replayFrame (run : ReplayRun) (frame : ResubscribeFrame) : ReplayRun :=
  if run.receiver = .gone then
    { run with
      dropped := run.dropped ++ [frame]
      errors :=
        if run.closeReported then run.errors
        else run.errors ++ [ResubscribeFailure.event { label := frame.label, info := WRITER_GONE }] }
  else { run with queued := run.queued ++ [frame.frame] }

/-- The owner's next step; the replay is queued frame by frame. -/
def ownerStep (run : ReplayRun) : Option ReplayRun :=
  match run.todo with
  | [] => none
  | .recordConnected :: rest => some { run with todo := rest, connected := true }
  | .stopWriter :: rest => some { run with todo := rest, slotLocked := true }
  | .spawnWriter :: rest => some { run with todo := rest, receiver := .writer }
  | .install :: rest => some { run with todo := rest, slot := some .new, slotLocked := false }
  | .clearServerIds :: rest => some { run with todo := rest, manager := run.manager.clearServerIds }
  | .snapshot :: rest =>
    some
      { run with
        todo := rest
        read := run.manager.getAll
        replay := frameResubscribe run.manager.getAll }
  | .queueReplay :: rest =>
    match run.replay with
    | [] => some { run with todo := rest }
    | frame :: frames => some ({ run with replay := frames }.replayFrame frame)

/-- The run with the call at a position moved to a phase. -/
def setPhase (run : ReplayRun) (position : Nat) (call : SubscribeCall) (phase : CallPhase) :
    ReplayRun :=
  { run with calls := run.calls.set position { call with phase } }

/-- The next step of a call. -/
def callStep (run : ReplayRun) (position : Nat) (call : SubscribeCall) (accepted : Bool) :
    Option ReplayRun :=
  match call.phase with
  | .storing (row :: rows) =>
    some ({ run with manager := run.manager.subscribe row }.setPhase position call (.storing rows))
  | .storing [] => some (run.setPhase position call .reading)
  | .reading =>
    some (run.setPhase position call (if run.connected then .taking else .returned true))
  | .taking =>
    if run.slotLocked then none
    else
      match run.slot with
      | none => some (run.setPhase position call (.returned false))
      | some channel => some (run.setPhase position call (.sending channel))
  | .sending .old => some (run.setPhase position call (.returned accepted))
  | .sending .new =>
    if run.receiver = .gone then some (run.setPhase position call (.returned false))
    else
      some ({ run with queued := run.queued ++ [WebSocketRequest.subscribe call.req] }.setPhase position
        call (.returned true))
  | .returned _ => none

def step (run : ReplayRun) : ReplayStep → Option ReplayRun
  | .owner => run.ownerStep
  | .begin req =>
    if req.isNamed then
      some { run with calls := run.calls ++ [{ req, phase := .storing req.expand }] }
    else none
  | .advance position accepted =>
    run.calls[position]?.bind fun call => run.callStep position call accepted
  | .unsubscribe target =>
    some { run with manager := (run.manager.resolveUnsubscribe target).2 }
  | .writerEnds => if run.receiver = .writer then some { run with receiver := .gone } else none
  | .clearSlot => if run.slotLocked then none else some { run with slot := none }
  | .reportClose => some { run with closeReported := true }

/-- A typed subscription is a call that may begin: it stores the rows of its frame. -/
theorem step_typed (run : ReplayRun) :
    (∀ sub : StockSubscription, ∃ req, frameSubscribe sub = (.subscribe req, req.expand) ∧
      run.step (.begin req) =
        some { run with calls := run.calls ++ [{ req, phase := .storing req.expand }] }) ∧
    ∀ sub : FutOptSubscription, ∃ req, frameSubscribeFutopt sub = (.subscribe req, req.expand) ∧
      run.step (.begin req) =
        some { run with calls := run.calls ++ [{ req, phase := .storing req.expand }] } := by
  refine ⟨fun sub => ?_, fun sub => ?_⟩
  · obtain ⟨req, frame, named⟩ := frameSubscribe_named sub
    exact ⟨req, frame, if_pos named⟩
  · obtain ⟨req, frame, named⟩ := frameSubscribeFutopt_named sub
    exact ⟨req, frame, if_pos named⟩

/-- Stored rows stand under their own keys. -/
def StoredRows (mgr : SubscriptionManager) : Prop :=
  ∀ entry ∈ mgr.subscriptions.entries, entry.2.key = entry.1 ∧ entry.2.isRow = true

/-- A call for rows, with only its own left to store. -/
def CallFits (call : SubscribeCall) : Prop :=
  call.req.isNamed = true ∧
    ∀ rows, call.phase = .storing rows → ∀ row ∈ rows, row ∈ call.req.expand

/-- Just after the handshake: whatever is stored, whatever calls are under way, the state not yet
`Connected` and no new channel installed. -/
structure Starts (program : List OwnerStep) (run : ReplayRun) : Prop where
  todo : run.todo = program
  connected : run.connected = false
  slot : run.slot ≠ some .new
  receiver : run.receiver = .owner
  read : run.read = []
  replay : run.replay = []
  queued : run.queued = []
  dropped : run.dropped = []
  stored : StoredRows run.manager
  calls : ∀ call ∈ run.calls, CallFits call

end ReplayRun

/-- An owner that works through a program, and any callers. -/
def replayRuns (program : List OwnerStep) : StepMachine ReplayRun ReplayStep where
  start := ReplayRun.Starts program
  step := ReplayRun.step

/-- A call that reads a state other than `Connected` does so before the owner reads the stored
subscriptions, or with all of its keys among those read. -/
def ReplayRun.ReadsInTime (run : ReplayRun) (step : ReplayStep) : Prop :=
  ∀ position accepted call, step = .advance position accepted → run.calls[position]? = some call →
    call.phase = .reading → run.connected = false →
      .snapshot ∈ run.todo ∨ ∀ key ∈ call.req.rowKeys, key ∈ run.read.map SubscribeRequest.key

/-- What the order of the owner's steps has to promise: each step comes once, the ones that matter
come at all, once the subscriptions are read and `Connected` is recorded the new channel is
installed, and the replay is queued after the subscriptions are read. -/
structure OrderedReplay (program : List OwnerStep) : Prop where
  once : program.Nodup
  complete : .recordConnected ∈ program ∧ .install ∈ program ∧ .snapshot ∈ program
  installs : ∀ todo, todo <:+ program → .snapshot ∉ todo → .recordConnected ∉ todo → .install ∉ todo
  queues : ∀ todo, todo <:+ program → todo.head? = some .snapshot → .queueReplay ∈ todo.tail

/-- A property of every suffix is one of the finitely many tails. -/
theorem forall_suffix {α : Type} {P : List α → Prop} {l : List α} (tails : ∀ t ∈ l.tails, P t) :
    ∀ t, t <:+ l → P t := fun t suffix => tails t ((List.mem_tails t l).mpr suffix)

theorem syncReplay_ordered : OrderedReplay syncReplay where
  once := by decide
  complete := by decide
  installs := forall_suffix (by decide)
  queues := forall_suffix (by decide)

namespace ReplayRun

/-! ### The invariant -/

/-- A call that will still put its frame on the new channel, has done so, or does not return
`Ok`. -/
def Answers (run : ReplayRun) (call : SubscribeCall) : Prop :=
  match call.phase with
  | .storing _ => True
  | .reading => True
  | .taking => run.slot ≠ some .old
  | .sending channel => channel = .new
  | .returned ok => ok = true → .subscribe call.req ∈ run.queued

/-- A key has a frame on the new channel, or one of the replay's that was dropped. -/
def Sent (run : ReplayRun) (key : String) : Prop :=
  (∃ frame ∈ run.queued, key ∈ frame.subscribes) ∨ ∃ frame ∈ run.dropped, key ∈ frame.frame.subscribes

/-- A key has a frame in the rest of the replay, or had one. -/
def Replayed (run : ReplayRun) (key : String) : Prop :=
  (∃ frame ∈ run.replay, key ∈ frame.frame.subscribes) ∨ run.Sent key

/-- A frame that was dropped was reported, unless the client's close was. -/
def Told (run : ReplayRun) (frame : ResubscribeFrame) : Prop :=
  ResubscribeFailure.event { label := frame.label, info := WRITER_GONE } ∈ run.errors ∨
    run.closeReported = true

/-- The invariant: where the owner is determines the state and the slot; once it has read the stored
subscriptions, every stored key was among them or has a call that answers for it; and every key read
is replayed. -/
structure Inv (program : List OwnerStep) (run : ReplayRun) : Prop where
  suffix : run.todo <:+ program
  recorded : run.connected = true ↔ .recordConnected ∉ run.todo
  installed : .install ∉ run.todo → run.slot ≠ some .old
  spawned : run.receiver ≠ .owner → .spawnWriter ∈ program ∧ .spawnWriter ∉ run.todo
  lost : run.dropped ≠ [] → run.receiver = .gone
  told : ∀ frame ∈ run.dropped, run.Told frame
  stored : StoredRows run.manager
  calls : ∀ (position : Nat) (call : SubscribeCall), run.calls[position]? = some call → CallFits call
  covered : .snapshot ∉ run.todo → ∀ key ∈ run.manager.subscriptions,
    key ∈ run.read.map SubscribeRequest.key ∨
      ∃ (position : Nat) (call : SubscribeCall), run.calls[position]? = some call ∧
        key ∈ call.req.rowKeys ∧ run.Answers call
  replayed : ∀ key ∈ run.read.map SubscribeRequest.key, run.Replayed key
  ended : .queueReplay ∉ run.todo → run.replay = []

variable {program : List OwnerStep} {run : ReplayRun}

theorem Starts.inv (ordered : OrderedReplay program) (starts : Starts program run) :
    run.Inv program where
  suffix := starts.todo ▸ List.suffix_refl _
  recorded := by
    rw [starts.connected, starts.todo]
    exact ⟨fun same => (by cases same), fun absent => absurd ordered.complete.1 absent⟩
  installed := by
    rw [starts.todo]
    exact fun absent => absurd ordered.complete.2.1 absent
  spawned := fun other => absurd starts.receiver other
  lost := fun some => absurd starts.dropped some
  told := by
    rw [starts.dropped]
    exact fun frame member => by cases member
  stored := starts.stored
  calls := fun position call found => starts.calls call (List.mem_of_getElem? found)
  covered := by
    rw [starts.todo]
    exact fun absent => absurd ordered.complete.2.2 absent
  replayed := by
    rw [starts.read]
    exact fun key member => by cases member
  ended := fun _ => starts.replay

theorem Answers.mono {next : ReplayRun} {call : SubscribeCall} (answers : run.Answers call)
    (slot : run.slot ≠ some .old → next.slot ≠ some .old)
    (queued : ∀ frame ∈ run.queued, frame ∈ next.queued) : next.Answers call := by
  unfold Answers at answers ⊢
  split at answers
  · exact answers
  · exact answers
  · exact slot answers
  · exact answers
  · exact fun ok => queued _ (answers ok)

/-! ### The owner's steps -/

/-- A key that is stored is the key of a row that a snapshot reads. -/
theorem mem_getAll {mgr : SubscriptionManager} (stored : StoredRows mgr) {key : String}
    (member : key ∈ mgr.subscriptions) : key ∈ mgr.getAll.map SubscribeRequest.key := by
  obtain ⟨⟨named, row⟩, inEntries, rfl⟩ := List.mem_map.mp member
  refine List.mem_map.mpr ⟨row, List.mem_map.mpr ⟨(named, row), inEntries, rfl⟩, ?_⟩
  exact (stored (named, row) inEntries).1

theorem isRow_of_mem_getAll {mgr : SubscriptionManager} (stored : StoredRows mgr)
    {row : SubscribeRequest} (member : row ∈ mgr.getAll) : row.isRow = true := by
  obtain ⟨key, inEntries⟩ := IndexMap.exists_of_mem_values member
  exact (stored (key, row) inEntries).2

/-- A step of the owner that is neither the reading nor the queueing of the replay. -/
theorem Inv.plainStep (ordered : OrderedReplay program) (inv : run.Inv program)
    {head : OwnerStep} {rest : List OwnerStep} (ahead : run.todo = head :: rest) {next : ReplayRun}
    (todo : next.todo = rest) (connected : next.connected = (run.connected || head == .recordConnected))
    (slot : next.slot = if head = .install then some .new else run.slot)
    (receiver : next.receiver = if head = .spawnWriter then .writer else run.receiver)
    (subscriptions : next.manager.subscriptions = run.manager.subscriptions)
    (kept : next.read = run.read ∧ next.replay = run.replay ∧ next.queued = run.queued ∧
      next.calls = run.calls)
    (reported : next.dropped = run.dropped ∧ next.errors = run.errors ∧
      next.closeReported = run.closeReported)
    (plain : head ≠ .snapshot ∧ head ≠ .queueReplay) : next.Inv program := by
  obtain ⟨read, replay, queued, calls⟩ := kept
  obtain ⟨dropped, errors, closed⟩ := reported
  have fresh : head ∉ rest := by
    have nodup := (inv.suffix.sublist).nodup ordered.once
    rw [ahead] at nodup
    exact (List.nodup_cons.mp nodup).1
  have later (step : OwnerStep) (other : head ≠ step) (absent : step ∉ rest) : step ∉ run.todo := by
    rw [ahead, List.mem_cons]
    rintro (same | member)
    · exact other same.symm
    · exact absent member
  have toNew (before : run.slot ≠ some .old) : next.slot ≠ some .old := by
    rw [slot]
    split
    · exact nofun
    · exact before
  -- the writer is spawned once, and nothing has been dropped before
  have unspawned (here : head = .spawnWriter) : run.receiver = .owner := by
    by_contra other
    exact (inv.spawned other).2 (ahead ▸ here ▸ List.mem_cons_self)
  refine ⟨?_, ?_, fun absent => ?_, fun other => ?_, fun some => ?_, fun frame member => ?_, ?_, ?_,
    fun absent key member => ?_, ?_, fun absent => ?_⟩
  · rw [todo]
    exact (List.suffix_cons head rest).trans (ahead ▸ inv.suffix)
  · rw [connected, todo, Bool.or_eq_true, beq_iff_eq, inv.recorded, ahead, List.mem_cons]
    by_cases here : head = .recordConnected
    · subst here
      exact ⟨fun _ => fresh, fun _ => Or.inr rfl⟩
    · constructor
      · rintro (absent | same)
        · exact fun member => absent (Or.inr member)
        · exact absurd same here
      · exact fun absent => Or.inl fun member =>
          member.elim (fun same => here same.symm) absent
  · rw [slot]
    by_cases here : head = .install
    · rw [if_pos here]
      exact nofun
    · rw [if_neg here]
      rw [todo] at absent
      exact inv.installed (later _ here absent)
  · rw [todo]
    by_cases here : head = .spawnWriter
    · subst here
      exact ⟨inv.suffix.subset (ahead ▸ List.mem_cons_self), fresh⟩
    · rw [receiver, if_neg here] at other
      exact (inv.spawned other).imp_right fun absent member => absent (ahead ▸ List.mem_cons_of_mem _ member)
  · rw [dropped] at some
    have gone := inv.lost some
    rw [receiver, if_neg, gone]
    intro here
    cases gone.symm.trans (unspawned here)
  · rw [dropped] at member
    unfold Told
    rw [errors, closed]
    exact inv.told frame member
  · unfold StoredRows
    rw [subscriptions]
    exact inv.stored
  · rw [calls]
    exact inv.calls
  · rw [todo] at absent
    rw [subscriptions] at member
    rw [read, calls]
    refine (inv.covered (later _ plain.1 absent) key member).imp id ?_
    rintro ⟨position, call, found, named, answers⟩
    exact ⟨position, call, found, named, answers.mono toNew (by rw [queued]; exact fun _ => id)⟩
  · unfold Replayed Sent
    rw [read, replay, queued, dropped]
    exact inv.replayed
  · rw [replay]
    rw [todo] at absent
    exact inv.ended (later _ plain.2 absent)

/-- A step the owner still has to take is not one it has taken. -/
theorem Inv.spawned_rest (inv : run.Inv program) {head : OwnerStep} {rest : List OwnerStep}
    (ahead : run.todo = head :: rest) (other : run.receiver ≠ .owner) :
    .spawnWriter ∈ program ∧ .spawnWriter ∉ rest :=
  (inv.spawned other).imp_right fun absent member => absent (ahead ▸ List.mem_cons_of_mem _ member)

theorem Inv.snapshot (ordered : OrderedReplay program) (inv : run.Inv program)
    {rest : List OwnerStep} (ahead : run.todo = .snapshot :: rest) :
    Inv program { run with
      todo := rest
      read := run.manager.getAll
      replay := frameResubscribe run.manager.getAll } where
  suffix := (List.suffix_cons _ rest).trans (ahead ▸ inv.suffix)
  recorded := by
    refine inv.recorded.trans ?_
    rw [ahead, List.mem_cons]
    exact not_congr (or_iff_right (by decide))
  installed := by
    intro absent
    refine inv.installed ?_
    rw [ahead, List.mem_cons]
    exact fun member => member.elim (fun same => by cases same) absent
  spawned := inv.spawned_rest ahead
  lost := inv.lost
  told := inv.told
  stored := inv.stored
  calls := inv.calls
  covered := fun _ key member => Or.inl (mem_getAll inv.stored member)
  replayed := by
    intro key member
    obtain ⟨row, inRows, rfl⟩ := List.mem_map.mp member
    exact Or.inl (mem_frameResubscribe (fun _ => isRow_of_mem_getAll inv.stored) inRows)
  ended := fun absent => absurd (ordered.queues run.todo inv.suffix (by rw [ahead]; rfl))
    (by rw [ahead]; exact absent)

/-- Where nothing is stored and no call moves, a frame of the replay may go on the channel or be
dropped. -/
theorem Inv.queueReplay (inv : run.Inv program) {rest : List OwnerStep}
    (ahead : run.todo = .queueReplay :: rest) {frame : ResubscribeFrame}
    {frames : List ResubscribeFrame} (left : run.replay = frame :: frames) :
    Inv program ({ run with replay := frames }.replayFrame frame) := by
  -- what is sent of the keys read, with one more frame sent
  have sends {next : ReplayRun} (sent : ∀ key, run.Sent key → next.Sent key)
      (now : ∀ key ∈ frame.frame.subscribes, next.Sent key) (replay : next.replay = frames) (key : String)
      (replayed : run.Replayed key) : next.Replayed key := by
    rcases replayed with ⟨other, inReplay, named⟩ | before
    · rw [left, List.mem_cons] at inReplay
      rcases inReplay with rfl | later
      · exact Or.inr (now key named)
      · exact Or.inl ⟨other, replay ▸ later, named⟩
    · exact Or.inr (sent key before)
  unfold replayFrame
  split
  · rename_i gone
    refine {
      suffix := inv.suffix, recorded := inv.recorded, installed := inv.installed, spawned := inv.spawned,
      stored := inv.stored, calls := inv.calls
      lost := fun _ => gone
      told := fun other member => ?_
      covered := fun absent key member => ?_
      replayed := fun key member => ?_
      ended := fun absent => absurd (ahead ▸ List.mem_cons_self) absent }
    · have closing : run.closeReported = true ∨ run.closeReported = false := by
        cases run.closeReported <;> simp
      rcases closing with closed | open_
      · exact Or.inr closed
      · left
        simp only [open_, Bool.false_eq_true, if_false]
        rcases List.mem_append.mp member with before | new
        · refine List.mem_append_left _ ((inv.told other before).resolve_right fun closed => ?_)
          cases open_.symm.trans closed
        · rw [List.mem_singleton.mp new]
          exact List.mem_append_right _ List.mem_cons_self
    · refine (inv.covered absent key member).imp id ?_
      rintro ⟨position, call, found, named, answers⟩
      exact ⟨position, call, found, named, answers.mono id fun _ => id⟩
    · refine sends ?_ ?_ rfl key (inv.replayed key member)
      · rintro key (onChannel | ⟨other, inDropped, named⟩)
        · exact Or.inl onChannel
        · exact Or.inr ⟨other, List.mem_append_left _ inDropped, named⟩
      · exact fun key named => Or.inr ⟨frame, List.mem_append_right _ List.mem_cons_self, named⟩
  · refine {
      suffix := inv.suffix, recorded := inv.recorded, installed := inv.installed, spawned := inv.spawned,
      stored := inv.stored, calls := inv.calls, lost := inv.lost, told := inv.told
      covered := fun absent key member => ?_
      replayed := fun key member => ?_
      ended := fun absent => absurd (ahead ▸ List.mem_cons_self) absent }
    · refine (inv.covered absent key member).imp id ?_
      rintro ⟨position, call, found, named, answers⟩
      exact ⟨position, call, found, named,
        answers.mono id fun _ member => List.mem_append_left _ member⟩
    · refine sends ?_ ?_ rfl key (inv.replayed key member)
      · rintro key (⟨other, inQueue, named⟩ | dropped)
        · exact Or.inl ⟨other, List.mem_append_left _ inQueue, named⟩
        · exact Or.inr dropped
      · exact fun key named => Or.inl ⟨_, List.mem_append_right _ List.mem_cons_self, named⟩

theorem Inv.queueReplay_done (inv : run.Inv program)
    {rest : List OwnerStep} (ahead : run.todo = .queueReplay :: rest) (left : run.replay = []) :
    Inv program { run with todo := rest } where
  suffix := (List.suffix_cons _ rest).trans (ahead ▸ inv.suffix)
  recorded := by
    refine inv.recorded.trans ?_
    rw [ahead, List.mem_cons]
    exact not_congr (or_iff_right (by decide))
  installed := by
    intro absent
    refine inv.installed ?_
    rw [ahead, List.mem_cons]
    exact fun member => member.elim (fun same => by cases same) absent
  spawned := inv.spawned_rest ahead
  lost := inv.lost
  told := inv.told
  stored := inv.stored
  calls := inv.calls
  covered := by
    intro absent
    refine inv.covered ?_
    rw [ahead, List.mem_cons]
    exact fun member => member.elim (fun same => by cases same) absent
  replayed := inv.replayed
  ended := fun _ => left

theorem Inv.ownerStep (ordered : OrderedReplay program) (inv : run.Inv program) {next : ReplayRun}
    (stepped : run.ownerStep = some next) : next.Inv program := by
  unfold ReplayRun.ownerStep at stepped
  split at stepped
  · cases stepped
  · rename_i rest ahead
    cases stepped
    exact inv.plainStep ordered ahead rfl (Bool.or_true _).symm rfl rfl rfl ⟨rfl, rfl, rfl, rfl⟩
      ⟨rfl, rfl, rfl⟩ (by decide)
  · rename_i rest ahead
    cases stepped
    exact inv.plainStep ordered ahead rfl (Bool.or_false _).symm rfl rfl rfl ⟨rfl, rfl, rfl, rfl⟩
      ⟨rfl, rfl, rfl⟩ (by decide)
  · rename_i rest ahead
    cases stepped
    exact inv.plainStep ordered ahead rfl (Bool.or_false _).symm rfl rfl rfl ⟨rfl, rfl, rfl, rfl⟩
      ⟨rfl, rfl, rfl⟩ (by decide)
  · rename_i rest ahead
    cases stepped
    exact inv.plainStep ordered ahead rfl (Bool.or_false _).symm rfl rfl rfl ⟨rfl, rfl, rfl, rfl⟩
      ⟨rfl, rfl, rfl⟩ (by decide)
  · rename_i rest ahead
    cases stepped
    exact inv.plainStep ordered ahead rfl (Bool.or_false _).symm rfl rfl rfl ⟨rfl, rfl, rfl, rfl⟩
      ⟨rfl, rfl, rfl⟩ (by decide)
  · rename_i rest ahead
    cases stepped
    exact inv.snapshot ordered ahead
  · rename_i rest ahead
    split at stepped
    · rename_i left
      cases stepped
      exact inv.queueReplay_done ahead left
    · rename_i left
      cases stepped
      exact inv.queueReplay ahead left

/-! ### The callers' steps -/

/-- A step of one call: it may store keys of its own and queue its frame, and it must go on answering
for the keys it answered for, unless they are all replayed. -/
theorem Inv.callStep_of (inv : run.Inv program) {position : Nat} {call : SubscribeCall}
    (found : run.calls[position]? = some call) {phase : CallPhase} {next : ReplayRun}
    (calls : next.calls = run.calls.set position { call with phase })
    (kept : next.todo = run.todo ∧ next.connected = run.connected ∧ next.slot = run.slot ∧
      next.read = run.read ∧ next.replay = run.replay)
    (reported : next.receiver = run.receiver ∧ next.dropped = run.dropped ∧ next.errors = run.errors ∧
      next.closeReported = run.closeReported)
    (queued : ∀ frame ∈ run.queued, frame ∈ next.queued)
    (fits : CallFits { call with phase }) (stored : StoredRows next.manager)
    (own : ∀ key ∈ next.manager.subscriptions, key ∈ run.manager.subscriptions ∨
      key ∈ call.req.rowKeys ∧ next.Answers { call with phase })
    (answers : .snapshot ∉ run.todo → run.Answers call →
      (∀ key ∈ call.req.rowKeys, key ∈ run.read.map SubscribeRequest.key) ∨
        next.Answers { call with phase }) : next.Inv program := by
  obtain ⟨todo, connected, slot, read, replay⟩ := kept
  obtain ⟨receiver, dropped, errors, closed⟩ := reported
  have here : next.calls[position]? = some { call with phase } := by
    rw [calls, List.getElem?_set_self (List.getElem?_eq_some_iff.mp found).1]
  refine ⟨?_, ?_, ?_, ?_, ?_, ?_, stored, ?_, ?_, ?_, ?_⟩
  · rw [todo]
    exact inv.suffix
  · rw [todo, connected]
    exact inv.recorded
  · rw [todo, slot]
    exact inv.installed
  · rw [todo, receiver]
    exact inv.spawned
  · rw [dropped, receiver]
    exact inv.lost
  · unfold Told
    rw [dropped, errors, closed]
    exact inv.told
  · intro other moved at_
    rw [calls] at at_
    rcases getElem?_set_cases at_ with ⟨-, rfl⟩ | ⟨-, before⟩
    · exact fits
    · exact inv.calls other moved before
  · rw [todo, read]
    intro absent key member
    rcases own key member with before | ⟨named, answering⟩
    · rcases inv.covered absent key before with inRead | ⟨other, witness, at_, named, answering⟩
      · exact Or.inl inRead
      · by_cases same : other = position
        · subst same
          have equal : witness = call := Option.some.inj (at_.symm.trans found)
          subst equal
          rcases answers absent answering with all | goesOn
          · exact Or.inl (all key named)
          · exact Or.inr ⟨other, _, here, named, goesOn⟩
        · refine Or.inr ⟨other, witness, ?_, named, answering.mono (slot ▸ id) queued⟩
          rw [calls, List.getElem?_set_ne fun equal => same equal.symm]
          exact at_
    · exact Or.inr ⟨position, _, here, named, answering⟩
  · rw [read]
    intro key member
    rcases inv.replayed key member with ⟨frame, inReplay, named⟩ | ⟨frame, inQueue, named⟩ | lost
    · exact Or.inl ⟨frame, replay ▸ inReplay, named⟩
    · exact Or.inr (Or.inl ⟨frame, queued frame inQueue, named⟩)
    · exact Or.inr (Or.inr (dropped ▸ lost))
  · rw [todo, replay]
    exact inv.ended

theorem StoredRows.subscribe {mgr : SubscriptionManager} (stored : StoredRows mgr)
    {row : SubscribeRequest} (isRow : row.isRow = true) : StoredRows (mgr.subscribe row) :=
  IndexMap.forall_entries_insert stored ⟨rfl, isRow⟩

/-- An unsubscribe stores nothing. -/
theorem subscriptions_of_resolveUnsubscribe {mgr : SubscriptionManager} {target key : String}
    {row : SubscribeRequest}
    (found : (mgr.resolveUnsubscribe target).2.subscriptions.get? key = some row) :
    mgr.subscriptions.get? key = some row := by
  have resolution := mgr.resolveUnsubscribe_cases target
  generalize mgr.resolveUnsubscribe target = result at found resolution
  have ofRemoveKeys {keys : List String} (kept : (mgr.removeKeys keys).subscriptions.get? key = some row) :
      mgr.subscriptions.get? key = some row := by
    have lookup : (mgr.removeKeys keys).subscriptions.get? key =
        if key ∈ keys then none else mgr.subscriptions.get? key := IndexMap.get?_removeAll _ keys key
    rw [lookup] at kept
    split at kept
    · cases kept
    · exact kept
  cases resolution with
  | byKey => exact ofRemoveKeys found
  | byId => exact ofRemoveKeys found
  | pending =>
    simp only [IndexMap.get?_shiftRemove] at found
    split at found
    · cases found
    · exact found
  | unknown => exact found

theorem Inv.unsubscribe (inv : run.Inv program) (target : String) :
    Inv program { run with manager := (run.manager.resolveUnsubscribe target).2 } where
  suffix := inv.suffix
  recorded := inv.recorded
  installed := inv.installed
  spawned := inv.spawned
  lost := inv.lost
  told := inv.told
  stored := by
    rintro ⟨key, row⟩ member
    have found := subscriptions_of_resolveUnsubscribe (IndexMap.get?_eq_some.mpr member)
    exact inv.stored (key, row) (IndexMap.get?_eq_some.mp found)
  calls := inv.calls
  covered := by
    intro absent key member
    obtain ⟨row, found⟩ := IndexMap.mem_iff_get?.mp member
    exact inv.covered absent key (IndexMap.mem_of_get? (subscriptions_of_resolveUnsubscribe found))
  replayed := inv.replayed
  ended := inv.ended

theorem Inv.begin_ (inv : run.Inv program) {req : SubscribeRequest} (named : req.isNamed = true) :
    Inv program { run with calls := run.calls ++ [{ req, phase := .storing req.expand }] } where
  suffix := inv.suffix
  recorded := inv.recorded
  installed := inv.installed
  spawned := inv.spawned
  lost := inv.lost
  told := inv.told
  stored := inv.stored
  calls := by
    intro position call found
    rcases List.mem_append.mp (List.mem_of_getElem? found) with before | now
    · obtain ⟨other, at_⟩ := List.mem_iff_getElem?.mp before
      exact inv.calls other call at_
    · rw [List.mem_singleton.mp now]
      refine ⟨named, fun rows same row member => ?_⟩
      cases same
      exact member
  covered := by
    intro absent key member
    refine (inv.covered absent key member).imp id ?_
    rintro ⟨position, call, found, named, answers⟩
    refine ⟨position, call, ?_, named, answers⟩
    rw [List.getElem?_append_left (List.getElem?_eq_some_iff.mp found).1]
    exact found
  replayed := inv.replayed
  ended := inv.ended

theorem CallFits.setPhase {call : SubscribeCall} (fits : CallFits call) {phase : CallPhase}
    (rows : ∀ rows, phase ≠ .storing rows) : CallFits { call with phase } :=
  ⟨fits.1, fun left same => absurd same (rows left)⟩

theorem Inv.callStep (ordered : OrderedReplay program) (inv : run.Inv program) {position : Nat}
    {call : SubscribeCall} {accepted : Bool} (found : run.calls[position]? = some call)
    (inTime : call.phase = .reading → run.connected = false →
      .snapshot ∈ run.todo ∨ ∀ key ∈ call.req.rowKeys, key ∈ run.read.map SubscribeRequest.key)
    {next : ReplayRun} (stepped : run.callStep position call accepted = some next) :
    next.Inv program := by
  have fits := inv.calls position call found
  unfold ReplayRun.callStep at stepped
  split at stepped
  · rename_i row rows storing
    cases stepped
    have own := fits.2 _ storing row List.mem_cons_self
    have isRow := isRow_of_mem_expand fits.1 own
    refine inv.callStep_of found rfl ⟨rfl, rfl, rfl, rfl, rfl⟩ ⟨rfl, rfl, rfl, rfl⟩ (fun _ => id) ?_
      (inv.stored.subscribe isRow) (fun key member => ?_) fun _ _ => Or.inr trivial
    · refine ⟨fits.1, fun left same other member => ?_⟩
      cases same
      exact fits.2 _ storing other (List.mem_cons_of_mem _ member)
    · rcases SubscriptionManager.mem_subscribe.mp member with rfl | before
      · exact Or.inr ⟨List.mem_map_of_mem own, trivial⟩
      · exact Or.inl before
  · cases stepped
    exact inv.callStep_of found rfl ⟨rfl, rfl, rfl, rfl, rfl⟩ ⟨rfl, rfl, rfl, rfl⟩ (fun _ => id)
      (fits.setPhase fun _ same => by cases same) inv.stored (fun _ => Or.inl)
      fun _ _ => Or.inr trivial
  · rename_i reading
    cases stepped
    refine inv.callStep_of found rfl ⟨rfl, rfl, rfl, rfl, rfl⟩ ⟨rfl, rfl, rfl, rfl⟩ (fun _ => id)
      (fits.setPhase fun rows same => ?_) inv.stored (fun _ => Or.inl) fun absent _ => ?_
    · split at same <;> cases same
    · cases connected : run.connected with
      | true =>
        right
        exact inv.installed (ordered.installs _ inv.suffix absent (inv.recorded.mp connected))
      | false => exact Or.inl ((inTime reading connected).resolve_left absent)
  · rename_i taking
    split at stepped
    · cases stepped
    split at stepped
    · cases stepped
      exact inv.callStep_of found rfl ⟨rfl, rfl, rfl, rfl, rfl⟩ ⟨rfl, rfl, rfl, rfl⟩ (fun _ => id)
        (fits.setPhase fun _ same => by cases same) inv.stored (fun _ => Or.inl)
        fun _ _ => Or.inr fun ok => by cases ok
    · rename_i channel slot
      cases stepped
      refine inv.callStep_of found rfl ⟨rfl, rfl, rfl, rfl, rfl⟩ ⟨rfl, rfl, rfl, rfl⟩ (fun _ => id)
        (fits.setPhase fun _ same => by cases same) inv.stored (fun _ => Or.inl)
        fun _ answers => Or.inr ?_
      have other : run.slot ≠ some .old := by
        unfold Answers at answers
        rw [taking] at answers
        exact answers
      cases channel with
      | old => exact absurd slot other
      | new => rfl
  · rename_i sending
    cases stepped
    refine inv.callStep_of found rfl ⟨rfl, rfl, rfl, rfl, rfl⟩ ⟨rfl, rfl, rfl, rfl⟩ (fun _ => id)
      (fits.setPhase fun _ same => by cases same) inv.stored (fun _ => Or.inl) fun _ answers => ?_
    unfold Answers at answers
    rw [sending] at answers
    cases answers
  · split at stepped <;> cases stepped
    · exact inv.callStep_of found rfl ⟨rfl, rfl, rfl, rfl, rfl⟩ ⟨rfl, rfl, rfl, rfl⟩ (fun _ => id)
        (fits.setPhase fun _ same => by cases same) inv.stored (fun _ => Or.inl)
        fun _ _ => Or.inr fun ok => by cases ok
    · exact inv.callStep_of found rfl ⟨rfl, rfl, rfl, rfl, rfl⟩ ⟨rfl, rfl, rfl, rfl⟩
        (fun _ member => List.mem_append_left _ member) (fits.setPhase fun _ same => by cases same)
        inv.stored (fun _ => Or.inl)
        fun _ _ => Or.inr fun _ => List.mem_append_right _ List.mem_cons_self
  · cases stepped

/-! ### The writer's end and the closing callers -/

theorem Inv.writerEnds (inv : run.Inv program) (writing : run.receiver = .writer) :
    Inv program { run with receiver := .gone } :=
  { inv with
    spawned := fun _ => inv.spawned (by rw [writing]; exact nofun)
    lost := fun _ => rfl }

theorem Inv.clearSlot (inv : run.Inv program) : Inv program { run with slot := none } :=
  { inv with
    installed := fun _ => nofun
    covered := fun absent key member => by
      refine (inv.covered absent key member).imp id ?_
      rintro ⟨position, call, found, named, answers⟩
      exact ⟨position, call, found, named, answers.mono (fun _ => nofun) fun _ => id⟩ }

theorem Inv.reportClose (inv : run.Inv program) : Inv program { run with closeReported := true } :=
  { inv with told := fun _ _ => Or.inr rfl }

theorem step_inv (ordered : OrderedReplay program) (inv : run.Inv program) {step : ReplayStep}
    {next : ReplayRun} (stepped : run.step step = some next) (inTime : run.ReadsInTime step) :
    next.Inv program := by
  cases step with
  | owner => exact inv.ownerStep ordered stepped
  | begin req =>
    simp only [ReplayRun.step, Option.ite_none_right_eq_some, Option.some.injEq] at stepped
    obtain ⟨named, rfl⟩ := stepped
    exact inv.begin_ named
  | advance position accepted =>
    obtain ⟨call, found, moved⟩ := Option.bind_eq_some_iff.mp stepped
    exact inv.callStep ordered found (inTime position accepted call rfl found) moved
  | unsubscribe target =>
    cases stepped
    exact inv.unsubscribe target
  | writerEnds =>
    simp only [ReplayRun.step, Option.ite_none_right_eq_some, Option.some.injEq] at stepped
    obtain ⟨writing, rfl⟩ := stepped
    exact inv.writerEnds writing
  | clearSlot =>
    simp only [ReplayRun.step] at stepped
    split at stepped <;> cases stepped
    exact inv.clearSlot
  | reportClose =>
    cases stepped
    exact inv.reportClose

end ReplayRun

/-! ### Every run -/

theorem replay_inv {program : List OwnerStep} (ordered : OrderedReplay program) {run : ReplayRun}
    (reached : (replayRuns program).ReachableUnder (fun run step _ => run.ReadsInTime step) run) :
    run.Inv program :=
  reached.invariant (fun _ starts => ReplayRun.Starts.inv ordered starts)
    fun _ _ _ inv stepped inTime => ReplayRun.step_inv ordered inv stepped inTime

/-- **A reconnect loses no subscription** silently, where the invariant holds: once the owner is done and
every call has returned `Ok`, every stored key has a frame on the new channel, or had one that was
dropped. -/
theorem replay_covers {program : List OwnerStep} {run : ReplayRun} (inv : run.Inv program)
    (finished : run.todo = [])
    (returned : ∀ call ∈ run.calls, call.phase = .returned true) :
    ∀ key ∈ run.manager.subscriptions, run.Sent key := by
  intro key member
  have absent : .snapshot ∉ run.todo := by
    rw [finished]
    exact List.not_mem_nil
  have replayed : run.replay = [] := inv.ended (by rw [finished]; exact List.not_mem_nil)
  rcases inv.covered absent key member with inRead | ⟨position, call, found, named, answers⟩
  · rcases inv.replayed key inRead with ⟨frame, inReplay, -⟩ | sent
    · rw [replayed] at inReplay
      cases inReplay
    · exact sent
  · unfold ReplayRun.Answers at answers
    rw [returned call (List.mem_of_getElem? found)] at answers
    exact Or.inl ⟨_, answers rfl, named⟩

/-- **The synchronous reconnect loses no subscription where every call reads the state in time**: a
call that finds the client unconnected does so before the stored subscriptions are read, or all of
its keys are among them. The owner receives from the new channel itself, so no frame is dropped. -/
theorem syncReplay_covers {run : ReplayRun}
    (reached : (replayRuns syncReplay).ReachableUnder (fun run step _ => run.ReadsInTime step) run)
    (finished : run.todo = []) (returned : ∀ call ∈ run.calls, call.phase = .returned true) :
    ∀ key ∈ run.manager.subscriptions, ∃ frame ∈ run.queued, key ∈ frame.subscribes := by
  have inv := replay_inv syncReplay_ordered reached
  intro key member
  refine (replay_covers inv finished returned key member).resolve_right ?_
  rintro ⟨frame, dropped, -⟩
  have gone := inv.lost (List.ne_nil_of_mem dropped)
  exact absurd (inv.spawned (by rw [gone]; exact nofun)).1 (by decide)

theorem ReplayRun.starts_empty (program : List OwnerStep) :
    ReplayRun.Starts program { todo := program, slot := some .old } where
  todo := rfl
  connected := rfl
  slot := fun same => by cases same
  receiver := rfl
  read := rfl
  replay := rfl
  queued := rfl
  dropped := rfl
  stored := fun _ member => by cases member
  calls := fun _ member => by cases member

instance (run : ReplayRun) (step : ReplayStep) : Decidable (run.ReadsInTime step) :=
  match step with
  | .advance position accepted =>
    decidable_of_iff (∀ call ∈ run.calls[position]?, call.phase = .reading → run.connected = false →
        .snapshot ∈ run.todo ∨ ∀ key ∈ call.req.rowKeys, key ∈ run.read.map SubscribeRequest.key)
      ⟨fun timely _ _ call same found => by cases same; exact timely call found,
        fun timely call found => timely position accepted call rfl found⟩
  | .owner | .begin _ | .unsubscribe _ | .writerEnds | .clearSlot | .reportClose =>
    .isTrue nofun

/-- Two calls store their keys beside a stored one. The first reads the state before the subscriptions are
read; the second once the client is connected, and sends its own frame. -/
def readInTime : List ReplayStep :=
  [.begin trades2330, .advance 0 true, .advance 0 true, .advance 0 true, .owner, .owner, .owner, .owner,
    .owner, .owner, .begin { channel := "books", symbol := some "2317" }, .advance 1 true,
    .advance 1 true, .advance 1 true, .advance 1 true, .advance 1 true]

theorem syncReplay_covers_readInTime :
    ∃ run, (replayRuns syncReplay).runUnder (fun run step => run.ReadsInTime step)
        { todo := syncReplay, slot := some .old } readInTime = some run ∧
      (∃ frame ∈ run.queued, "trades:2330" ∈ frame.subscribes) ∧
      ∃ frame ∈ run.queued, "books:2317" ∈ frame.subscribes := by
  have ends : ((replayRuns syncReplay).runUnder (fun run step => run.ReadsInTime step)
      { todo := syncReplay, slot := some .old } readInTime).any (fun run =>
        decide (run.todo = [] ∧ (∀ call ∈ run.calls, call.phase = .returned true) ∧
          "trades:2330" ∈ run.manager.subscriptions ∧ "books:2317" ∈ run.manager.subscriptions)) = true := by
    decide +kernel
  obtain ⟨run, ran, last⟩ := (Option.any_eq_true ..).mp ends
  obtain ⟨finished, returned, trades, books⟩ := of_decide_eq_true last
  have reached := reachableUnder_of_run readInTime (.start (ReplayRun.starts_empty syncReplay)) ran
  exact ⟨run, ran, syncReplay_covers reached finished returned _ trades,
    syncReplay_covers reached finished returned _ books⟩

/-- A call that stores its key after the subscriptions are read and finds the client not yet
connected. -/
def storedBetween : List ReplayStep :=
  [.owner, .owner, .begin trades2330, .advance 0 true, .advance 0 true, .advance 0 true, .owner,
    .owner, .owner]

/-- In some run of the synchronous reconnect a stored key gets no frame. -/
theorem syncReplay_loses :
    ¬ ∀ run, (replayRuns syncReplay).Reachable run → run.todo = [] →
      (∀ call ∈ run.calls, call.phase = .returned true) →
      ∀ key ∈ run.manager.subscriptions, ∃ frame ∈ run.queued, key ∈ frame.subscribes := by
  refine not_forall_reachable storedBetween (ReplayRun.starts_empty syncReplay)
    ⟨_, rfl, fun covers => ?_⟩
  obtain ⟨frame, queued, -⟩ := covers rfl (by decide) "trades:2330" (by decide)
  cases queued

end FugleMarketdata
