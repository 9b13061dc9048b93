/-
**The write channel of a reconnected connection.** `open_reconnected` and `queue_subscriptions` of
`core/src/websocket/sync/owner_thread.rs`, step by step, beside the calls of `sync/client.rs` that put a
frame on the channel and the callers that close the client.

The owner thread alone drains the channel, and it queues the replay on it first.

* `Reopening.ownerStep` — `open_reconnected`; `Reopening.callStep` — `send`, `subscribe` and
  `measure_latency` up to their frame;
* `replay_finds_room` — as long as the frames of callers leave the replay its slots, no send of the replay
  finds the channel full, and the owner gets to drain;
* `overfull_stays` — once they do not, the owner never drains again;
* `sends_block` — callers of `send` can take them.
-/

import FugleMarketdata.Websocket.Protocol
import FugleMarketdata.Websocket.ReconnectLoop
import FugleMarketdata.Websocket.WriteQueue

namespace FugleMarketdata

open StepMachines StepMachine

/-! ### The channel -/

/-- A frame in the channel; whether a caller put it there is a mark that no code reads. -/
structure Queued where
  json : String
  byCaller : Bool
  deriving DecidableEq, Repr

/-- `sync_channel`: a send on it waits while it is full. -/
structure SyncChannel where
  capacity : Nat
  frames : List Queued := []
  deriving DecidableEq, Repr

namespace SyncChannel

def full (channel : SyncChannel) : Bool := channel.capacity ≤ channel.frames.length

def put (channel : SyncChannel) (json : String) (byCaller : Bool) : SyncChannel :=
  { channel with frames := channel.frames ++ [{ json, byCaller }] }

/-- `send`; `none` while it waits. -/
def send (channel : SyncChannel) (json : String) (byCaller : Bool) : Option SyncChannel :=
  if channel.full then none else some (channel.put json byCaller)

end SyncChannel

/-! ### The owner and the calls -/

/-- Where the owner thread is: without a connection, at each step of `open_reconnected`, draining the
channel, or ended. -/
inductive OpeningAt where
  | down
  | create (resubscribe : List ResubscribeFrame)
  | install (resubscribe : List ResubscribeFrame)
  | reset (resubscribe : List ResubscribeFrame)
  | queue (rest : List ResubscribeFrame) (failures : List ResubscribeFailure)
  | authenticate (failures : List ResubscribeFailure)
  | report (failures : List ResubscribeFailure)
  | draining
  | ended

/-- The calls that put a frame on the channel; `unsubscribe` is gated as `subscribe` is. -/
inductive WriteMethod where
  | send
  | subscribe
  | measureLatency
  deriving DecidableEq, Repr

/-- Where such a call is, named by what comes next; a sender is known by its connection. -/
inductive EnqueueAt where
  | isClosed
  | isConnected
  | cloneSender
  | send (connection : Nat)
  | returned (queued : Bool)
  deriving DecidableEq, Repr

structure EnqueueCall where
  method : WriteMethod
  json : String
  pc : EnqueueAt
  deriving DecidableEq, Repr

/-- The owner thread, the write slot and the calls. `connection` counts the channels created; `channel` is
the last of them, and `receiving` whether its receiver is left. -/
structure Reopening where
  client : Client := {}
  mgr : ReconnectionManager
  pc : OpeningAt := .down
  data : Value := .null
  frames : List WebSocketMessage := []
  connection : Nat := 0
  channel : SyncChannel := { capacity := writeQueueCapacity }
  receiving : Bool := false
  writeTxSlot : Option Nat := none
  calls : List EnqueueCall := []

/-- A step. What the reconnect attempts and the closing callers do to the client is left open. -/
inductive ReopeningStep where
  | handshake (resubscribe : List ResubscribeFrame) (data : Value) (frames : List WebSocketMessage)
  | owner (now : Nat)
  | drain
  | lost
  | begin (method : WriteMethod) (json : String)
  | call (position : Nat)
  | giveUp (position : Nat)
  | share (client : Client)
  | clearSlot

namespace Reopening

variable (sh : Shared) (frameRequest : WebSocketRequest → Except ErrorInfo String)

/-- `open_reconnected`, one step. -/
def ownerStep (now : Nat) (run : Reopening) : Option Reopening :=
  match run.pc with
  | .create resubscribe =>
    some { run with
      connection := run.connection + 1
      channel := { capacity := writeQueueCapacity + resubscribe.length }
      receiving := true
      pc := .install resubscribe }
  | .install resubscribe =>
    some { run with writeTxSlot := some run.connection, pc := .reset resubscribe }
  | .reset resubscribe => some { run with mgr := run.mgr.reset, pc := .queue resubscribe [] }
  | .queue [] failures => some { run with pc := .authenticate failures }
  | .queue (resubscribe :: rest) failures =>
    match frameRequest resubscribe.frame with
    | .error info =>
      some { run with pc := .queue rest (failures ++ [{ label := resubscribe.label, info }]) }
    | .ok json =>
      (run.channel.send json false).map fun channel => { run with channel, pc := .queue rest failures }
  | .authenticate failures =>
    let (open_, client, _) := run.client.reconnectAuthenticated sh now run.data run.frames
    if open_ then some { run with client, pc := .report failures }
    else some { run with client, receiving := false, pc := .ended }
  | .report [] => some { run with pc := .draining }
  | .report (failure :: rest) =>
    some { run with client := (run.client.emitUnlessClosed sh failure.event).2.1, pc := .report rest }
  | _ => none

/-- A call up to its frame. A sender whose receiver is gone fails; `measure_latency` tries again while the
channel is full, the others wait. -/
def callStep (call : EnqueueCall) (run : Reopening) : Option (SyncChannel × EnqueueAt) :=
  match call.pc with
  | .isClosed =>
    some (run.channel,
      if run.client.connection.isClosed then .returned false
      else if call.method = .send then .cloneSender
      else .isConnected)
  | .isConnected =>
    some (run.channel, if run.client.connection.isConnected then .cloneSender else .returned false)
  | .cloneSender =>
    some (run.channel,
      match run.writeTxSlot with
      | some connection => .send connection
      | none => .returned false)
  | .send connection =>
    if connection = run.connection ∧ run.receiving then
      (run.channel.send call.json true).map fun channel => (channel, .returned true)
    else some (run.channel, .returned false)
  | .returned _ => none

def step (run : Reopening) : ReopeningStep → Option Reopening
  | .handshake resubscribe data frames =>
    match run.pc with
    | .down => some { run with data, frames, pc := .create resubscribe }
    | _ => none
  | .owner now => run.ownerStep sh frameRequest now
  | .drain =>
    match run.pc with
    | .draining => some { run with channel := { run.channel with frames := run.channel.frames.tail } }
    | _ => none
  | .lost =>
    match run.pc with
    | .draining => some { run with receiving := false, pc := .down }
    | _ => none
  | .begin method json =>
    let pc := if method = .measureLatency then EnqueueAt.isConnected else .isClosed
    some { run with calls := run.calls ++ [{ method, json, pc }] }
  | .call position =>
    run.calls[position]?.bind fun call =>
      (run.callStep call).map fun (channel, pc) =>
        { run with channel, calls := run.calls.set position { call with pc } }
  | .giveUp position =>
    run.calls[position]?.bind fun call =>
      match call.method, call.pc with
      | .measureLatency, .send _ =>
        some { run with calls := run.calls.set position { call with pc := .returned false } }
      | _, _ => none
  | .share client => some { run with client }
  | .clearSlot => some { run with writeTxSlot := none }

end Reopening

/-- The owner thread from where it has no connection; the calls under way may be at any step, with a sender
of an earlier connection. -/
def reopenings (sh : Shared) (frameRequest : WebSocketRequest → Except ErrorInfo String) :
    StepMachine Reopening ReopeningStep where
  start := fun run => run.pc = .down ∧ run.receiving = false
  step := Reopening.step sh frameRequest

/-! ### The replay's slots -/

namespace OpeningAt

/-- The replay frames still to be queued. -/
def left : OpeningAt → List ResubscribeFrame
  | install resubscribe | reset resubscribe => resubscribe
  | queue rest _ => rest
  | _ => []

/-- Inside `open_reconnected`. -/
def isOpening : OpeningAt → Bool
  | down | draining | ended => false
  | _ => true

/-- The steps left at most until `open_reconnected` returns. -/
def stepsLeft : OpeningAt → Nat
  | create resubscribe => 2 * resubscribe.length + 6
  | install resubscribe => 2 * resubscribe.length + 5
  | reset resubscribe => 2 * resubscribe.length + 4
  | queue rest failures => 2 * rest.length + failures.length + 3
  | authenticate failures => failures.length + 2
  | report failures => failures.length + 1
  | _ => 0

end OpeningAt

namespace Reopening

variable (sh : Shared) (frameRequest : WebSocketRequest → Except ErrorInfo String)
  {run next : Reopening}

/-- The frame can be built, so it will need a slot. -/
def sendable (resubscribe : ResubscribeFrame) : Bool := (frameRequest resubscribe.frame).isOk

/-- The slots the replay still needs. -/
def needed (run : Reopening) : Nat := run.pc.left.countP (sendable frameRequest)

/-- A send of the replay finds the channel full. -/
def blocked (run : Reopening) : Bool :=
  match run.pc with
  | .queue (resubscribe :: _) _ => sendable frameRequest resubscribe && run.channel.full
  | _ => false

/-- The step is a call that puts its frame on the channel. -/
def puts (run : Reopening) : ReopeningStep → Bool
  | .call position =>
    run.calls[position]?.any fun call =>
      match call.pc with
      | .send connection => connection = run.connection && run.receiving
      | _ => false
  | _ => false

/-- A caller's frame leaves the replay the slots it still needs. -/
def LeavesRoom (run : Reopening) (step : ReopeningStep) : Prop :=
  run.puts step = true → 0 < run.needed frameRequest →
    run.channel.frames.length + run.needed frameRequest < run.channel.capacity

instance (step : ReopeningStep) : Decidable (run.LeavesRoom frameRequest step) :=
  inferInstanceAs (Decidable (_ → _))

/-- The replay has its slots. -/
def Roomy (run : Reopening) : Prop :=
  0 < run.needed frameRequest →
    run.channel.frames.length + run.needed frameRequest ≤ run.channel.capacity

theorem Roomy.of_none (nothing : run.needed frameRequest = 0) : run.Roomy frameRequest :=
  fun needs => absurd needs (by omega)

/-- The replay's sends find room. -/
theorem Roomy.not_blocked (roomy : run.Roomy frameRequest) : run.blocked frameRequest = false := by
  unfold blocked
  split
  · rename_i resubscribe rest failures pc
    by_cases sends : sendable frameRequest resubscribe = true
    · have needs : run.needed frameRequest = rest.countP (sendable frameRequest) + 1 := by
        simp [needed, pc, OpeningAt.left, sends]
      have fits := roomy (by omega)
      simp only [sends, Bool.true_and, SyncChannel.full, decide_eq_false_iff_not]
      omega
    · simp [sends]
  · rfl

/-- **One step of the owner.** Where the replay has its slots the owner moves, the slots are left, and it
is closer to draining. -/
theorem ownerStep_spec (now : Nat) (roomy : run.Roomy frameRequest) (opening : run.pc.isOpening = true) :
    ∃ next, run.ownerStep sh frameRequest now = some next ∧ next.Roomy frameRequest ∧
      next.pc.stepsLeft < run.pc.stepsLeft := by
  unfold ownerStep
  split
  · rename_i resubscribe pc
    refine ⟨_, rfl, fun _ => ?_, ?_⟩
    · have most := List.countP_le_length (l := resubscribe) (p := sendable frameRequest)
      simp only [needed, OpeningAt.left, List.length_nil]
      omega
    · simp [pc, OpeningAt.stepsLeft]
  · rename_i resubscribe pc
    exact ⟨_, rfl, by simpa [Roomy, needed, pc, OpeningAt.left] using roomy,
      by simp [pc, OpeningAt.stepsLeft]⟩
  · rename_i resubscribe pc
    exact ⟨_, rfl, by simpa [Roomy, needed, pc, OpeningAt.left] using roomy,
      by simp [pc, OpeningAt.stepsLeft]⟩
  · rename_i failures pc
    exact ⟨_, rfl, .of_none frameRequest rfl, by simp [pc, OpeningAt.stepsLeft]⟩
  · rename_i resubscribe rest failures pc
    cases built : frameRequest resubscribe.frame with
    | error info =>
      have skipped : sendable frameRequest resubscribe = false := by
        rw [sendable, built]
        rfl
      refine ⟨_, rfl, ?_, ?_⟩
      · simpa [Roomy, needed, pc, OpeningAt.left, skipped] using roomy
      · simp only [pc, OpeningAt.stepsLeft, List.length_append, List.length_cons, List.length_nil]
        omega
    | ok json =>
      have sends : sendable frameRequest resubscribe = true := by
        rw [sendable, built]
        rfl
      have needs : run.needed frameRequest = rest.countP (sendable frameRequest) + 1 := by
        simp [needed, pc, OpeningAt.left, sends]
      have fits := roomy (by omega)
      have room : run.channel.full = false := by
        simp only [SyncChannel.full, decide_eq_false_iff_not]
        omega
      refine ⟨{ run with channel := run.channel.put json false, pc := .queue rest failures }, ?_, ?_, ?_⟩
      · simp [SyncChannel.send, room]
      · intro _
        simp only [needed, OpeningAt.left, SyncChannel.put, List.length_append, List.length_singleton]
        omega
      · simp only [pc, OpeningAt.stepsLeft, List.length_cons]
        omega
  · rename_i failures pc
    rcases run.client.reconnectAuthenticated sh now run.data run.frames with ⟨_ | _, client, outcome⟩
    · exact ⟨_, rfl, .of_none frameRequest rfl, by simp [pc, OpeningAt.stepsLeft]⟩
    · exact ⟨_, rfl, .of_none frameRequest rfl, by simp [pc, OpeningAt.stepsLeft]⟩
  · rename_i pc
    exact ⟨_, rfl, .of_none frameRequest rfl, by simp [pc, OpeningAt.stepsLeft]⟩
  · rename_i failure rest pc
    exact ⟨_, rfl, .of_none frameRequest rfl, by simp [pc, OpeningAt.stepsLeft]⟩
  · cases pc : run.pc with
    | queue rest failures => cases rest <;> simp_all
    | report failures => cases failures <;> simp_all
    | _ => simp_all [OpeningAt.isOpening]

theorem ownerStep_opening {now : Nat} (stepped : run.ownerStep sh frameRequest now = some next) :
    run.pc.isOpening = true := by
  unfold ownerStep at stepped
  split at stepped <;> rename_i pc <;> first | (rw [pc]; rfl) | cases stepped

/-- A call leaves the channel alone, or puts its frame on it, which had room. -/
theorem callStep_spec {call : EnqueueCall} {channel : SyncChannel} {pc : EnqueueAt}
    (stepped : run.callStep call = some (channel, pc)) :
    channel = run.channel ∨ (∃ connection, call.pc = .send connection ∧ connection = run.connection) ∧
      run.receiving = true ∧ run.channel.full = false ∧ channel = run.channel.put call.json true := by
  unfold callStep at stepped
  split at stepped
  · cases stepped
    exact Or.inl rfl
  · cases stepped
    exact Or.inl rfl
  · cases stepped
    exact Or.inl rfl
  · rename_i connection sends
    split at stepped
    · rename_i current
      obtain ⟨sent, room, same⟩ := Option.map_eq_some_iff.mp stepped
      cases same
      unfold SyncChannel.send at room
      split at room <;> cases room
      rename_i full
      exact Or.inr ⟨⟨connection, sends, current.1⟩, current.2, Bool.eq_false_iff.mpr full, rfl⟩
    · cases stepped
      exact Or.inl rfl
  · cases stepped

/-- A step keeps the replay's slots, if a caller's frame leaves them. -/
theorem step_roomy {step : ReopeningStep} (roomy : run.Roomy frameRequest)
    (leaves : run.LeavesRoom frameRequest step) (stepped : run.step sh frameRequest step = some next) :
    next.Roomy frameRequest := by
  cases step with
  | owner now =>
    obtain ⟨after, moved, fits, -⟩ :=
      ownerStep_spec sh frameRequest now roomy (ownerStep_opening sh frameRequest stepped)
    cases moved.symm.trans stepped
    exact fits
  | handshake resubscribe data frames | drain | lost =>
    simp only [Reopening.step] at stepped
    split at stepped <;> cases stepped
    exact .of_none frameRequest (by simp_all [needed, OpeningAt.left])
  | begin method json | share client | clearSlot =>
    cases stepped
    exact roomy
  | call position =>
    obtain ⟨call, there, stepped⟩ := Option.bind_eq_some_iff.mp stepped
    obtain ⟨⟨channel, pc⟩, moved, rfl⟩ := Option.map_eq_some_iff.mp stepped
    rcases callStep_spec moved with rfl | ⟨⟨connection, sends, current⟩, receiving, -, rfl⟩
    · exact roomy
    · have puts : run.puts (.call position) = true := by
        simp [puts, there, sends, current, receiving]
      intro needs
      have fits := leaves puts needs
      simp only [SyncChannel.put, List.length_append, List.length_singleton]
      show run.channel.frames.length + 1 + run.needed frameRequest ≤ run.channel.capacity
      omega
  | giveUp position =>
    obtain ⟨call, there, stepped⟩ := Option.bind_eq_some_iff.mp stepped
    split at stepped <;> cases stepped
    exact roomy

/-! ### What callers may add -/

/-- The replay still needs more slots than are free. -/
structure Overfull (run : Reopening) : Prop where
  opening : (∃ resubscribe, run.pc = .reset resubscribe) ∨ ∃ rest failures, run.pc = .queue rest failures
  within : run.channel.frames.length ≤ run.channel.capacity
  short : run.channel.capacity < run.channel.frames.length + run.needed frameRequest

/-- **One step with the replay's slots taken.** They stay taken: what the owner queues it needs no more,
and nothing is drained. -/
theorem Overfull.step {step : ReopeningStep} (taken : run.Overfull frameRequest)
    (stepped : run.step sh frameRequest step = some next) : next.Overfull frameRequest := by
  obtain ⟨opening, within, short⟩ := taken
  cases step with
  | owner now =>
    rcases opening with ⟨resubscribe, pc⟩ | ⟨rest, failures, pc⟩
    · simp only [Reopening.step, ownerStep, pc, Option.some.injEq] at stepped
      subst stepped
      refine ⟨Or.inr ⟨_, _, rfl⟩, within, ?_⟩
      simpa [needed, pc, OpeningAt.left] using short
    · cases rest with
      | nil =>
        simp only [needed, pc, OpeningAt.left, List.countP_nil] at short
        omega
      | cons resubscribe rest =>
        simp only [Reopening.step, ownerStep, pc] at stepped
        split at stepped
        · rename_i info built
          cases stepped
          have skipped : sendable frameRequest resubscribe = false := by
            rw [sendable, built]
            rfl
          refine ⟨Or.inr ⟨_, _, rfl⟩, within, ?_⟩
          simpa [needed, pc, OpeningAt.left, skipped] using short
        · rename_i json built
          obtain ⟨channel, sent, rfl⟩ := Option.map_eq_some_iff.mp stepped
          have sends : sendable frameRequest resubscribe = true := by
            rw [sendable, built]
            rfl
          unfold SyncChannel.send at sent
          split at sent <;> cases sent
          rename_i room
          simp only [SyncChannel.full, decide_eq_true_eq] at room
          simp only [needed, pc, OpeningAt.left, List.countP_cons, sends, if_true] at short
          refine ⟨Or.inr ⟨_, _, rfl⟩, ?_, ?_⟩
          · simp only [SyncChannel.put, List.length_append, List.length_singleton]
            omega
          · simp only [needed, OpeningAt.left, SyncChannel.put, List.length_append, List.length_singleton]
            omega
  | handshake resubscribe data frames | drain | lost =>
    simp only [Reopening.step] at stepped
    rcases opening with ⟨resubscribe, pc⟩ | ⟨rest, failures, pc⟩ <;>
      simp only [pc, reduceCtorEq] at stepped
  | begin method json | share client | clearSlot =>
    cases stepped
    exact ⟨opening, within, short⟩
  | call position =>
    obtain ⟨call, there, stepped⟩ := Option.bind_eq_some_iff.mp stepped
    obtain ⟨⟨channel, pc⟩, moved, rfl⟩ := Option.map_eq_some_iff.mp stepped
    rcases callStep_spec moved with rfl | ⟨-, -, room, rfl⟩
    · exact ⟨opening, within, short⟩
    · simp only [SyncChannel.full, decide_eq_false_iff_not] at room
      refine ⟨opening, ?_, ?_⟩
      · simp only [SyncChannel.put, List.length_append, List.length_singleton]
        omega
      · simp only [SyncChannel.put, List.length_append, List.length_singleton]
        show run.channel.capacity < run.channel.frames.length + 1 + run.needed frameRequest
        omega
  | giveUp position =>
    obtain ⟨call, there, stepped⟩ := Option.bind_eq_some_iff.mp stepped
    split at stepped <;> cases stepped
    exact ⟨opening, within, short⟩

/-- **Once callers have taken slots of the replay the owner never drains.** -/
theorem overfull_stays (taken : run.Overfull frameRequest) (steps : List ReopeningStep)
    (ran : (reopenings sh frameRequest).run run steps = some next) :
    next.Overfull frameRequest ∧ next.pc.isOpening = true := by
  induction steps generalizing run with
  | nil =>
    cases ran
    refine ⟨taken, ?_⟩
    rcases taken.opening with ⟨resubscribe, pc⟩ | ⟨rest, failures, pc⟩
    · rw [pc]
      rfl
    · rw [pc]
      rfl
  | cons step rest ih =>
    obtain ⟨middle, stepped, remaining⟩ := Option.bind_eq_some_iff.mp ran
    exact ih (taken.step sh frameRequest stepped) remaining

/-- From where the replay has its slots the owner alone gets out of `open_reconnected`. -/
theorem Roomy.opens (now : Nat) (roomy : run.Roomy frameRequest) :
    ∃ steps later, (reopenings sh frameRequest).run run (List.replicate steps (.owner now)) = some later ∧
      later.pc.isOpening = false := by
  induction left : run.pc.stepsLeft using Nat.strongRecOn generalizing run with
  | ind bound ih =>
    by_cases opening : run.pc.isOpening = true
    · obtain ⟨after, moved, fits, closer⟩ := ownerStep_spec sh frameRequest now roomy opening
      obtain ⟨steps, later, ran, out⟩ := ih _ (left ▸ closer) fits rfl
      refine ⟨steps + 1, later, ?_, out⟩
      rw [List.replicate_succ]
      exact Option.bind_eq_some_iff.mpr ⟨after, moved, ran⟩
    · exact ⟨0, run, rfl, Bool.eq_false_iff.mpr opening⟩

end Reopening

variable (sh : Shared) (frameRequest : WebSocketRequest → Except ErrorInfo String)

/-- **The owner thread does not block on its own write channel where callers leave the replay its slots.**
In every run in which a caller's frame that enters the channel while replay frames are left to queue
leaves them their slots: no send of the replay finds the channel full, and the owner alone gets out of
`open_reconnected`, to drain the channel or, with the client closed, to drop it. -/
theorem replay_finds_room {run : Reopening}
    (reached : (reopenings sh frameRequest).ReachableUnder
      (fun run step _ => run.LeavesRoom frameRequest step) run) :
    run.blocked frameRequest = false ∧
      ∀ now, ∃ steps later,
        (reopenings sh frameRequest).run run (List.replicate steps (.owner now)) = some later ∧
          later.pc.isOpening = false := by
  have roomy : run.Roomy frameRequest := by
    refine reached.invariant ?_ fun _ _ _ roomy stepped leaves =>
      Reopening.step_roomy sh frameRequest roomy leaves stepped
    rintro start ⟨down, -⟩
    exact .of_none frameRequest (by rw [Reopening.needed, down]; rfl)
  exact ⟨roomy.not_blocked frameRequest, fun now => roomy.opens sh frameRequest now⟩

/-! ### Sixty-four frames -/

namespace Reopening

variable {run next : Reopening}

/-- Besides the replay's frames the channel holds a full queue of others. -/
def Counted (run : Reopening) : Prop :=
  run.pc.left ≠ [] →
    writeQueueCapacity + run.pc.left.length + run.channel.frames.countP (fun frame => !frame.byCaller) ≤
      run.channel.capacity

theorem step_counted {step : ReopeningStep} (counted : run.Counted)
    (stepped : run.step sh frameRequest step = some next) : next.Counted := by
  cases step with
  | owner now =>
    simp only [Reopening.step, ownerStep] at stepped
    split at stepped
    · cases stepped
      intro _
      simp [OpeningAt.left]
    · rename_i resubscribe pc
      cases stepped
      simpa [Counted, pc, OpeningAt.left] using counted
    · rename_i resubscribe pc
      cases stepped
      simpa [Counted, pc, OpeningAt.left] using counted
    · cases stepped
      exact fun some_ => absurd rfl some_
    · rename_i resubscribe rest failures pc
      have before := counted (by simp [pc, OpeningAt.left])
      simp only [pc, OpeningAt.left, List.length_cons] at before
      split at stepped
      · cases stepped
        intro _
        simp only [OpeningAt.left]
        omega
      · obtain ⟨channel, sent, rfl⟩ := Option.map_eq_some_iff.mp stepped
        unfold SyncChannel.send at sent
        split at sent <;> cases sent
        intro _
        simp only [OpeningAt.left, SyncChannel.put, List.countP_append, List.countP_singleton]
        simp only [Bool.not_false, if_true]
        omega
    · split at stepped <;> cases stepped <;> exact fun some_ => absurd rfl some_
    · cases stepped
      exact fun some_ => absurd rfl some_
    · cases stepped
      exact fun some_ => absurd rfl some_
    · cases stepped
  | handshake resubscribe data frames | drain | lost =>
    simp only [Reopening.step] at stepped
    split at stepped <;> cases stepped
    intro some_
    simp_all [OpeningAt.left]
  | begin method json | share client | clearSlot =>
    cases stepped
    exact counted
  | call position =>
    obtain ⟨call, there, stepped⟩ := Option.bind_eq_some_iff.mp stepped
    obtain ⟨⟨channel, pc⟩, moved, rfl⟩ := Option.map_eq_some_iff.mp stepped
    rcases callStep_spec moved with rfl | ⟨-, -, -, rfl⟩
    · exact counted
    · intro some_
      simpa [SyncChannel.put, List.countP_append] using counted some_
  | giveUp position =>
    obtain ⟨call, there, stepped⟩ := Option.bind_eq_some_iff.mp stepped
    split at stepped <;> cases stepped
    exact counted

theorem reachable_counted (reached : (reopenings sh frameRequest).Reachable run) : run.Counted := by
  have base (first : Reopening) (starts : (reopenings sh frameRequest).start first) : first.Counted := by
    intro some_
    exact absurd (by rw [starts.1]; rfl) some_
  exact reached.invariant base fun _ _ _ counted stepped =>
    step_counted sh frameRequest counted stepped

/-- A caller's frame leaves the replay its slots where fewer than a queue's capacity of them are on the
channel. -/
theorem leavesRoom_of_few (reached : (reopenings sh frameRequest).Reachable run)
    (few : run.channel.frames.countP Queued.byCaller < writeQueueCapacity) (step : ReopeningStep) :
    run.LeavesRoom frameRequest step := by
  have counted := reachable_counted sh frameRequest reached
  intro _ needs
  have most := List.countP_le_length (l := run.pc.left) (p := sendable frameRequest)
  have left : run.pc.left ≠ [] := by
    intro nothing
    simp [needed, nothing] at needs
  have holds := counted left
  have both := List.length_eq_countP_add_countP Queued.byCaller (l := run.channel.frames)
  simp only [needed] at needs ⊢
  simp only [Bool.not_eq_true] at both
  have same : run.channel.frames.countP (fun frame => decide (frame.byCaller = false)) =
      run.channel.frames.countP (fun frame => !frame.byCaller) := by
    congr 1
    funext frame
    cases frame.byCaller <;> rfl
  omega

end Reopening

/-! ### Callers of `send` -/

/-- A call of `send`, from its check to its frame. -/
def sendCall (position : Nat) : List ReopeningStep :=
  [.begin .send "", .call position, .call position, .call position]

/-- A replay of one subscription, up to its frame. -/
def oneReplay : List ReopeningStep :=
  [.handshake [{ label := "trades:2330", frame := .subscribe trades2330 }] .null [], .owner 0, .owner 0,
    .owner 0]

/-- The client during a reconnect attempt. -/
def authenticating : Reopening where
  client := { connection := .authenticating }
  mgr := .new .default

/-- A caller's frame before the one of the replay. -/
theorem replay_finds_room_oneSend :
    ∃ run, (reopenings smallStream fun _ => .ok "").runUnder (Reopening.LeavesRoom fun _ => .ok "")
        authenticating (oneReplay ++ sendCall 0) = some run ∧
      run.channel.frames.length = 1 ∧ run.blocked (fun _ => .ok "") = false := by
  have runs : ∃ run, (reopenings smallStream fun _ => .ok "").runUnder
      (Reopening.LeavesRoom fun _ => .ok "") authenticating (oneReplay ++ sendCall 0) = some run ∧
      run.channel.frames.length = 1 := ⟨_, rfl, rfl⟩
  obtain ⟨run, ran, one⟩ := runs
  have start : (reopenings smallStream fun _ => .ok "").ReachableUnder
      (fun run step _ => run.LeavesRoom (fun _ => .ok "") step) authenticating := .start ⟨rfl, rfl⟩
  exact ⟨run, ran, one,
    (replay_finds_room smallStream (fun _ => .ok "") (reachableUnder_of_run _ start ran)).1⟩

/-- **Sends block the owner.** Sixty-five calls of `send` between the installed sender and the replay's
frame: it finds the channel full, on the thread that drains it. -/
theorem sends_block :
    ¬ ∀ (sh : Shared) (frameRequest : WebSocketRequest → Except ErrorInfo String) (run : Reopening),
      (reopenings sh frameRequest).Reachable run → run.blocked frameRequest = false := by
  intro never
  have full : ((reopenings smallStream fun _ => .ok "").run authenticating
      (oneReplay ++ (List.range 65).flatMap sendCall)).any (Reopening.blocked fun _ => .ok "") = true := by
    decide +kernel
  simp only [Option.any_eq_true] at full
  obtain ⟨run, ran, blocked⟩ := full
  have start : (reopenings smallStream fun _ => .ok "").Reachable authenticating :=
    Reachable.init _ ⟨rfl, rfl⟩
  have free := never smallStream (fun _ => .ok "") run (reachable_of_run _ start ran)
  cases free.symm.trans blocked

end FugleMarketdata
