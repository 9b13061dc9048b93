/-
**What the operations of a connection show of its drops.** The queue under any operations in any order,
the consumer's reads and the end of its receiver, and what each operation showed: whether the receiver
lived, and what was queued.

* `receiverRuns` — the runs, and `Operated` — an operation made;
* `Operated.drops`, `unreported`, `lastReported` — the drops and reports the operations show;
* `ReportThrottle.Waits` — when a report waits;
* `QueueCall.program` — what an operation does, as far as drops are concerned.
-/

import FugleMarketdata.Websocket.Windows

namespace FugleMarketdata

open StepMachines StepMachine Traces StreamItem

/-! ### Runs -/

/-- The clock reading an operation makes. -/
def QueueCall.reading : QueueCall → Option Nat
  | pushMessage now _ => some now
  | callerConnecting now => some now
  | reconnectAuthenticated now _ _ => some now
  | connectionLost now _ _ _ _ => some now
  | connectionFailed now _ _ _ => some now
  | clientClosed now _ _ => some now
  | _ => none

/-- An operation made: whether the receiver lived, the items queued, the event refused if there was one,
and what the throttle has pending after it. -/
structure Operated where
  call : QueueCall
  alive : Bool
  items : List StreamItem
  refused : Option ConnectionEvent
  pending : Nat

/-- A run: the client, and the operations made. -/
structure ReceiverRun where
  client : Client := {}
  log : List Operated := []

/-- An operation, the consumer's pop, or the end of the receiver. -/
inductive ReceiverStep where
  | call (call : QueueCall)
  | pop
  | dropReceiver

/-- An operation that does `acts` to the queue. -/
def Operated.of (sh : Shared) (call : QueueCall) (acts : List Act) (stream : State) : Operated :=
  let work := Act.applyAll sh acts (stream, {})
  { call
    alive := stream.receiverAlive
    items := work.1.items.drop stream.items.length
    refused := work.2.droppedEvent
    pending := work.1.dropReports.pending }

def ReceiverRun.step (sh : Shared) (run : ReceiverRun) : ReceiverStep → Option ReceiverRun
  | .call call =>
    let made := Operated.of sh call (call.acts sh run.client) run.client.stream
    some { client := call.apply sh run.client, log := run.log ++ [made] }
  | .pop => run.client.stream.pop.map fun read =>
    { run with client := { run.client with stream := read.2 } }
  | .dropReceiver =>
    some { run with client := { run.client with stream := run.client.stream.dropReceiver } }

/-- A new queue. -/
def receiverRuns (sh : Shared) : StepMachine ReceiverRun ReceiverStep where
  start := fun run => run = {}
  step := ReceiverRun.step sh

/-- A `startConnection` has come that no verdict has answered. -/
def awaitsAnswer (log : List Operated) : Bool :=
  log.foldl (fun started made => made.call.awaits started) false

/-- The events handed over are neutral, a verdict answers its own `startConnection`, and no clock reading
is before an earlier one. -/
def ReceiverStep.Orderly (run : ReceiverRun) : ReceiverStep → Prop
  | call made => made.Proper ∧ (made.isVerdict = true → awaitsAnswer run.log = true) ∧
      ∀ earlier ∈ run.log, ∀ before ∈ earlier.call.reading, ∀ now ∈ made.reading, before ≤ now
  | pop => True
  | dropReceiver => True

instance (run : ReceiverRun) (label : ReceiverStep) : Decidable (label.Orderly run) :=
  match label with
  | .call made => inferInstanceAs (Decidable (made.Proper ∧
      (made.isVerdict = true → awaitsAnswer run.log = true) ∧
      ∀ earlier ∈ run.log, ∀ before ∈ earlier.call.reading, ∀ now ∈ made.reading, before ≤ now))
  | .pop => .isTrue trivial
  | .dropReceiver => .isTrue trivial

/-! ### What the operations show -/

/-- The messages an operation offers to the open connection. -/
def QueueCall.offered : QueueCall → Nat
  | pushMessage _ _ => 1
  | call => (call.acceptedFrames.getD []).length + (call.rejectedFrames.getD []).length

/-- The drops a report carries. -/
def StreamItem.reported : StreamItem → Nat
  | event (.messagesDropped dropped _) => dropped
  | _ => 0

namespace Operated

/-- It queued a `MessagesDropped`. -/
def reports (made : Operated) : Bool := made.items.any isDropReport

/-- The messages offered to a living receiver and not queued. -/
def drops (made : Operated) : Nat :=
  if made.alive then made.call.offered - countMessages made.items else 0

end Operated

/-- The drops of a connection's operations. -/
def dropsOf (trail : List Operated) : Nat := (trail.map Operated.drops).sum

/-- The drops behind the last report. -/
def unreported (trail : List Operated) : Nat :=
  trail.foldl (fun waiting made => if made.reports then 0 else waiting + made.drops) 0

/-- The clock reading of the last report. -/
def lastReported (trail : List Operated) : Option Nat :=
  trail.foldl (fun last made => if made.reports then made.call.reading else last) none

/-- The drops the reports carry. -/
def reportedBy (trail : List Operated) : Nat :=
  (trail.map fun made => (made.items.map StreamItem.reported).sum).sum

@[simp] theorem dropsOf_concat (trail : List Operated) (made : Operated) :
    dropsOf (trail ++ [made]) = dropsOf trail + made.drops := by
  simp [dropsOf]

@[simp] theorem unreported_concat (trail : List Operated) (made : Operated) :
    unreported (trail ++ [made]) = if made.reports then 0 else unreported trail + made.drops := by
  simp [unreported]

@[simp] theorem lastReported_concat (trail : List Operated) (made : Operated) :
    lastReported (trail ++ [made]) =
      if made.reports then made.call.reading else lastReported trail := by
  simp [lastReported]

@[simp] theorem reportedBy_concat (trail : List Operated) (made : Operated) :
    reportedBy (trail ++ [made]) = reportedBy trail + (made.items.map StreamItem.reported).sum := by
  simp [reportedBy]

/-- The last report is one of the reports. -/
theorem mem_of_lastReported {trail : List Operated} {last : Nat} (found : lastReported trail = some last) :
    ∃ made ∈ trail, made.reports = true ∧ made.call.reading = some last := by
  induction trail using List.reverseRecOn with
  | nil => cases found
  | append_singleton trail made ih =>
    rw [lastReported_concat] at found
    by_cases reports : made.reports = true
    · rw [if_pos reports] at found
      exact ⟨made, by simp, reports, found⟩
    · rw [if_neg reports] at found
      obtain ⟨earlier, member, which⟩ := ih found
      exact ⟨earlier, List.mem_append_left _ member, which⟩

/-! ### The throttle -/

namespace ReportThrottle

/-- What makes a report wait: nothing is pending, or the last report is less than the interval ago and
this one is not forced. -/
def Waits (throttle : ReportThrottle) (now : Nat) (force : Bool) : Prop :=
  throttle.pending = 0 ∨
    force = false ∧ ∃ last, throttle.lastReport = some last ∧ now - last < REPORT_INTERVAL

theorem takeDue_waits {throttle : ReportThrottle} {now : Nat} {force : Bool}
    (waits : throttle.Waits now force) : throttle.takeDue now force = (none, throttle) := by
  unfold takeDue
  by_cases empty : throttle.pending = 0
  · rw [if_pos empty]
  rcases waits with none | ⟨rfl, last, which, recent⟩
  · exact absurd none empty
  · rw [if_neg empty, which]
    simp [recent]

theorem takeDue_due {throttle : ReportThrottle} {now : Nat} {force : Bool}
    (due : ¬ throttle.Waits now force) :
    throttle.takeDue now force = (some throttle.pending, { pending := 0, lastReport := some now }) := by
  unfold Waits at due
  push Not at due
  obtain ⟨waiting, old⟩ := due
  unfold takeDue
  rw [if_neg waiting]
  cases force with
  | true => simp
  | false =>
    cases which : throttle.lastReport with
    | none => simp
    | some last =>
      have enough := old rfl last which
      simp [Nat.not_lt.mpr enough]

end ReportThrottle

/-! ### The acts, as far as drops are concerned -/

/-- What a living receiver's queue takes. -/
def queuedFor (alive : Bool) (items : List StreamItem) : List StreamItem := if alive then items else []

/-- Everything the drop reports depend on is as it was. -/
structure State.SameDrops (before after : State) : Prop where
  opened : after.open_ = before.open_
  alive : after.receiverAlive = before.receiverAlive
  reports : after.dropReports = before.dropReports
  dropped : after.messagesDropped = before.messagesDropped

namespace State

variable (sh : Shared)

theorem SameDrops.trans {first second third : State} (left : first.SameDrops second)
    (right : second.SameDrops third) : first.SameDrops third :=
  ⟨right.opened.trans left.opened, right.alive.trans left.alive, right.reports.trans left.reports,
    right.dropped.trans left.dropped⟩

theorem pushEvent_sameDrops (event : ConnectionEvent) (work : State × Outcome) :
    work.1.SameDrops (pushEvent sh event work).1 := by
  obtain ⟨state, outcome⟩ := work
  simp only [pushEvent]
  split
  · exact ⟨rfl, rfl, rfl, rfl⟩
  split <;> exact ⟨rfl, rfl, rfl, rfl⟩

variable {sh} in
/-- An event that is not refused is queued for a living receiver. -/
theorem pushEvent_items {event : ConnectionEvent} {work : State × Outcome}
    (kept : (pushEvent sh event work).2.droppedEvent = none) :
    (pushEvent sh event work).1.items = work.1.items ++ queuedFor work.1.receiverAlive [.event event] := by
  obtain ⟨new, pushes, -, delivered⟩ := pushEvent_pushes sh event work
  rw [pushes.items]
  cases alive : work.1.receiverAlive with
  | true =>
    rw [delivered kept alive]
    rfl
  | false =>
    obtain ⟨state, outcome⟩ := work
    have same : pushEvent sh event (state, outcome) = (state, outcome) := if_pos (by simpa using alive)
    have items := pushes.items
    rw [same] at items
    exact items.symm.trans (List.append_nil _).symm

variable {sh} in
theorem pushReport_waits {now : Nat} {force : Bool} {work : State × Outcome}
    (waits : work.1.dropReports.Waits now force) : pushReport sh now force work = work := by
  obtain ⟨state, outcome⟩ := work
  simp only [pushReport, ReportThrottle.takeDue_waits waits]

variable {sh} in
/-- A report that is due starts a new interval, and is queued for a living receiver. -/
theorem pushReport_due {now : Nat} {force : Bool} {work : State × Outcome}
    (due : ¬ work.1.dropReports.Waits now force)
    (kept : (pushReport sh now force work).2.droppedEvent = none) :
    { work.1 with dropReports := { pending := 0, lastReport := some now } }.SameDrops
        (pushReport sh now force work).1 ∧
      (pushReport sh now force work).1.items = work.1.items ++ queuedFor work.1.receiverAlive
        [.event (.messagesDropped work.1.dropReports.pending work.1.messagesDropped)] := by
  obtain ⟨state, outcome⟩ := work
  simp only [pushReport, ReportThrottle.takeDue_due due] at kept ⊢
  exact ⟨pushEvent_sameDrops sh (.messagesDropped state.dropReports.pending state.messagesDropped)
      ({ state with dropReports := { pending := 0, lastReport := some now } },
        { outcome with report := some (state.dropReports.pending, state.messagesDropped) }),
    pushEvent_items kept⟩

variable {sh} in
/-- A claimed `Disconnected` leaves nothing pending, and is queued for a living receiver behind the report of
what was. -/
theorem pushDisconnected_leaves {now : Nat} {disconnect : Disconnect} {work : State × Outcome}
    (kept : (pushDisconnected sh now disconnect work).2.droppedEvent = none) :
    (pushDisconnected sh now disconnect work).1.receiverAlive = work.1.receiverAlive ∧
      (pushDisconnected sh now disconnect work).1.dropReports.pending = 0 ∧
      (pushDisconnected sh now disconnect work).1.items = work.1.items ++ queuedFor work.1.receiverAlive
        ((if work.1.dropReports.pending = 0 then []
          else [.event (.messagesDropped work.1.dropReports.pending work.1.messagesDropped)]) ++
          [.event disconnect.event]) := by
  obtain ⟨claimed, isClaimed⟩ : ∃ claimed : State × Outcome, claimed = ({ work.1 with
      disconnectClaimed := true
      closeReported := work.1.closeReported || !disconnect.willReconnect
      open_ := false }, work.2) := ⟨_, rfl⟩
  obtain ⟨lives, throttle, count, queued⟩ : claimed.1.receiverAlive = work.1.receiverAlive ∧
      claimed.1.dropReports = work.1.dropReports ∧ claimed.1.messagesDropped = work.1.messagesDropped ∧
      claimed.1.items = work.1.items := by
    rw [isClaimed]
    exact ⟨rfl, rfl, rfl, rfl⟩
  have split : pushDisconnected sh now disconnect work =
      pushEvent sh disconnect.event (pushReport sh now true claimed) := by
    rw [isClaimed]
    rfl
  rw [split] at kept ⊢
  have last := pushEvent_sameDrops sh disconnect.event (pushReport sh now true claimed)
  have reportKept : (pushReport sh now true claimed).2.droppedEvent = none := by
    obtain ⟨new, pushes, -⟩ := pushEvent_pushes sh disconnect.event (pushReport sh now true claimed)
    exact pushes.dropped kept
  rw [last.alive, last.reports, pushEvent_items kept]
  by_cases waits : claimed.1.dropReports.Waits now true
  · have empty : work.1.dropReports.pending = 0 := by
      rcases waits with none | ⟨forced, -⟩
      · rwa [← throttle]
      · cases forced
    rw [pushReport_waits waits, lives, throttle, queued, if_pos empty]
    exact ⟨rfl, empty, rfl⟩
  · obtain ⟨due, shown⟩ := pushReport_due waits reportKept
    have waiting : work.1.dropReports.pending ≠ 0 := by
      rw [← throttle]
      exact fun empty => waits (Or.inl empty)
    rw [due.alive, due.reports, shown, lives, queued, throttle, count, if_neg waiting]
    refine ⟨rfl, rfl, ?_⟩
    rw [List.append_assoc]
    cases work.1.receiverAlive <;> rfl

/-- A claim that finds nothing pending reports nothing. -/
theorem pushDisconnected_settled (now : Nat) (disconnect : Disconnect) {work : State × Outcome}
    (settled : work.1.dropReports.pending = 0) :
    (pushDisconnected sh now disconnect work).1.open_ = false ∧
      (pushDisconnected sh now disconnect work).1.dropReports = work.1.dropReports ∧
      (pushDisconnected sh now disconnect work).1.messagesDropped = work.1.messagesDropped := by
  obtain ⟨claimed, isClaimed⟩ : ∃ claimed : State × Outcome, claimed = ({ work.1 with
      disconnectClaimed := true
      closeReported := work.1.closeReported || !disconnect.willReconnect
      open_ := false }, work.2) := ⟨_, rfl⟩
  have waits : claimed.1.dropReports.Waits now true := by
    rw [isClaimed]
    exact Or.inl settled
  have split : pushDisconnected sh now disconnect work =
      pushEvent sh disconnect.event (pushReport sh now true claimed) := by
    rw [isClaimed]
    rfl
  rw [split, pushReport_waits waits]
  have same := pushEvent_sameDrops sh disconnect.event claimed
  rw [isClaimed] at same ⊢
  exact ⟨same.opened, same.reports, same.dropped⟩

/-- Frames are queued or dropped and counted. -/
theorem pushFrames_counts {state : State} (alive : state.receiverAlive = true)
    (frames : List WebSocketMessage) (outcome : Outcome) {counted total : Nat}
    (pending : state.dropReports.pending = min counted U64_MAX)
    (dropped : state.messagesDropped = total % 2 ^ 64) : ∃ accepted : List WebSocketMessage, ∃ refused,
      accepted.length + refused = frames.length ∧
      (pushFrames sh frames (state, outcome)).2.droppedEvent = outcome.droppedEvent ∧
      (pushFrames sh frames (state, outcome)).1.items = state.items ++ accepted.map .message ∧
      (pushFrames sh frames (state, outcome)).1.open_ = state.open_ ∧
      (pushFrames sh frames (state, outcome)).1.receiverAlive = true ∧
      (pushFrames sh frames (state, outcome)).1.dropReports =
        { pending := min (counted + refused) U64_MAX, lastReport := state.dropReports.lastReport } ∧
      (pushFrames sh frames (state, outcome)).1.messagesDropped = (total + refused) % 2 ^ 64 := by
  induction frames generalizing state outcome counted total with
  | nil =>
    refine ⟨[], 0, rfl, rfl, (List.append_nil _).symm, rfl, alive, ?_, dropped⟩
    rw [Nat.add_zero, ← pending]
    rfl
  | cons frame rest ih =>
    by_cases full : state.messagesFull sh = true
    · have refuses : (sh.messageCapacity.any fun capacity => decide (state.messages ≥ capacity)) =
          true := full
      have pushed : pushMessageLocked sh frame (state, outcome) =
          ({ state with
              dropReports := state.dropReports.count
              messagesDropped := bump state.messagesDropped }, outcome) := by
        simp only [pushMessageLocked, alive, refuses, Bool.not_true, Bool.false_eq_true, if_false,
          if_true]
      obtain ⟨accepted, refused, length, quiet, items, opened, lives, reports, count⟩ :=
        @ih { state with
              dropReports := state.dropReports.count
              messagesDropped := bump state.messagesDropped } alive outcome (counted + 1) (total + 1)
          (by simp only [ReportThrottle.count, pending]; omega)
          (by simp only [bump, dropped, Nat.mod_add_mod])
      have step : pushFrames sh (frame :: rest) (state, outcome) = pushFrames sh rest
          ({ state with
              dropReports := state.dropReports.count
              messagesDropped := bump state.messagesDropped }, outcome) := by
        rw [← pushed]
        rfl
      rw [step]
      refine ⟨accepted, refused + 1, by simp [← length]; omega, quiet, items, opened, lives, ?_, ?_⟩
      · rw [reports, Nat.add_right_comm, Nat.add_assoc]
        rfl
      · rw [count, Nat.add_right_comm, Nat.add_assoc]
    · have admits : (sh.messageCapacity.any fun capacity => decide (state.messages ≥ capacity)) =
          false := Bool.eq_false_iff.mpr full
      have pushed : pushMessageLocked sh frame (state, outcome) =
          ({ state with messages := state.messages + 1, items := state.items ++ [.message frame] },
            { outcome with queued := true }) := by
        simp only [pushMessageLocked, alive, admits, Bool.not_true, Bool.false_eq_true, if_false]
      obtain ⟨accepted, refused, length, quiet, items, opened, lives, reports, count⟩ :=
        @ih { state with messages := state.messages + 1, items := state.items ++ [.message frame] }
          alive { outcome with queued := true } counted total pending dropped
      have step : pushFrames sh (frame :: rest) (state, outcome) = pushFrames sh rest
          ({ state with messages := state.messages + 1, items := state.items ++ [.message frame] },
            { outcome with queued := true }) := by
        rw [← pushed]
        rfl
      rw [step]
      refine ⟨frame :: accepted, refused, by simp [← length]; omega, quiet, ?_, opened, lives, reports,
        count⟩
      rw [items]
      simp

variable {sh} in
/-- Without a receiver messages are neither queued nor counted. -/
theorem pushFrames_gone {state : State} (gone : state.receiverAlive = false)
    (frames : List WebSocketMessage) (outcome : Outcome) :
    pushFrames sh frames (state, outcome) = (state, outcome) := by
  induction frames with
  | nil => rfl
  | cons frame rest ih =>
    have same : pushMessageLocked sh frame (state, outcome) = (state, outcome) :=
      if_pos (by simpa using gone)
    unfold pushFrames
    rw [List.foldl_cons, same]
    exact ih

end State

/-! ### What an operation does -/

/-- An item that says nothing about drops and neither opens nor closes a connection. -/
def StreamItem.isPlain (item : StreamItem) : Bool :=
  !item.isMessage && !item.isDropReport && !item.isAuthenticated && !item.isDisconnected

theorem StreamItem.isPlain_of_isNeutral {event : ConnectionEvent} (neutral : event.isNeutral = true) :
    (StreamItem.event event).isPlain = true := by
  cases event with
  | connecting | connected | reconnecting _ | heartbeatTimeout _ | error _ => rfl
  | _ => cases neutral

/-- An act that queues a plain event or nothing, and leaves what the drop reports depend on. -/
def Act.IsPlain : Act → Prop
  | .event queued => (StreamItem.event queued).isPlain = true
  | .givesUp => True
  | .stamp _ => True
  | _ => False

theorem Act.plain_apply (sh : Shared) {act : Act} (plain : act.IsPlain) (work : State × Outcome) :
    work.1.SameDrops (act.apply sh work).1 ∧
      ∃ new, (act.apply sh work).1.items = work.1.items ++ new ∧ ∀ item ∈ new, item.isPlain = true := by
  cases act with
  | event queued =>
    obtain ⟨new, pushes, either, -⟩ := State.pushEvent_pushes sh queued work
    refine ⟨State.pushEvent_sameDrops sh queued work, new, pushes.items, fun item member => ?_⟩
    rcases either with rfl | rfl
    · cases member
    · rw [List.mem_singleton.mp member]
      exact plain
  | givesUp => exact ⟨⟨rfl, rfl, rfl, rfl⟩, [], (List.append_nil _).symm, fun _ member => by cases member⟩
  | stamp reconnectedAt =>
    exact ⟨⟨rfl, rfl, rfl, rfl⟩, [], (List.append_nil _).symm, fun _ member => by cases member⟩
  | message queued | report now force | claim willReconnect | opens | restart => cases plain

theorem Act.plain_applyAll (sh : Shared) {acts : List Act} (plain : ∀ act ∈ acts, act.IsPlain)
    (work : State × Outcome) : work.1.SameDrops (Act.applyAll sh acts work).1 ∧
      ∃ new, (Act.applyAll sh acts work).1.items = work.1.items ++ new ∧
        ∀ item ∈ new, item.isPlain = true := by
  induction acts generalizing work with
  | nil => exact ⟨⟨rfl, rfl, rfl, rfl⟩, [], (List.append_nil _).symm, fun _ member => by cases member⟩
  | cons act rest ih =>
    obtain ⟨same, first, items, quiet⟩ := Act.plain_apply sh (plain act List.mem_cons_self) work
    obtain ⟨sameRest, second, itemsRest, quietRest⟩ :=
      ih (fun later member => plain later (List.mem_cons_of_mem _ member)) (act.apply sh work)
    refine ⟨same.trans sameRest, first ++ second, ?_, fun item member => ?_⟩
    · rw [Act.applyAll_cons, itemsRest, items, List.append_assoc]
    · rcases List.mem_append.mp member with member | member
      · exact quiet item member
      · exact quietRest item member

namespace QueueCall

/-- What an operation does, as far as drops are concerned. -/
inductive Program (sh : Shared) (client : Client) (call : QueueCall) : List Act → Prop
  | plain (acts : List Act) : (∀ act ∈ acts, act.IsPlain) →
      (client.stream.open_ = true → ∀ now message, call ≠ .pushMessage now message) →
      Program sh client call acts
  | restarts : call = .startConnection → Program sh client call [.restart]
  | pushes (now : Nat) (message : WebSocketMessage) : call = .pushMessage now message →
      client.stream.open_ = true → Program sh client call [.message message, .report now false]
  | accepts (reconnectedAt : Option Nat) (data : Value) (frames : List WebSocketMessage) :
      call.acceptedFrames = some frames → call.offered = frames.length →
      Program sh client call (.stamp reconnectedAt :: openActs sh data frames)
  | rejects (acts : List Act) : call.rejectedFrames.isSome = true → Program sh client call acts
  | loses (first : List Act) (now : Nat) (disconnect : Disconnect) : (∀ act ∈ first, act.IsPlain) →
      call.claims client = true → call.reading = some now →
      Program sh client call (first ++ loseActs now disconnect)

variable {sh : Shared} {client : Client}

/-- What a reported or claimed close refuses is plain. -/
theorem program_unless {call : QueueCall} {refused : Bool} {acts : List Act}
    (other : ∀ now message, call ≠ .pushMessage now message)
    (program : refused = false → Program sh client call acts) :
    Program sh client call (if refused = true then [] else acts) := by
  cases refused with
  | false => exact program rfl
  | true => exact .plain [] (fun _ member => by cases member) fun _ => other

theorem program_event {call : QueueCall} {event : ConnectionEvent} (neutral : event.isNeutral = true)
    (other : ∀ now message, call ≠ .pushMessage now message) :
    Program sh client call [.event event] := by
  refine .plain _ (fun act member => ?_) fun _ => other
  rw [List.mem_singleton.mp member]
  exact isPlain_of_isNeutral neutral

/-- An operation that claims the `Disconnected` is of its own kind. -/
theorem other_of_claims {call : QueueCall} (claiming : call.claims client = true) :
    call.isVerdict = false ∧ call.offered = 0 ∧ ∀ now message, call ≠ .pushMessage now message := by
  cases call with
  | connectionLost now code reason intent willReconnect => exact ⟨rfl, rfl, fun _ _ same => by cases same⟩
  | connectionFailed now event reason willReconnect => exact ⟨rfl, rfl, fun _ _ same => by cases same⟩
  | clientClosed now code reason => exact ⟨rfl, rfl, fun _ _ same => by cases same⟩
  | _ => cases claiming

/-- Every operation is one of these programs. -/
theorem program (call : QueueCall) (proper : call.Proper) :
    Program sh client call (call.acts sh client) := by
  have nothing {call : QueueCall} (other : ∀ now message, call ≠ .pushMessage now message) :
      Program sh client call [] := .plain [] (fun _ member => by cases member) fun _ => other
  cases call with
  | emit event => exact program_event (proper event List.mem_cons_self) fun _ _ same => by cases same
  | startConnection => exact .restarts rfl
  | setState next => exact nothing fun _ _ same => by cases same
  | useHandle conflict => exact nothing fun _ _ same => by cases same
  | pushMessage now message =>
    by_cases opened : client.stream.open_ = true
    · rw [acts, if_pos opened]
      exact .pushes now message rfl opened
    · rw [acts, if_neg opened]
      exact .plain [] (fun _ member => by cases member) fun up => absurd up opened
  | callerConnecting now =>
    simp only [acts]
    split
    · exact program_event rfl fun _ _ same => by cases same
    · exact nothing fun _ _ same => by cases same
  | authenticated data frames => exact .accepts none data frames rfl (Nat.add_zero _)
  | unauthenticated message data frames => exact .rejects _ rfl
  | reconnectStep next event =>
    refine program_unless (fun _ _ same => by cases same) fun _ => ?_
    cases event with
    | none => exact nothing fun _ _ same => by cases same
    | some event =>
      exact program_event (proper event List.mem_cons_self) fun _ _ same => by cases same
  | emitUnlessClosed event =>
    exact program_unless (fun _ _ same => by cases same) fun _ =>
      program_event (proper event List.mem_cons_self) fun _ _ same => by cases same
  | reconnectAuthenticated now data frames =>
    exact program_unless (fun _ _ same => by cases same) fun _ =>
      .accepts (some now) data frames rfl (Nat.add_zero _)
  | reconnectRejected message data frames =>
    exact .rejects _ rfl
  | connectionLost now code reason intent willReconnect =>
    exact program_unless (fun _ _ same => by cases same) fun free =>
      .loses [] now _ (fun _ member => by cases member) (by simp [claims, free]) rfl
  | connectionFailed now event reason willReconnect =>
    have neutral := proper event List.mem_cons_self
    refine program_unless (fun _ _ same => by cases same) fun unreported => ?_
    by_cases claimed : client.stream.disconnectClaimed = true
    · rw [if_pos claimed]
      exact program_event neutral fun _ _ same => by cases same
    · rw [if_neg claimed]
      refine .loses [.event event] now _ (fun act member => ?_) (by simp [claims, unreported, claimed]) rfl
      rw [List.mem_singleton.mp member]
      exact isPlain_of_isNeutral neutral
  | clientClosed now code reason =>
    exact program_unless (fun _ _ same => by cases same) fun unreported =>
      .loses [] now _ (fun _ member => by cases member) (by simp [claims, unreported]) rfl
  | reconnectFailed code attempts reason intent =>
    refine program_unless (fun _ _ same => by cases same) fun _ => ?_
    refine .plain _ (fun act member => ?_) fun _ _ _ same => by cases same
    rcases List.mem_cons.mp member with rfl | member
    · exact trivial
    · rw [List.mem_singleton.mp member]
      rfl

end QueueCall

end FugleMarketdata
