/-
**When drops are reported.** On one connection, from its `Authenticated` to its `Disconnected`.

* `PromptReports` — what is asked of each operation's reports;
* `Standing` — how the throttle agrees with what the operations show, which every operation keeps;
* `drops_reported` — a drop is reported at once or within the interval, reports keep their distance, and
  the `Disconnected` finds every drop reported.
-/

import FugleMarketdata.Websocket.DropTrail

namespace FugleMarketdata

open StepMachines StepMachine Traces StreamItem

/-! ### One connection -/

/-- The report of what is still unreported, if anything is. -/
def outstandingReport (trail : List Operated) : List StreamItem :=
  if unreported trail = 0 then []
  else [.event (.messagesDropped (min (unreported trail) U64_MAX) (dropsOf trail % 2 ^ 64))]

theorem outstandingReport_any (trail : List Operated) :
    (outstandingReport trail).any isDropReport = !decide (unreported trail = 0) := by
  unfold outstandingReport
  by_cases empty : unreported trail = 0 <;> simp [empty, isDropReport]

theorem outstandingReport_sum (trail : List Operated) :
    ((outstandingReport trail).map StreamItem.reported).sum = min (unreported trail) U64_MAX := by
  unfold outstandingReport
  by_cases empty : unreported trail = 0 <;> simp [empty, StreamItem.reported]

theorem outstandingReport_going {trail : List Operated} {item : StreamItem}
    (member : item ∈ outstandingReport trail) : item.isDisconnected = false := by
  unfold outstandingReport at member
  split at member
  · cases member
  · rw [List.mem_singleton.mp member]
    rfl

/-- What the throttle would report is what is outstanding, where it agrees with the operations. -/
theorem outstandingReport_of_pending {trail : List Operated} {pending dropped : Nat}
    (counted : pending = min (unreported trail) U64_MAX) (total : dropped = dropsOf trail % 2 ^ 64) :
    (if pending = 0 then [] else [StreamItem.event (.messagesDropped pending dropped)]) =
      outstandingReport trail := by
  have bound : 0 < U64_MAX := by decide
  have empty : pending = 0 ↔ unreported trail = 0 := by omega
  rw [outstandingReport, ← counted, ← total]
  simp only [empty]

/-- The reports of an operation on a connection whose earlier operations are `trail`. A
`pushMessage` leaves nothing pending or comes less than the interval after a report; what is pending is
what the operations show; the first drop is reported at once, directly after; the reports keep their
distance; and a `Disconnected` comes right behind the report of what was outstanding, which leaves
nothing unreported. -/
structure PromptReports (trail : List Operated) (made : Operated) : Prop where
  prompt : ∀ now message, made.call = .pushMessage now message → made.pending = 0 ∨
    ∃ report ∈ trail ++ [made], report.reports = true ∧
      ∃ reading, report.call.reading = some reading ∧ reading ≤ now ∧ now < reading + REPORT_INTERVAL
  counted : ∀ now message, made.call = .pushMessage now message → made.alive = true →
    made.pending = min (unreported (trail ++ [made])) U64_MAX
  atOnce : ∀ now message, made.call = .pushMessage now message → made.drops ≠ 0 →
    (∀ earlier ∈ trail, earlier.reports = false) → made.items =
      [.event (.messagesDropped (min (unreported trail + 1) U64_MAX) (dropsOf (trail ++ [made]) % 2 ^ 64))]
  apart : ∀ now message, made.call = .pushMessage now message → made.reports = true →
    made.items.countP isDropReport = 1 ∧ ∀ earlier ∈ trail, earlier.reports = true →
      ∃ reading, earlier.call.reading = some reading ∧ reading + REPORT_INTERVAL ≤ now
  final : ∀ item ∈ made.items, item.isDisconnected = true →
    (∃ first, (∀ other ∈ first, other.isPlain = true) ∧
      made.items = first ++ (outstandingReport trail ++ [item])) ∧
    unreported (trail ++ [made]) = 0 ∧
    (dropsOf (trail ++ [made]) < 2 ^ 64 → reportedBy (trail ++ [made]) = dropsOf (trail ++ [made]))

/-- The books of a connection's operations: no report is read after the last one, and the reports carry
the drops made before it. -/
structure Ledger (trail : List Operated) : Prop where
  latest : ∀ made ∈ trail, made.reports = true → ∃ reading last, made.call.reading = some reading ∧
    lastReported trail = some last ∧ reading ≤ last
  carried : dropsOf trail < 2 ^ 64 → reportedBy trail + unreported trail = dropsOf trail

/-- How the queue stands on a connection: the throttle agrees with what the operations show, and without
a receiver has nothing pending or the last report's reading. -/
structure Standing (trail : List Operated) (state : State) : Prop where
  ledger : Ledger trail
  live : state.receiverAlive = true → state.open_ = true ∧
    state.dropReports.pending = min (unreported trail) U64_MAX ∧
    state.dropReports.lastReport = lastReported trail ∧ state.messagesDropped = dropsOf trail % 2 ^ 64
  gone : state.receiverAlive = false → state.dropReports.pending = 0 ∨
    state.open_ = true ∧ state.dropReports.lastReport = lastReported trail

namespace Ledger

variable {trail : List Operated} {made : Operated}

/-- An operation without a report. -/
theorem quiet (ledger : Ledger trail) (silent : made.reports = false)
    (nothing : (made.items.map StreamItem.reported).sum = 0) : Ledger (trail ++ [made]) := by
  refine ⟨fun found member reports => ?_, fun small => ?_⟩
  · rw [lastReported_concat, silent]
    rcases List.mem_append.mp member with member | member
    · exact ledger.latest found member reports
    · rw [List.mem_singleton.mp member, silent] at reports
      cases reports
  · rw [dropsOf_concat] at small ⊢
    have before := ledger.carried (by omega)
    rw [reportedBy_concat, unreported_concat, silent, nothing]
    simp only [Bool.false_eq_true, if_false]
    omega

/-- An operation that reports what was outstanding and what it dropped itself. -/
theorem reports (ledger : Ledger trail) (reported : made.reports = true) {now : Nat}
    (reading : made.call.reading = some now)
    (forward : ∀ earlier ∈ trail, ∀ before ∈ earlier.call.reading, before ≤ now)
    (carries : (made.items.map StreamItem.reported).sum = min (unreported trail + made.drops) U64_MAX) :
    Ledger (trail ++ [made]) := by
  refine ⟨fun found member reports => ?_, fun small => ?_⟩
  · rw [lastReported_concat, if_pos reported, reading]
    rcases List.mem_append.mp member with member | member
    · obtain ⟨before, last, which, -, -⟩ := ledger.latest found member reports
      exact ⟨before, now, which, rfl, forward found member before which⟩
    · rw [List.mem_singleton.mp member]
      exact ⟨now, now, reading, rfl, Nat.le_refl now⟩
  · rw [dropsOf_concat] at small ⊢
    have before := ledger.carried (by omega)
    rw [reportedBy_concat, unreported_concat, if_pos reported, carries]
    have room : unreported trail + made.drops ≤ U64_MAX := by
      unfold U64_MAX
      omega
    rw [Nat.min_eq_left room]
    omega

end Ledger

/-! ### The items of an operation -/

/-- What plain items show of drops: nothing. -/
theorem StreamItem.plain_shows {items : List StreamItem} (plain : ∀ item ∈ items, item.isPlain = true) :
    items.any isDropReport = false ∧ countMessages items = 0 ∧
      (items.map StreamItem.reported).sum = 0 ∧ ∀ item ∈ items, item.isDisconnected = false := by
  induction items with
  | nil => exact ⟨rfl, rfl, rfl, fun _ member => by cases member⟩
  | cons item rest ih =>
    obtain ⟨silent, none, nothing, stays⟩ := ih fun later member => plain later (List.mem_cons_of_mem _ member)
    have here := plain item List.mem_cons_self
    simp only [isPlain, Bool.and_eq_true, Bool.not_eq_true'] at here
    obtain ⟨⟨⟨message, report⟩, -⟩, disconnected⟩ := here
    have carries : item.reported = 0 := by
      cases item with
      | message message => rfl
      | event event =>
        cases event with
        | messagesDropped dropped total => cases report
        | _ => rfl
    refine ⟨by simp only [List.any_cons, report, silent, Bool.or_self], ?_,
      by simp only [List.map_cons, List.sum_cons, carries, nothing], fun other member => ?_⟩
    · rw [countMessages, List.countP_cons_of_neg (by simp [message])]
      exact none
    · rcases List.mem_cons.mp member with rfl | member
      · exact disconnected
      · exact stays other member

/-- What messages show of drops: their number. -/
theorem StreamItem.messages_show (accepted : List WebSocketMessage) :
    (accepted.map StreamItem.message).any isDropReport = false ∧
      countMessages (accepted.map StreamItem.message) = accepted.length ∧
      ((accepted.map StreamItem.message).map StreamItem.reported).sum = 0 ∧
      ∀ item ∈ accepted.map StreamItem.message, item.isDisconnected = false := by
  induction accepted with
  | nil => exact ⟨rfl, rfl, rfl, fun _ member => by cases member⟩
  | cons message rest ih =>
    obtain ⟨silent, count, nothing, stays⟩ := ih
    refine ⟨silent, ?_, ?_, fun item member => ?_⟩
    · rw [List.map_cons, countMessages_message, count]
      rfl
    · rw [List.map_cons, List.map_cons, List.sum_cons, nothing]
      rfl
    · rcases List.mem_cons.mp member with rfl | member
      · rfl
      · exact stays item member

theorem countMessages_append (first second : List StreamItem) :
    countMessages (first ++ second) = countMessages first + countMessages second :=
  List.countP_append

namespace Operated

variable {sh : Shared} {call : QueueCall} {acts : List Act} {state : State}

theorem of_items {new : List StreamItem}
    (items : (Act.applyAll sh acts (state, {})).1.items = state.items ++ new) :
    (Operated.of sh call acts state).items = new := by
  simp only [Operated.of, items, List.drop_left]

end Operated

namespace Standing

variable {sh : Shared} {call : QueueCall} {trail : List Operated} {state : State}

/-- An operation that is none of a `pushMessage`, a verdict and a `startConnection` offers nothing. -/
theorem offered_of_other (other : ∀ now message, call ≠ .pushMessage now message)
    (verdict : call.isVerdict = false) : call.offered = 0 := by
  cases call with
  | pushMessage now message => exact absurd rfl (other now message)
  | authenticated data frames | unauthenticated message data frames
  | reconnectAuthenticated now data frames | reconnectRejected message data frames => cases verdict
  | _ => rfl

variable (sh) in
/-- A plain operation. -/
theorem plain {acts : List Act} (standing : Standing trail state) (plain : ∀ act ∈ acts, act.IsPlain)
    (other : state.open_ = true → ∀ now message, call ≠ .pushMessage now message)
    (verdict : call.isVerdict = false) :
    Standing (trail ++ [Operated.of sh call acts state]) (Act.applyAll sh acts (state, {})).1 ∧
      PromptReports trail (Operated.of sh call acts state) := by
  obtain ⟨same, new, items, quiet⟩ := Act.plain_applyAll sh plain (state, {})
  obtain ⟨silent, none, nothing, stays⟩ := StreamItem.plain_shows quiet
  have shown : (Operated.of sh call acts state).items = new := Operated.of_items items
  have unreporting : (Operated.of sh call acts state).reports = false := by
    rw [Operated.reports, shown, silent]
  have undropping (alive : state.receiverAlive = true) : (Operated.of sh call acts state).drops = 0 := by
    have offered : call.offered = 0 :=
      offered_of_other (other (standing.live alive).1) verdict
    simp only [Operated.drops, shown, none]
    rw [show (Operated.of sh call acts state).call.offered = 0 from offered]
    exact ite_self 0
  have closed {now : Nat} {message : WebSocketMessage} (pushes : call = .pushMessage now message) :
      state.receiverAlive = false ∧ state.dropReports.pending = 0 := by
    have down : state.open_ ≠ true := fun up => other up now message pushes
    have gone : state.receiverAlive = false := by
      rw [← Bool.not_eq_true]
      exact fun alive => down (standing.live alive).1
    exact ⟨gone, (standing.gone gone).resolve_right fun up => down up.1⟩
  constructor
  · refine ⟨standing.ledger.quiet unreporting (by rw [shown, nothing]), fun alive => ?_, fun gone => ?_⟩
    · rw [same.alive] at alive
      rw [same.opened, same.reports, same.dropped, unreported_concat, lastReported_concat,
        dropsOf_concat, unreporting, undropping alive]
      exact standing.live alive
    · rw [same.alive] at gone
      rw [same.opened, same.reports, lastReported_concat, unreporting]
      exact standing.gone gone
  · refine ⟨fun now message pushes => Or.inl ?_, fun now message pushes alive => ?_,
      fun now message pushes drops => ?_, fun now message pushes reports => ?_,
      fun item member disconnected => ?_⟩
    · exact (congrArg ReportThrottle.pending same.reports).trans (closed pushes).2
    · exact absurd ((closed pushes).1.symm.trans alive) Bool.false_ne_true
    · have alive : state.receiverAlive = true := by
        rw [← Bool.not_eq_false]
        intro gone
        exact drops (if_neg (by rw [show (Operated.of sh call acts state).alive = false from gone]; exact Bool.false_ne_true))
      exact absurd (undropping alive) drops
    · exact absurd (unreporting.symm.trans reports) Bool.false_ne_true
    · rw [shown] at member
      exact absurd ((stays item member).symm.trans disconnected) Bool.false_ne_true

/-- The last report, where it is less than the interval ago. -/
theorem recent_report {made : Operated} {now last : Nat}
    (forward : ∀ earlier ∈ trail, ∀ before ∈ earlier.call.reading, before ≤ now)
    (which : lastReported trail = some last) (close : now - last < REPORT_INTERVAL) :
    ∃ report ∈ trail ++ [made], report.reports = true ∧ ∃ reading, report.call.reading = some reading ∧
      reading ≤ now ∧ now < reading + REPORT_INTERVAL := by
  obtain ⟨report, member, reports, reading⟩ := mem_of_lastReported which
  have before := forward report member last reading
  exact ⟨report, List.mem_append_left _ member, reports, last, reading, before, by omega⟩

/-- A message without a receiver: what was pending is taken or waits. -/
theorem pushes_gone {now : Nat} {message : WebSocketMessage} (standing : Standing trail state)
    (gone : state.receiverAlive = false)
    (forward : ∀ earlier ∈ trail, ∀ before ∈ earlier.call.reading, before ≤ now)
    (kept : (Operated.of sh (.pushMessage now message) [.message message, .report now false] state).refused =
      none) :
    let made := Operated.of sh (.pushMessage now message) [.message message, .report now false] state
    Standing (trail ++ [made])
        (Act.applyAll sh [.message message, .report now false] (state, {})).1 ∧
      PromptReports trail made := by
  intro made
  have skipped : State.pushMessageLocked sh message (state, {}) = (state, {}) :=
    State.pushFrames_gone gone [message] {}
  have after : Act.applyAll sh [.message message, .report now false] (state, {}) =
      State.pushReport sh now false (state, {}) :=
    congrArg (State.pushReport sh now false) skipped
  have facts : ((State.pushReport sh now false (state, {})).1.items = state.items ++ [] ∧
      (State.pushReport sh now false (state, {})).1.receiverAlive = false) ∧
      ((State.pushReport sh now false (state, {})).1.dropReports.pending = 0 ∨
        state.open_ = true ∧ (∃ last, lastReported trail = some last ∧ now - last < REPORT_INTERVAL) ∧
        (State.pushReport sh now false (state, {})).1.open_ = true ∧
        (State.pushReport sh now false (state, {})).1.dropReports.lastReport = lastReported trail) := by
    by_cases waits : state.dropReports.Waits now false
    · rw [@State.pushReport_waits sh now false (state, {}) waits]
      refine ⟨⟨(List.append_nil _).symm, gone⟩, ?_⟩
      rcases waits with none | ⟨-, last, which, recent⟩
      · exact Or.inl none
      · refine (standing.gone gone).imp_right fun agrees => ?_
        exact ⟨agrees.1, ⟨last, agrees.2.symm.trans which, recent⟩, agrees.1, agrees.2⟩
    · have refused : (State.pushReport sh now false (state, {})).2.droppedEvent = none := by
        rw [← after]
        exact kept
      obtain ⟨same, items⟩ := @State.pushReport_due sh now false (state, {}) waits refused
      rw [gone] at items
      refine ⟨⟨items, same.alive.trans gone⟩, Or.inl ?_⟩
      rw [same.reports]
  rw [← after] at facts
  obtain ⟨⟨items, stays⟩, settled⟩ := facts
  have shown : made.items = [] := Operated.of_items items
  have unreporting : made.reports = false := by rw [Operated.reports, shown]; rfl
  constructor
  · refine ⟨standing.ledger.quiet unreporting (by rw [shown]; rfl), fun alive => ?_, fun _ => ?_⟩
    · exact absurd (stays.symm.trans alive) Bool.false_ne_true
    · rw [lastReported_concat, unreporting]
      exact settled.imp_right fun recent => recent.2.2
  · refine ⟨fun at_ text pushes => ?_, fun at_ text pushes alive => ?_, fun at_ text pushes drops => ?_,
      fun at_ text pushes reports => ?_, fun item member disconnected => ?_⟩
    · cases pushes
      refine settled.imp_right fun recent => ?_
      obtain ⟨last, which, close⟩ := recent.2.1
      exact recent_report forward which close
    · exact absurd (gone.symm.trans alive) Bool.false_ne_true
    · refine absurd (if_neg ?_) drops
      rw [show made.alive = false from gone]
      exact Bool.false_ne_true
    · exact absurd (unreporting.symm.trans reports) Bool.false_ne_true
    · rw [shown] at member
      cases member

/-- A message put to a queue with a receiver: it is queued or dropped and counted. -/
structure Framed (trail : List Operated) (state : State) (work : State × Outcome)
    (accepted : List WebSocketMessage) (refused : Nat) : Prop where
  one : accepted.length + refused = 1
  items : work.1.items = state.items ++ accepted.map .message
  opened : work.1.open_ = true
  alive : work.1.receiverAlive = true
  throttle : work.1.dropReports =
    { pending := min (unreported trail + refused) U64_MAX, lastReport := lastReported trail }
  dropped : work.1.messagesDropped = (dropsOf trail + refused) % 2 ^ 64

theorem framed (standing : Standing trail state) (alive : state.receiverAlive = true)
    (message : WebSocketMessage) : ∃ accepted refused,
      Framed trail state (State.pushFrames sh [message] (state, {})) accepted refused := by
  obtain ⟨opened, pending, last, total⟩ := standing.live alive
  obtain ⟨accepted, refused, one, -, items, stillOpen, stillAlive, throttle, dropped⟩ :=
    State.pushFrames_counts sh alive [message] {} pending total
  exact ⟨accepted, refused, one, items, stillOpen.trans opened, stillAlive, last ▸ throttle, dropped⟩

variable {made : Operated} {now : Nat} {message : WebSocketMessage} {work : State × Outcome}
  {accepted : List WebSocketMessage} {refused : Nat}

/-- What a message drops is what was refused of it. -/
theorem Framed.drops (framed : Framed trail state work accepted refused)
    (call : made.call = .pushMessage now message) (lives : made.alive = true) {reports : List StreamItem}
    (shown : made.items = accepted.map .message ++ reports) (silent : countMessages reports = 0) :
    made.drops = refused := by
  obtain ⟨-, messages, -, -⟩ := StreamItem.messages_show accepted
  have offered : made.call.offered = 1 := by rw [call]; rfl
  rw [Operated.drops, if_pos lives, offered, shown, countMessages_append, messages, silent]
  have one := framed.one
  omega

/-- The report of a message waits: nothing is pending, or the last report is recent. -/
theorem Framed.waits (framed : Framed trail state work accepted refused) (ledger : Ledger trail)
    (forward : ∀ earlier ∈ trail, ∀ before ∈ earlier.call.reading, before ≤ now)
    (call : made.call = .pushMessage now message) (lives : made.alive = true)
    (shown : made.items = accepted.map .message) (taken : made.pending = work.1.dropReports.pending)
    (waits : work.1.dropReports.Waits now false) :
    Standing (trail ++ [made]) work.1 ∧ PromptReports trail made := by
  obtain ⟨silent, -, nothing, stays⟩ := StreamItem.messages_show accepted
  have unreporting : made.reports = false := by rw [Operated.reports, shown, silent]
  have drops : made.drops = refused :=
    framed.drops call lives (shown.trans (List.append_nil _).symm) rfl
  have left : made.pending = min (unreported (trail ++ [made])) U64_MAX := by
    rw [unreported_concat, unreporting, drops, taken, framed.throttle]
    rfl
  have recent (waiting : made.pending ≠ 0) :
      ∃ last, lastReported trail = some last ∧ now - last < REPORT_INTERVAL := by
    rcases waits with none | ⟨-, found, which, close⟩
    · exact absurd (taken.trans none) waiting
    · rw [framed.throttle] at which
      exact ⟨found, which, close⟩
  constructor
  · refine ⟨ledger.quiet unreporting (by rw [shown, nothing]), fun _ => ⟨framed.opened, ?_, ?_, ?_⟩,
      fun gone => ?_⟩
    · rw [← taken, left]
    · rw [framed.throttle, lastReported_concat, unreporting]
      rfl
    · rw [framed.dropped, dropsOf_concat, drops]
    · exact absurd (gone.symm.trans framed.alive) Bool.false_ne_true
  · refine ⟨fun at_ text pushes => ?_, fun _ _ _ _ => left, fun at_ text pushes dropped none => ?_,
      fun at_ text pushes reports => ?_, fun item member disconnected => ?_⟩
    · cases call.symm.trans pushes
      by_cases empty : made.pending = 0
      · exact Or.inl empty
      obtain ⟨found, which, close⟩ := recent empty
      exact Or.inr (recent_report forward which close)
    · have waiting : made.pending ≠ 0 := by
        rw [left, unreported_concat, unreporting]
        simp only [Bool.false_eq_true, if_false]
        have bound : 0 < U64_MAX := by decide
        omega
      obtain ⟨found, which, -⟩ := recent waiting
      obtain ⟨report, member, reports, -⟩ := mem_of_lastReported which
      exact absurd ((none report member).symm.trans reports) Bool.false_ne_true
    · exact absurd (unreporting.symm.trans reports) Bool.false_ne_true
    · rw [shown] at member
      exact absurd ((stays item member).symm.trans disconnected) Bool.false_ne_true

/-- The report of a message is due: it carries what was outstanding, and a dropped message's comes
alone. -/
theorem Framed.due (framed : Framed trail state work accepted refused) (ledger : Ledger trail)
    (forward : ∀ earlier ∈ trail, ∀ before ∈ earlier.call.reading, before ≤ now)
    (call : made.call = .pushMessage now message) (lives : made.alive = true) {after : State}
    (shown : made.items = accepted.map .message ++ [.event (.messagesDropped
      (min (unreported trail + refused) U64_MAX) ((dropsOf trail + refused) % 2 ^ 64))])
    (taken : made.pending = after.dropReports.pending)
    (same : { work.1 with dropReports := { pending := 0, lastReport := some now } }.SameDrops after)
    (due : ¬ work.1.dropReports.Waits now false) :
    Standing (trail ++ [made]) after ∧ PromptReports trail made := by
  obtain ⟨silent, -, nothing, stays⟩ := StreamItem.messages_show accepted
  have reading : made.call.reading = some now := by rw [call]; rfl
  have reporting : made.reports = true := by
    rw [Operated.reports, shown, List.any_append]
    exact Bool.or_true _
  have drops : made.drops = refused := framed.drops call lives shown rfl
  have empty : made.pending = 0 := taken.trans (congrArg ReportThrottle.pending same.reports)
  constructor
  · refine ⟨ledger.reports reporting reading forward ?_, fun _ => ?_, fun gone => ?_⟩
    · rw [shown, List.map_append, List.sum_append, nothing, drops]
      simp [StreamItem.reported]
    · rw [same.opened, same.reports, same.dropped, unreported_concat, lastReported_concat, dropsOf_concat,
        if_pos reporting, if_pos reporting, reading, drops]
      exact ⟨framed.opened, rfl, rfl, framed.dropped⟩
    · rw [same.alive] at gone
      exact absurd (gone.symm.trans framed.alive) Bool.false_ne_true
  · refine ⟨fun _ _ _ => Or.inl empty, fun _ _ _ _ => ?_, fun at_ text pushes dropped none => ?_,
      fun at_ text pushes _ => ⟨?_, fun earlier member reports => ?_⟩, fun item member disconnected => ?_⟩
    · rw [empty, unreported_concat, if_pos reporting]
      rfl
    · have length := framed.one
      have one : refused = 1 := by omega
      have alone : accepted = [] := List.length_eq_zero_iff.mp (by omega)
      rw [shown, dropsOf_concat, drops, one, alone]
      rfl
    · rw [shown, List.countP_append]
      have zero : (accepted.map StreamItem.message).countP isDropReport = 0 := by
        rw [List.countP_eq_zero]
        intro item member
        rw [List.any_eq_false] at silent
        exact silent item member
      rw [zero]
      rfl
    · cases call.symm.trans pushes
      obtain ⟨before, latest, read, which, order⟩ := ledger.latest earlier member reports
      refine ⟨before, read, ?_⟩
      by_contra near
      refine due (Or.inr ⟨rfl, latest, ?_, ?_⟩)
      · rw [framed.throttle]
        exact which
      · have positive : 0 < REPORT_INTERVAL := by decide
        omega
    · rw [shown] at member
      rcases List.mem_append.mp member with member | member
      · exact absurd ((stays item member).symm.trans disconnected) Bool.false_ne_true
      · rw [List.mem_singleton.mp member] at disconnected
        cases disconnected

/-- A message with a receiver: it is queued or dropped, and a report is made or waits. -/
theorem pushes_live (standing : Standing trail state) (alive : state.receiverAlive = true)
    (forward : ∀ earlier ∈ trail, ∀ before ∈ earlier.call.reading, before ≤ now)
    (kept : (Operated.of sh (.pushMessage now message) [.message message, .report now false] state).refused =
      none) :
    let made := Operated.of sh (.pushMessage now message) [.message message, .report now false] state
    Standing (trail ++ [made])
        (Act.applyAll sh [.message message, .report now false] (state, {})).1 ∧
      PromptReports trail made := by
  intro made
  obtain ⟨accepted, refused, framed⟩ := @framed sh _ _ standing alive message
  generalize middle : State.pushFrames sh [message] (state, {}) = work at framed
  have after : Act.applyAll sh [.message message, .report now false] (state, {}) =
      State.pushReport sh now false work := congrArg (State.pushReport sh now false) middle
  by_cases waits : work.1.dropReports.Waits now false
  · rw [State.pushReport_waits waits] at after
    have shown : made.items = accepted.map .message :=
      Operated.of_items (by rw [after]; exact framed.items)
    rw [after]
    exact framed.waits standing.ledger forward rfl alive shown
      (congrArg (fun work : State × Outcome => work.1.dropReports.pending) after) waits
  · have unrefused : (State.pushReport sh now false work).2.droppedEvent = none := by
      rw [← after]
      exact kept
    obtain ⟨same, items⟩ := State.pushReport_due waits unrefused
    rw [← after] at same items
    rw [framed.items, framed.alive, List.append_assoc, framed.throttle, framed.dropped] at items
    exact framed.due standing.ledger forward rfl alive (Operated.of_items items) rfl same waits

/-- The `Disconnected`: what was outstanding is reported right before it. -/
theorem loses {client : Client} {first : List Act} {now : Nat} {disconnect : Disconnect}
    (standing : Standing trail state) (plain : ∀ act ∈ first, act.IsPlain)
    (claims : call.claims client = true) (reading : call.reading = some now)
    (forward : ∀ earlier ∈ trail, ∀ before ∈ earlier.call.reading, before ≤ now)
    (kept : (Operated.of sh call (first ++ QueueCall.loseActs now disconnect) state).refused = none) :
    let made := Operated.of sh call (first ++ QueueCall.loseActs now disconnect) state
    ((∀ item ∈ made.items, item.isDisconnected = false) → Standing (trail ++ [made])
        (Act.applyAll sh (first ++ QueueCall.loseActs now disconnect) (state, {})).1) ∧
      PromptReports trail made := by
  intro made
  obtain ⟨-, offered, other⟩ := QueueCall.other_of_claims claims
  obtain ⟨same, before, items, quiet⟩ := Act.plain_applyAll sh plain (state, {})
  obtain ⟨silent, -, nothing, stays⟩ := StreamItem.plain_shows quiet
  generalize started : Act.applyAll sh first (state, {}) = begun at same items
  have after : Act.applyAll sh (first ++ QueueCall.loseActs now disconnect) (state, {}) =
      State.pushDisconnected sh now disconnect begun := by
    rw [← started]
    exact List.foldl_append
  have closing : made.refused = (State.pushDisconnected sh now disconnect begun).2.droppedEvent :=
    congrArg (fun work : State × Outcome => work.2.droppedEvent) after
  obtain ⟨lives, settled, last⟩ := State.pushDisconnected_leaves (closing.symm.trans kept)
  rw [← after] at lives settled last
  rw [items, same.alive, same.reports, same.dropped, List.append_assoc] at last
  have shown : made.items = before ++ queuedFor state.receiverAlive
      ((if state.dropReports.pending = 0 then []
        else [.event (.messagesDropped state.dropReports.pending state.messagesDropped)]) ++
      [.event disconnect.event]) := Operated.of_items last
  constructor
  · intro unended
    have gone : state.receiverAlive = false := by
      rw [← Bool.not_eq_true]
      intro alive
      have ends := unended (.event disconnect.event) (by rw [shown, alive]; simp [queuedFor])
      cases ends
    have plainItems : made.items = before := by
      rw [shown, gone]
      exact List.append_nil before
    have unreporting : made.reports = false := by rw [Operated.reports, plainItems, silent]
    refine ⟨standing.ledger.quiet unreporting (by rw [plainItems, nothing]), fun alive => ?_, fun _ => ?_⟩
    · rw [lives, same.alive] at alive
      exact absurd (gone.symm.trans alive) Bool.false_ne_true
    · exact Or.inl settled
  · refine ⟨fun at_ text pushes => absurd pushes (other at_ text),
      fun at_ text pushes => absurd pushes (other at_ text),
      fun at_ text pushes => absurd pushes (other at_ text),
      fun at_ text pushes => absurd pushes (other at_ text), fun item member disconnected => ?_⟩
    have alive : state.receiverAlive = true := by
      rw [← Bool.not_eq_false]
      intro gone
      rw [shown, gone] at member
      rcases List.mem_append.mp member with member | member
      · exact absurd ((stays item member).symm.trans disconnected) Bool.false_ne_true
      · cases member
    obtain ⟨-, pending, -, total⟩ := standing.live alive
    have outstanding := outstandingReport_of_pending pending total
    have here : made.items = before ++ (outstandingReport trail ++ [.event disconnect.event]) := by
      rw [shown, alive, outstanding]
      rfl
    have isLast : item = .event disconnect.event := by
      rw [here] at member
      rcases List.mem_append.mp member with member | member
      · exact absurd ((stays item member).symm.trans disconnected) Bool.false_ne_true
      rcases List.mem_append.mp member with member | member
      · exact absurd ((outstandingReport_going member).symm.trans disconnected) Bool.false_ne_true
      · exact List.mem_singleton.mp member
    have drops : made.drops = 0 := by
      rw [Operated.drops, show made.call.offered = 0 from offered, Nat.zero_sub, ite_self]
    have reports : made.reports = !decide (unreported trail = 0) := by
      rw [Operated.reports, here, List.any_append, silent, List.any_append, outstandingReport_any]
      exact Bool.or_false _
    have carries : (made.items.map StreamItem.reported).sum = min (unreported trail) U64_MAX := by
      rw [here, List.map_append, List.sum_append, nothing, List.map_append, List.sum_append,
        outstandingReport_sum, Nat.zero_add]
      rfl
    have nothingLeft : unreported (trail ++ [made]) = 0 := by
      rw [unreported_concat, reports, drops]
      by_cases empty : unreported trail = 0 <;> simp [empty]
    have books : Ledger (trail ++ [made]) := by
      by_cases empty : unreported trail = 0
      · refine standing.ledger.quiet ?_ ?_
        · rw [reports, decide_eq_true empty]
          rfl
        · rw [carries, empty]
          rfl
      · refine standing.ledger.reports ?_ reading forward ?_
        · rw [reports, decide_eq_false empty]
          rfl
        · rw [carries, drops, Nat.add_zero]
    refine ⟨⟨before, quiet, ?_⟩, nothingLeft, fun small => ?_⟩
    · rw [isLast]
      exact here
    · have sum := books.carried small
      rwa [nothingLeft, Nat.add_zero] at sum

/-- An accepted handshake of a connection just started: its frames are queued or dropped, and nothing has
been reported. -/
theorem opens {reconnectedAt : Option Nat} {data : Value} {frames : List WebSocketMessage}
    (alive : state.receiverAlive = true) (unused : state.dropReports = {})
    (zero : state.messagesDropped = 0) (offered : call.offered = frames.length) :
    let acts := .stamp reconnectedAt :: QueueCall.openActs sh data frames
    (Operated.of sh call acts state).refused = none →
      Standing [Operated.of sh call acts state] (Act.applyAll sh acts (state, {})).1 := by
  intro acts kept
  obtain ⟨opened, isOpened⟩ : ∃ opened, opened =
      Act.opens.apply sh ((Act.stamp reconnectedAt).apply sh (state, {})) := ⟨_, rfl⟩
  obtain ⟨up, lives, throttle, count, queued⟩ : opened.1.open_ = true ∧
      opened.1.receiverAlive = true ∧ opened.1.dropReports = {} ∧ opened.1.messagesDropped = 0 ∧
      opened.1.items = state.items := by
    rw [isOpened]
    exact ⟨rfl, alive, unused, zero, rfl⟩
  obtain ⟨told, isTold⟩ : ∃ told, told =
      State.pushEvent sh (.authenticated data (authFrame sh frames)) opened := ⟨_, rfl⟩
  have same : opened.1.SameDrops told.1 := by
    rw [isTold]
    exact State.pushEvent_sameDrops sh _ opened
  have after : Act.applyAll sh acts (state, {}) = State.pushFrames sh frames told := by
    rw [isTold, isOpened]
    exact Act.applyAll_messages sh frames _
  have pending : told.1.dropReports.pending = min 0 U64_MAX := by
    rw [same.reports, throttle, Nat.zero_min]
  have dropped : told.1.messagesDropped = 0 % 2 ^ 64 := same.dropped.trans count
  obtain ⟨accepted, refused, length, quiet, items, stillOpen, stillAlive, reports, total⟩ :=
    State.pushFrames_counts sh (same.alive.trans lives) frames told.2 pending dropped
  rw [show (told.1, told.2) = told from rfl, ← after] at quiet items stillOpen stillAlive reports total
  have toldItems : told.1.items = state.items ++ [.event (.authenticated data (authFrame sh frames))] := by
    have told := quiet.symm.trans kept
    rw [isTold] at told ⊢
    rw [State.pushEvent_items told, lives, queued]
    rfl
  obtain ⟨silent, messages, nothing, -⟩ := StreamItem.messages_show accepted
  generalize isMade : Operated.of sh call acts state = made
  have shown : made.items =
      .event (.authenticated data (authFrame sh frames)) :: accepted.map .message := by
    rw [← isMade]
    refine Operated.of_items ?_
    rw [items, toldItems, List.append_assoc]
    rfl
  have unreporting : made.reports = false := by
    rw [Operated.reports, shown, List.any_cons, silent]
    rfl
  have drops : made.drops = refused := by
    have which : made.call = call ∧ made.alive = true := by
      rw [← isMade]
      exact ⟨rfl, alive⟩
    rw [Operated.drops, if_pos which.2, which.1, offered, shown, countMessages_event, messages]
    omega
  have unreported_one : unreported [made] = refused := by
    have concat := unreported_concat [] made
    rw [unreporting, drops] at concat
    exact concat.trans (Nat.zero_add refused)
  have lastReported_one : lastReported [made] = none := by
    have concat := lastReported_concat [] made
    rw [unreporting] at concat
    exact concat
  have dropsOf_one : dropsOf [made] = refused := by
    have concat := dropsOf_concat [] made
    rw [drops] at concat
    exact concat.trans (Nat.zero_add refused)
  refine ⟨?_, fun _ => ?_, fun gone => ?_⟩
  · have empty : Ledger [] :=
      { latest := fun _ member => by cases member
        carried := fun _ => rfl }
    refine empty.quiet unreporting ?_
    rw [shown, List.map_cons, List.sum_cons, nothing]
    rfl
  · rw [unreported_one, lastReported_one, dropsOf_one, stillOpen, same.opened, up, reports, total,
      same.reports, throttle, Nat.zero_add]
    exact ⟨rfl, rfl, rfl, rfl⟩
  · exact absurd (gone.symm.trans stillAlive) Bool.false_ne_true

end Standing

/-! ### Every run -/

/-- `past` is what has happened since `opening` on the connection it reported authenticated, which is
neither reported closed nor replaced. -/
structure OnConnection (log : List Operated) (opening : Operated) (past : List Operated) : Prop where
  split : ∃ earlier, log = earlier ++ opening :: past
  accepts : opening.call.acceptedFrames.isSome = true
  opens : ∃ item ∈ opening.items, item.isAuthenticated = true
  same : ∀ made ∈ past, made.call ≠ .startConnection ∧ ∀ item ∈ made.items, item.isDisconnected = false

namespace OnConnection

variable {log past : List Operated} {opening made : Operated}

/-- A connection of a longer log was opened by its last operation, or is one of the log before that
operation. -/
theorem concat_cases (one : OnConnection (log ++ [made]) opening past) :
    (opening = made ∧ past = []) ∨ ∃ before, past = before ++ [made] ∧ OnConnection log opening before := by
  obtain ⟨⟨earlier, split⟩, accepts, opens, same⟩ := one
  induction past using List.reverseRecOn with
  | nil =>
    obtain ⟨-, last⟩ := List.append_inj' split rfl
    cases last
    exact Or.inl ⟨rfl, rfl⟩
  | append_singleton before last _ =>
    have reassociated : log ++ [made] = (earlier ++ opening :: before) ++ [last] := by simpa using split
    obtain ⟨rfl, equal⟩ := List.append_inj' reassociated rfl
    cases equal
    exact Or.inr ⟨before, rfl, ⟨earlier, rfl⟩, accepts, opens, fun found member =>
      same found (List.mem_append_left _ member)⟩

/-- No verdict is awaited on a connection. -/
theorem answered (one : OnConnection log opening past) : awaitsAnswer log = false := by
  obtain ⟨⟨earlier, rfl⟩, accepts, -, same⟩ := one
  have closed (started : Bool) : opening.call.awaits started = false := by
    have verdict : opening.call.isVerdict = true := by rw [QueueCall.isVerdict, accepts, Bool.true_or]
    have goesOn : opening.call.awaits started = (started && !opening.call.isVerdict) := by
      cases called : opening.call <;> first | rfl | (rw [called] at accepts; cases accepts)
    rw [goesOn, verdict]
    exact Bool.and_false started
  have stays : ∀ rest : List Operated, (∀ made ∈ rest, made.call ≠ .startConnection) →
      rest.foldl (fun started made => made.call.awaits started) false = false := by
    intro rest others
    induction rest with
    | nil => rfl
    | cons made rest ih =>
      have here : made.call.awaits false = false := by
        have other := others made List.mem_cons_self
        cases called : made.call <;> first | rfl | exact absurd called other
      rw [List.foldl_cons, here]
      exact ih fun later member => others later (List.mem_cons_of_mem _ member)
  rw [awaitsAnswer, List.foldl_append, List.foldl_cons, closed]
  exact stays past fun made member => (same made member).1

end OnConnection

/-- Where no connection has been opened since the last `startConnection`. -/
structure State.Unused (state : State) : Prop where
  closed : state.open_ = false
  reports : state.dropReports = {}
  dropped : state.messagesDropped = 0

theorem State.SameDrops.unused {before after : State} (same : before.SameDrops after)
    (unused : before.Unused) : after.Unused :=
  ⟨same.opened.trans unused.closed, same.reports.trans unused.reports, same.dropped.trans unused.dropped⟩

namespace QueueCall.Program

variable {sh : Shared} {client : Client} {call : QueueCall} {acts : List Act}

/-- Before a verdict, nothing is counted or reported. -/
theorem unused (program : call.Program sh client acts) (verdict : call.isVerdict = false)
    (unused : client.stream.Unused) : (Act.applyAll sh acts (client.stream, {})).1.Unused := by
  cases program with
  | plain _ plain _ => exact (Act.plain_applyAll sh plain (client.stream, {})).1.unused unused
  | restarts => exact ⟨rfl, rfl, rfl⟩
  | pushes now message _ opened => exact absurd (unused.closed.symm.trans opened) Bool.false_ne_true
  | accepts reconnectedAt data frames accepts _ =>
    rw [isVerdict, accepts] at verdict
    cases verdict
  | rejects _ rejects =>
    rw [isVerdict, rejects, Bool.or_true] at verdict
    cases verdict
  | loses first now disconnect plain _ _ =>
    have begun := (Act.plain_applyAll sh plain (client.stream, {})).1.unused unused
    obtain ⟨closed, reports, dropped⟩ := State.pushDisconnected_settled sh now disconnect
      (congrArg ReportThrottle.pending begun.reports)
    have after : Act.applyAll sh (first ++ loseActs now disconnect) (client.stream, {}) =
        State.pushDisconnected sh now disconnect (Act.applyAll sh first (client.stream, {})) :=
      List.foldl_append
    rw [after]
    exact ⟨closed, reports.trans begun.reports, dropped.trans begun.dropped⟩

/-- What an operation does on an open connection. -/
theorem standing {trail : List Operated} (program : call.Program sh client acts)
    (standing : Standing trail client.stream) (verdict : call.isVerdict = false)
    (forward : ∀ earlier ∈ trail, ∀ before ∈ earlier.call.reading, ∀ now ∈ call.reading, before ≤ now)
    (kept : (Operated.of sh call acts client.stream).refused = none) :
    (call ≠ .startConnection →
      (∀ item ∈ (Operated.of sh call acts client.stream).items, item.isDisconnected = false) →
      Standing (trail ++ [Operated.of sh call acts client.stream])
        (Act.applyAll sh acts (client.stream, {})).1) ∧
    PromptReports trail (Operated.of sh call acts client.stream) := by
  cases program with
  | plain _ plain other =>
    obtain ⟨after, prompt⟩ := standing.plain sh plain other verdict
    exact ⟨fun _ _ => after, prompt⟩
  | restarts starts =>
    subst starts
    have never (now : Nat) (message : WebSocketMessage) : startConnection ≠ .pushMessage now message := by
      intro same
      cases same
    refine ⟨fun other => absurd rfl other, fun now message pushes => absurd pushes (never now message),
      fun now message pushes => absurd pushes (never now message),
      fun now message pushes => absurd pushes (never now message),
      fun now message pushes => absurd pushes (never now message), fun item member => ?_⟩
    have shown : (Operated.of sh .startConnection [.restart] client.stream).items = [] :=
      List.drop_length
    rw [shown] at member
    cases member
  | pushes now message pushes _ =>
    subst pushes
    have order : ∀ earlier ∈ trail, ∀ before ∈ earlier.call.reading, before ≤ now :=
      fun earlier member before read => forward earlier member before read now rfl
    cases alive : client.stream.receiverAlive with
    | true =>
      obtain ⟨after, prompt⟩ := standing.pushes_live alive order kept
      exact ⟨fun _ _ => after, prompt⟩
    | false =>
      obtain ⟨after, prompt⟩ := standing.pushes_gone alive order kept
      exact ⟨fun _ _ => after, prompt⟩
  | accepts reconnectedAt data frames accepts _ =>
    rw [isVerdict, accepts] at verdict
    cases verdict
  | rejects _ rejects =>
    rw [isVerdict, rejects, Bool.or_true] at verdict
    cases verdict
  | loses first now disconnect plain claims reading =>
    have order : ∀ earlier ∈ trail, ∀ before ∈ earlier.call.reading, before ≤ now :=
      fun earlier member before read => forward earlier member before read now reading
    obtain ⟨after, prompt⟩ := standing.loses plain claims reading order kept
    exact ⟨fun _ => after, prompt⟩

/-- What an accepted handshake leaves, if its `Authenticated` was queued. -/
theorem opening (program : call.Program sh client acts) (unused : client.stream.Unused)
    (accepts : call.acceptedFrames.isSome = true)
    (opens : ∃ item ∈ (Operated.of sh call acts client.stream).items, item.isAuthenticated = true)
    (kept : (Operated.of sh call acts client.stream).refused = none) :
    Standing [Operated.of sh call acts client.stream] (Act.applyAll sh acts (client.stream, {})).1 := by
  obtain ⟨item, member, authenticated⟩ := opens
  cases program with
  | plain _ plain _ =>
    obtain ⟨-, new, items, quiet⟩ := Act.plain_applyAll sh plain (client.stream, {})
    rw [Operated.of_items items] at member
    have here := quiet item member
    simp [StreamItem.isPlain, authenticated] at here
  | restarts starts =>
    subst starts
    cases accepts
  | pushes now message pushes _ =>
    subst pushes
    cases accepts
  | accepts reconnectedAt data frames _ offered =>
    refine Standing.opens ?_ unused.reports unused.dropped offered kept
    rw [← Bool.not_eq_false]
    intro gone
    have untold : ∀ work : State × Outcome, work.1.receiverAlive = false →
        State.pushEvent sh (.authenticated data (authFrame sh frames)) work = work :=
      fun work dead => if_pos (by simpa using dead)
    have nothing : (Act.applyAll sh (.stamp reconnectedAt :: openActs sh data frames)
        (client.stream, {})).1.items = client.stream.items ++ [] := by
      simp only [openActs, Act.applyAll_cons, Act.applyAll_messages, Act.apply]
      rw [untold _ gone, List.append_nil, State.pushFrames_gone]
      exact gone
    rw [Operated.of_items nothing] at member
    cases member
  | rejects _ rejects =>
    cases call <;> first | cases accepts; done | cases rejects
  | loses first now disconnect _ claims _ =>
    have verdict := (other_of_claims claims).1
    rw [isVerdict, accepts, Bool.true_or] at verdict
    cases verdict

end QueueCall.Program

namespace ReceiverRun

/-- Where a run has come: what is unused between a `startConnection` and its verdict, how the queue stands
on the open connection, and the reports so far. -/
structure Prompt (run : ReceiverRun) : Prop where
  unused : awaitsAnswer run.log = true → run.client.stream.Unused
  standing : ∀ opening past, OnConnection run.log opening past →
    Standing (opening :: past) run.client.stream
  prompt : Throughout (fun before made => ∀ opening past, OnConnection before opening past →
    PromptReports (opening :: past) made) run.log

/-- `Prompt`, where no event has been refused. -/
def PromptSoFar (run : ReceiverRun) : Prop := (∀ made ∈ run.log, made.refused = none) → run.Prompt

variable {sh : Shared} {run next : ReceiverRun}

theorem Prompt.start : Prompt {} := by
  refine ⟨fun awaits => ?_, fun opening past one => ?_, .nil⟩
  · cases awaits
  obtain ⟨⟨earlier, split⟩, -⟩ := one
  cases List.append_ne_nil_of_right_ne_nil earlier (List.cons_ne_nil opening past) split.symm

/-- What happens to the consumer's end leaves the connections as they were. -/
theorem Prompt.consumer (prompt : run.Prompt) {stream : State}
    (opened : stream.open_ = run.client.stream.open_)
    (reports : stream.dropReports = run.client.stream.dropReports)
    (dropped : stream.messagesDropped = run.client.stream.messagesDropped)
    (alive : stream.receiverAlive = true → run.client.stream.receiverAlive = true) :
    Prompt { run with client := { run.client with stream } } := by
  refine ⟨fun awaits => ?_, fun opening past one => ?_, prompt.prompt⟩
  · obtain ⟨closed, none, zero⟩ := prompt.unused awaits
    exact ⟨opened.trans closed, reports.trans none, dropped.trans zero⟩
  · have before := prompt.standing opening past one
    refine ⟨before.ledger, fun lives => ?_, fun _ => ?_⟩
    · rw [opened, reports, dropped]
      exact before.live (alive lives)
    · rw [opened, reports]
      cases lives : run.client.stream.receiverAlive with
      | true => exact Or.inr ⟨(before.live lives).1, (before.live lives).2.2.1⟩
      | false => exact before.gone lives

theorem Prompt.call {call : QueueCall} (prompt : run.Prompt)
    (orderly : (ReceiverStep.call call).Orderly run) (stepped : run.step sh (.call call) = some next)
    (kept : ∀ made ∈ next.log, made.refused = none) : next.Prompt := by
  cases stepped
  obtain ⟨proper, verdicts, forward⟩ := orderly
  have program := @QueueCall.program sh run.client call proper
  have after : (call.apply sh run.client).stream =
      (Act.applyAll sh (call.acts sh run.client) (run.client.stream, {})).1 :=
    QueueCall.stream_apply sh run.client call
  have unrefused := kept _ (List.mem_append_right _ List.mem_cons_self)
  have unanswered {started : Bool} (other : call ≠ .startConnection) :
      call.awaits started = (started && !call.isVerdict) := by
    cases call <;> first | rfl | exact absurd rfl other
  have quiet {opening : Operated} {past : List Operated} (one : OnConnection run.log opening past) :
      call.isVerdict = false := by
    rw [← Bool.not_eq_true]
    exact fun verdict => Bool.false_ne_true (one.answered.symm.trans (verdicts verdict))
  have before {opening : Operated} {past : List Operated} (one : OnConnection run.log opening past) :
      ∀ earlier ∈ opening :: past, ∀ before ∈ earlier.call.reading, ∀ now ∈ call.reading, before ≤ now := by
    obtain ⟨⟨older, split⟩, -⟩ := one
    intro earlier member
    refine forward earlier ?_
    rw [split]
    exact List.mem_append_right older member
  refine ⟨fun awaits => ?_, fun opening past one => ?_, prompt.prompt.concat fun opening past one => ?_⟩
  · rw [awaitsAnswer, List.foldl_append, List.foldl_cons, List.foldl_nil] at awaits
    rw [after]
    by_cases starts : call = .startConnection
    · subst starts
      exact ⟨rfl, rfl, rfl⟩
    · have still : call.awaits (awaitsAnswer run.log) = true := awaits
      rw [unanswered starts, Bool.and_eq_true, Bool.not_eq_true'] at still
      exact program.unused still.2 (prompt.unused still.1)
  · rw [after]
    rcases one.concat_cases with ⟨rfl, rfl⟩ | ⟨earlier, rfl, older⟩
    · have accepts : call.acceptedFrames.isSome = true := one.accepts
      have awaits := verdicts (by rw [QueueCall.isVerdict, accepts, Bool.true_or])
      exact program.opening (prompt.unused awaits) accepts one.opens unrefused
    · obtain ⟨other, stays⟩ := one.same _ (List.mem_append_right _ List.mem_cons_self)
      exact (program.standing (prompt.standing _ _ older) (quiet older) (before older) unrefused).1
        other stays
  · exact (program.standing (prompt.standing _ _ one) (quiet one) (before one) unrefused).2

theorem PromptSoFar.step {label : ReceiverStep} (soFar : run.PromptSoFar) (orderly : label.Orderly run)
    (stepped : run.step sh label = some next) : next.PromptSoFar := by
  intro kept
  cases label with
  | call call =>
    have before : run.Prompt := by
      cases stepped
      exact soFar fun made member => kept made (List.mem_append_left _ member)
    exact before.call orderly stepped kept
  | pop =>
    obtain ⟨⟨item, rest⟩, took, rfl⟩ := Option.map_eq_some_iff.mp stepped
    have same : rest.open_ = run.client.stream.open_ ∧ rest.dropReports = run.client.stream.dropReports ∧
        rest.messagesDropped = run.client.stream.messagesDropped ∧
        rest.receiverAlive = run.client.stream.receiverAlive := by
      unfold State.pop at took
      split at took <;> cases took <;> exact ⟨rfl, rfl, rfl, rfl⟩
    exact (soFar kept).consumer same.1 same.2.1 same.2.2.1 fun alive => same.2.2.2.symm.trans alive
  | dropReceiver =>
    cases stepped
    exact (soFar kept).consumer rfl rfl rfl fun alive => by cases alive

end ReceiverRun

/-- **Drops are reported promptly and not too often.** In every run in which the clock readings do not
decrease, each verdict answers its own `startConnection` and no event is refused, the operations of a
connection, from its `Authenticated` to its `Disconnected`, report its drops promptly. -/
theorem drops_reported {sh : Shared} {run : ReceiverRun}
    (reached : (receiverRuns sh).ReachableUnder (fun run label _ => label.Orderly run) run)
    (nothing : ∀ made ∈ run.log, made.refused = none) :
    Throughout (fun before made => ∀ opening past, OnConnection before opening past →
      PromptReports (opening :: past) made) run.log := by
  have base (first : ReceiverRun) (starts : (receiverRuns sh).start first) : first.PromptSoFar := by
    cases starts
    exact fun _ => .start
  have keeps (before : ReceiverRun) (label : ReceiverStep) (after : ReceiverRun)
      (soFar : before.PromptSoFar) (stepped : (receiverRuns sh).step before label = some after)
      (orderly : label.Orderly before) : after.PromptSoFar := soFar.step orderly stepped
  exact (reached.invariant base keeps nothing).prompt

/-- The second frame of the handshake does not fit; of the messages, the first two drops are reported
one interval apart, the third at the close. -/
def reportedBurst : List ReceiverStep :=
  [.call .startConnection, .call (.authenticated .null [{ event := "a" }, { event := "b" }]),
    .call (.pushMessage 0 { event := "c" }), .call (.pushMessage 1 { event := "d" }),
    .call (.pushMessage 1000000000 { event := "e" }), .call (.pushMessage 1000000001 { event := "f" }),
    .call (.connectionLost 1000000002 none "reset" .network true)]

theorem drops_reported_reportedBurst : ∃ run,
    (receiverRuns oneMessageStream).runUnder (fun run label => label.Orderly run) {} reportedBurst =
        some run ∧
      (run.log.flatMap Operated.items).map StreamItem.reported = [0, 0, 2, 2, 1, 0] ∧
      Throughout (fun before made => ∀ opening past, OnConnection before opening past →
        PromptReports (opening :: past) made) run.log := by
  have runs : ∃ run,
      (receiverRuns oneMessageStream).runUnder (fun run label => label.Orderly run) {} reportedBurst =
        some run ∧ (∀ made ∈ run.log, made.refused = none) ∧
      (run.log.flatMap Operated.items).map StreamItem.reported = [0, 0, 2, 2, 1, 0] := by
    refine ⟨_, rfl, ?_, rfl⟩
    simp only [Operated.of, List.nil_append, List.cons_append, List.forall_mem_cons]
    exact ⟨rfl, rfl, rfl, rfl, rfl, rfl, rfl, fun _ member => by cases member⟩
  obtain ⟨run, ran, nothing, shown⟩ := runs
  have reached := reachableUnder_of_run reportedBurst (.start rfl) ran
  exact ⟨run, ran, shown, drops_reported reached nothing⟩

end FugleMarketdata
