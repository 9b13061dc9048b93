/-
**Every item and every drop is accounted for.** The queue under any operations in any order, while the
receiver lives.

* `Accounts` — how the counters of the queue agree with its items and with what was refused;
* `queue_accounts` — they do in every run: what was accepted is what was popped and what is queued, in
  order, each kind is refused by its own allowance alone, and the drops reported and pending are the
  drops made, up to the size of the counters;
* `counters_overflow` — with 2^64 drops on one connection they are not.
-/

import FugleMarketdata.Websocket.QueueCalls

namespace FugleMarketdata

open StepMachines StepMachine

/-- How many of the items are messages, and how many are events. -/
def countMessages (items : List StreamItem) : Nat := items.countP StreamItem.isMessage

def countEvents (items : List StreamItem) : Nat := items.countP fun item => !item.isMessage

@[simp] theorem countMessages_message (message : WebSocketMessage) (rest : List StreamItem) :
    countMessages (.message message :: rest) = countMessages rest + 1 :=
  List.countP_cons_of_pos rfl

@[simp] theorem countMessages_event (event : ConnectionEvent) (rest : List StreamItem) :
    countMessages (.event event :: rest) = countMessages rest :=
  List.countP_cons_of_neg Bool.false_ne_true

@[simp] theorem countEvents_message (message : WebSocketMessage) (rest : List StreamItem) :
    countEvents (.message message :: rest) = countEvents rest :=
  List.countP_cons_of_neg Bool.false_ne_true

@[simp] theorem countEvents_event (event : ConnectionEvent) (rest : List StreamItem) :
    countEvents (.event event :: rest) = countEvents rest + 1 :=
  List.countP_cons_of_pos rfl

/-- The drops the reports carry. -/
def reported (reports : List DropReport) : Nat := (reports.map DropReport.dropped).sum

/-- The books of a queue: `popped` and `prior` are what was popped, and accepted before the operation
under way. -/
structure Accounts (sh : Shared) (popped prior : List StreamItem) (state : State) (tally : Tally) :
    Prop where
  alive : state.receiverAlive = true
  items : popped ++ state.items = prior ++ tally.accepted
  messages : state.messages = countMessages state.items
  events : state.events = countEvents state.items
  messageRoom : ∀ capacity, sh.messageCapacity = some capacity → state.messages ≤ capacity
  eventRoom : state.events ≤ sh.eventCapacity
  counter : state.messagesDropped = tally.refused % 2 ^ 64
  pending : tally.refused < 2 ^ 64 →
    reported tally.reports + state.dropReports.pending = tally.refused
  totals : ∀ report ∈ tally.reports,
    report.total = report.refused % 2 ^ 64 ∧ report.refused ≤ tally.refused

namespace Accounts

variable {sh : Shared} {popped prior : List StreamItem} {state : State} {tally : Tally}

/-! ### The acts -/

theorem event (books : Accounts sh popped prior state tally) (event : ConnectionEvent)
    (outcome : Outcome) :
    Accounts sh popped prior (State.pushEvent sh event (state, outcome)).1
      (tally.event sh state event) := by
  obtain ⟨alive, items, messages, events, messageRoom, eventRoom, counter, pending, totals⟩ := books
  by_cases full : state.events ≥ sh.eventCapacity
  · simp only [State.pushEvent, Tally.event, State.eventsFull, alive, full, Bool.not_true,
      Bool.false_eq_true, if_false, if_true, decide_true]
    exact ⟨rfl, items, messages, events, messageRoom, eventRoom, counter, pending, totals⟩
  · simp only [State.pushEvent, Tally.event, State.eventsFull, alive, full, Bool.not_true,
      Bool.false_eq_true, if_false, decide_false]
    refine ⟨rfl, ?_, ?_, ?_, messageRoom, ?_, counter, pending, totals⟩
    · simp only [← List.append_assoc, items]
    · simpa [countMessages, StreamItem.isMessage] using messages
    · simpa [countEvents, StreamItem.isMessage] using events
    · simp only [ge_iff_le, not_le] at full
      exact full

theorem message (books : Accounts sh popped prior state tally) (message : WebSocketMessage)
    (outcome : Outcome) :
    Accounts sh popped prior (State.pushMessageLocked sh message (state, outcome)).1
      (tally.message sh state message) := by
  obtain ⟨alive, items, messages, events, messageRoom, eventRoom, counter, pending, totals⟩ := books
  simp only [State.pushMessageLocked, Tally.message, alive, Bool.not_true, Bool.false_eq_true,
    if_false]
  by_cases full : state.messagesFull sh = true
  · have refuses : (sh.messageCapacity.any fun capacity => decide (state.messages ≥ capacity)) =
        true := full
    simp only [refuses, full, if_true]
    refine ⟨rfl, items, messages, events, messageRoom, eventRoom, ?_, ?_, ?_⟩
    · simp only [bump, counter, Nat.mod_add_mod]
    · intro small
      have small : tally.refused + 1 < 2 ^ 64 := small
      have before := pending (by omega)
      have within : state.dropReports.pending + 1 ≤ U64_MAX := by
        unfold U64_MAX
        omega
      have counted : state.dropReports.count.pending = state.dropReports.pending + 1 :=
        Nat.min_eq_left within
      simp only [counted]
      omega
    · intro report member
      obtain ⟨total, earlier⟩ := totals report member
      exact ⟨total, Nat.le_succ_of_le earlier⟩
  · have admits : (sh.messageCapacity.any fun capacity => decide (state.messages ≥ capacity)) =
        false := Bool.eq_false_iff.mpr full
    simp only [admits, full, Bool.false_eq_true, if_false]
    refine ⟨rfl, ?_, ?_, ?_, ?_, eventRoom, counter, pending, totals⟩
    · simp only [← List.append_assoc, items]
    · simpa [countMessages, StreamItem.isMessage] using messages
    · simpa [countEvents, StreamItem.isMessage] using events
    · intro capacity bounded
      simp only [bounded, Option.any_some, decide_eq_false_iff_not, ge_iff_le, not_le] at admits
      exact admits

theorem report (books : Accounts sh popped prior state tally) (now : Nat) (force : Bool)
    (outcome : Outcome) :
    Accounts sh popped prior (State.pushReport sh now force (state, outcome)).1
      (tally.report sh state now force) := by
  simp only [State.pushReport, Tally.report]
  cases due : state.dropReports.takeDue now force with
  | mk made reports =>
    cases made with
    | none => exact books
    | some dropped =>
      have taken : dropped = state.dropReports.pending ∧ reports.pending = 0 := by
        unfold ReportThrottle.takeDue at due
        split at due
        · cases due
        · simp only at due
          split at due <;> cases due
          exact ⟨rfl, rfl⟩
      obtain ⟨rfl, restarted⟩ := taken
      have kept : Accounts sh popped prior { state with dropReports := reports }
          { tally with
            reports := tally.reports ++ [{
              dropped := state.dropReports.pending
              total := state.messagesDropped
              refused := tally.refused }] } := by
        refine { books with pending := fun small => ?_, totals := fun report member => ?_ }
        · have before := books.pending small
          simp only [reported, List.map_append, List.sum_append, List.map_cons, List.map_nil,
            List.sum_singleton, restarted, Nat.add_zero]
          exact before
        · rcases List.mem_append.mp member with earlier | last
          · exact books.totals report earlier
          · rw [List.mem_singleton.mp last]
            exact ⟨books.counter, Nat.le_refl _⟩
      exact kept.event _ _

/-- Every act keeps the books. -/
theorem act (act : Act) (work : State × Outcome) (tally : Tally)
    (books : Accounts sh popped prior work.1 tally) :
    Accounts sh popped prior (act.apply sh work).1 (tally.act sh work.1 act) := by
  cases act with
  | event queued => exact books.event queued work.2
  | message queued => exact books.message queued work.2
  | report now force => exact books.report now force work.2
  | restart => exact { books with
      counter := rfl
      pending := fun _ => rfl
      totals := fun _ member => by cases member }
  | claim willReconnect => exact { books with }
  | opens => exact { books with }
  | givesUp => exact { books with }
  | stamp reconnectedAt => exact { books with }

/-- An event is refused for the number of events alone, and a message for the number of messages
alone. -/
theorem refusals (books : Accounts sh popped prior state tally) (outcome : Outcome) :
    (∀ event, (State.pushEvent sh event (state, outcome)).1.items =
      if countEvents state.items < sh.eventCapacity then state.items ++ [.event event]
      else state.items) ∧
    (∀ message, (State.pushMessageLocked sh message (state, outcome)).1.items =
      if sh.messageCapacity.all (fun capacity => decide (countMessages state.items < capacity)) then
        state.items ++ [.message message]
      else state.items) := by
  have live : state.receiverAlive = true := books.alive
  refine ⟨fun event => ?_, fun message => ?_⟩
  · rw [← books.events]
    by_cases full : sh.eventCapacity ≤ state.events
    · simp [State.pushEvent, live, full]
    · simp [State.pushEvent, live, full, Nat.lt_of_not_le full]
  · rw [← books.messages]
    cases bound : sh.messageCapacity with
    | none => simp [State.pushMessageLocked, live, bound]
    | some capacity =>
      by_cases full : capacity ≤ state.messages
      · simp [State.pushMessageLocked, live, bound, full]
      · simp [State.pushMessageLocked, live, bound, full, Nat.lt_of_not_le full]

/-! ### Between operations -/

/-- An operation is over: what it had accepted is part of what was accepted before the next. -/
theorem settle (books : Accounts sh popped prior state tally) :
    Accounts sh popped (prior ++ tally.accepted) state { tally with accepted := [] } :=
  { books with items := books.items.trans (List.append_nil _).symm }

theorem pop (books : Accounts sh popped prior state tally) {item : StreamItem} {rest : State}
    (took : state.pop = some (item, rest)) :
    Accounts sh (popped ++ [item]) prior rest tally := by
  obtain ⟨alive, items, messages, events, messageRoom, eventRoom, counter, pending, totals⟩ := books
  unfold State.pop at took
  split at took
  · cases took
  · rename_i message after queued
    cases took
    rw [queued] at items messages events
    simp only [countMessages_message, countEvents_message] at messages events
    refine ⟨alive, ?_, ?_, events, fun capacity bounded => ?_, eventRoom, counter, pending, totals⟩
    · rw [List.append_assoc]
      exact items
    · simp only [messages, Nat.add_sub_cancel]
    · have within := messageRoom capacity bounded
      simp only
      omega
  · rename_i event after queued
    cases took
    rw [queued] at items messages events
    simp only [countMessages_event, countEvents_event] at messages events
    refine ⟨alive, ?_, messages, ?_, messageRoom, ?_, counter, pending, totals⟩
    · rw [List.append_assoc]
      exact items
    · simp only [events, Nat.add_sub_cancel]
    · simp only
      omega

end Accounts

/-! ### Every run -/

namespace QueueRun

variable {sh : Shared} {run next : QueueRun}

/-- The books of a run, between operations. -/
def Accounted (sh : Shared) (run : QueueRun) : Prop :=
  Accounts sh run.popped run.stream run.client.stream { run.tally with accepted := [] }

theorem Accounted.start : Accounted sh {} where
  alive := rfl
  items := rfl
  messages := rfl
  events := rfl
  messageRoom := fun _ _ => Nat.zero_le _
  eventRoom := Nat.zero_le _
  counter := rfl
  pending := fun _ => rfl
  totals := fun _ member => by cases member

theorem Accounted.step {label : QueueStep} (books : run.Accounted sh)
    (stepped : run.step sh label = some next) : next.Accounted sh := by
  cases label with
  | call call =>
    cases stepped
    have kept := (Tally.acts_keep sh (P := Accounts sh run.popped run.stream) Accounts.act
      (call.acts sh run.client) (run.client.stream, {}) _ books).settle
    rw [← QueueCall.stream_apply] at kept
    unfold Accounted stream
    rw [List.flatMap_append, List.flatMap_singleton]
    exact kept
  | pop =>
    obtain ⟨⟨item, rest⟩, took, rfl⟩ := Option.map_eq_some_iff.mp stepped
    exact books.pop took

theorem reachable_accounted (reached : (queueRuns sh).Reachable run) : run.Accounted sh := by
  have base (first : QueueRun) (starts : (queueRuns sh).start first) : first.Accounted sh := by
    cases starts
    exact .start
  exact reached.invariant base fun _ _ _ books stepped => books.step stepped

end QueueRun

/-- **The queue conserves items and accounts for every drop.** In every run the counters are the numbers
of messages and events queued and stay within their allowances; what was popped and what is queued is
what was accepted, in order; at every point of the next operation an event is refused for the number of
events alone and a message for the number of messages alone; and while fewer than 2^64 messages have
been refused on the connection, the drops reported and pending are those refused, as the counter and
each report's `total` say. Beyond that the counter, and with it each `total`, goes on modulo 2^64. -/
theorem queue_accounts {sh : Shared} {run : QueueRun} (reached : (queueRuns sh).Reachable run) :
    let state := run.client.stream
    let tally := run.tally
    (state.messages = countMessages state.items ∧ state.events = countEvents state.items ∧
      (∀ capacity, sh.messageCapacity = some capacity → state.messages ≤ capacity) ∧
      state.events ≤ sh.eventCapacity) ∧
    run.popped ++ state.items = run.stream ∧
    (∀ call done rest, QueueCall.acts sh run.client call = done ++ rest →
      let work := Act.applyAll sh done (state, {})
      (∀ event, (State.pushEvent sh event work).1.items =
        if countEvents work.1.items < sh.eventCapacity then work.1.items ++ [.event event]
        else work.1.items) ∧
      (∀ message, (State.pushMessageLocked sh message work).1.items =
        if sh.messageCapacity.all (fun capacity => decide (countMessages work.1.items < capacity)) then
          work.1.items ++ [.message message]
        else work.1.items)) ∧
    state.messagesDropped = tally.refused % 2 ^ 64 ∧
    (∀ report ∈ tally.reports, report.total = report.refused % 2 ^ 64) ∧
    (tally.refused < 2 ^ 64 →
      reported tally.reports + state.dropReports.pending = tally.refused ∧
      state.messagesDropped = tally.refused ∧
      ∀ report ∈ tally.reports, report.total = report.refused) := by
  intro state tally
  have books := QueueRun.reachable_accounted reached
  refine ⟨⟨books.messages, books.events, books.messageRoom, books.eventRoom⟩, ?_,
    fun call done rest _ => ?_, books.counter, fun report member => (books.totals report member).1,
    fun small => ⟨books.pending small, ?_, fun report member => ?_⟩⟩
  · exact books.items.trans (List.append_nil _)
  · have middle := Tally.acts_keep sh (P := Accounts sh run.popped run.stream) Accounts.act done
      (state, {}) _ books
    exact middle.refusals _
  · exact books.counter.trans (Nat.mod_eq_of_lt small)
  · obtain ⟨total, earlier⟩ := books.totals report member
    exact total.trans (Nat.mod_eq_of_lt (Nat.lt_of_le_of_lt earlier small))

/-- A queue that holds one message. -/
def oneMessageStream : Shared where
  messageCapacity := some 1
  eventCapacity := 64
  toJson := fun _ => ""
  seconds := fun _ => ""

/-- A login whose second frame is refused, the consumer's first read, the close. -/
def oneDrop : List QueueStep :=
  [.call (.authenticated .null [{ event := "a" }, { event := "b" }]), .pop,
    .call (.clientClosed 0 1000 "bye")]

theorem queue_accounts_oneDrop : ∃ run, (queueRuns oneMessageStream).run {} oneDrop = some run ∧
    run.popped.length = 1 ∧ run.tally.refused = 1 ∧
      reported run.tally.reports + run.client.stream.dropReports.pending = 1 := by
  refine ⟨_, rfl, rfl, rfl, ?_⟩
  have reached := reachable_of_run (m := queueRuns oneMessageStream) oneDrop (.init _ rfl) rfl
  exact ((queue_accounts reached).2.2.2.2.2 (by decide)).1

/-! ### Past the counters -/

theorem State.pushReport_keeps (sh : Shared) (now : Nat) (force : Bool) (work : State × Outcome) :
    (State.pushReport sh now force work).1.open_ = work.1.open_ ∧
      (State.pushReport sh now force work).1.messages = work.1.messages := by
  obtain ⟨state, outcome⟩ := work
  simp only [State.pushReport]
  split
  · exact ⟨rfl, rfl⟩
  · simp only [State.pushEvent]
    split
    · exact ⟨rfl, rfl⟩
    split <;> exact ⟨rfl, rfl⟩

theorem Tally.report_refused (sh : Shared) (state : State) (now : Nat) (force : Bool)
    (tally : Tally) : (tally.report sh state now force).refused = tally.refused := by
  unfold Tally.report
  split
  · rfl
  · unfold Tally.event
    split <;> rfl

/-- A message for an open connection and a full queue is one more refused. -/
theorem QueueRun.refuse_one {run next : QueueRun} (now : Nat) (message : WebSocketMessage)
    (alive : run.client.stream.receiverAlive = true) (opened : run.client.stream.open_ = true)
    (full : 1 ≤ run.client.stream.messages)
    (stepped : run.step oneMessageStream (.call (.pushMessage now message)) = some next) :
    next.client.stream.open_ = true ∧ 1 ≤ next.client.stream.messages ∧
      next.tally.refused = run.tally.refused + 1 := by
  cases stepped
  have refuses : run.client.stream.messagesFull oneMessageStream = true := decide_eq_true full
  have any : (oneMessageStream.messageCapacity.any fun capacity =>
      decide (run.client.stream.messages ≥ capacity)) = true := refuses
  have acts : (QueueCall.pushMessage now message).acts oneMessageStream run.client =
      [.message message, .report now false] := if_pos opened
  have pushed : State.pushMessageLocked oneMessageStream message (run.client.stream, {}) =
      ({ run.client.stream with
        dropReports := run.client.stream.dropReports.count
        messagesDropped := bump run.client.stream.messagesDropped }, {}) := by
    simp only [State.pushMessageLocked, alive, any, Bool.not_true, Bool.false_eq_true, if_false,
      if_true]
  simp only [QueueCall.stream_apply, acts, Act.applyAll_cons, Act.applyAll_nil, Act.apply, Tally.acts,
    Tally.act, pushed, Tally.report_refused]
  obtain ⟨kept, queued⟩ := State.pushReport_keeps oneMessageStream now false
    ({ run.client.stream with
      dropReports := run.client.stream.dropReports.count
      messagesDropped := bump run.client.stream.messagesDropped }, {})
  refine ⟨kept.trans opened, Nat.le_trans full (Nat.le_of_eq queued.symm), ?_⟩
  simp only [Tally.message, refuses, if_true]

/-- An open connection can have any number of messages refused. -/
theorem exists_refused (n : Nat) : ∃ run, (queueRuns oneMessageStream).Reachable run ∧
    run.client.stream.open_ = true ∧ 1 ≤ run.client.stream.messages ∧ run.tally.refused = n := by
  induction n with
  | zero =>
    have start : (queueRuns oneMessageStream).Reachable {} := .init _ rfl
    have login := start.next _ (a := .call (.authenticated .null [{ event := "data" }])) rfl
    exact ⟨_, login, rfl, Nat.le_refl 1, rfl⟩
  | succ n ih =>
    obtain ⟨run, reached, opened, full, refused⟩ := ih
    have alive := (QueueRun.reachable_accounted reached).alive
    have stepped := reached.next _ (a := .call (.pushMessage 0 { event := "data" })) rfl
    obtain ⟨stays, queued, counted⟩ :=
      QueueRun.refuse_one 0 { event := "data" } alive opened full rfl
    exact ⟨_, stepped, stays, queued, counted.trans (congrArg (· + 1) refused)⟩

/-- **The counter wraps.** After 2^64 refused messages the counter reads none. -/
theorem counters_overflow : ¬ ∀ run, (queueRuns oneMessageStream).Reachable run →
    reported run.tally.reports + run.client.stream.dropReports.pending = run.tally.refused ∧
      run.client.stream.messagesDropped = run.tally.refused := by
  intro always
  obtain ⟨run, reached, -, -, refused⟩ := exists_refused (2 ^ 64)
  have counter : run.client.stream.messagesDropped = run.tally.refused % 2 ^ 64 :=
    (QueueRun.reachable_accounted reached).counter
  have equal := (always run reached).2
  rw [counter, refused, Nat.mod_self] at equal
  exact absurd equal (by decide)

end FugleMarketdata
