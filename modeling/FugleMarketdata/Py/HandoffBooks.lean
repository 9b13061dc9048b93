/-
**Every message is handed over once.** What the hand-off of `Handoff.lean` does with the messages of the
stream.

* `deliverable` — the messages of a stream that reach a consumer: those of an authenticated connection;
* `Books` — how the records agree with the queue and with the calls in every order;
* `handoff_accounts` — each of them is given to the callbacks, queued or, after a stop, discarded, in order;
  what was queued is what was taken, in order, and what is still there; and a call took the message it came
  to and no other;
* `ended_final` — a call is told that the queue has ended only where everything queued was taken, and
  nothing will be queued again;
* `answered_takes_no_more` — a call that came to something, or whose awaitable was cancelled, takes nothing
  in the rest of the run.
-/

import FugleMarketdata.Py.HandoffWakes

namespace FugleMarketdata

open StepMachines StepMachine Monitors

/-! ### What reaches a consumer -/

/-- Whether a stream has left its connection authenticated. -/
def authenticatedBy (authenticated : Bool) (items : List StreamItem) : Bool :=
  items.foldl (fun authenticated item =>
    match item with
    | .event event => authenticatedAfter event authenticated
    | .message _ => authenticated) authenticated

/-- The messages between an `Authenticated` and the next rejection or disconnect. -/
def deliverable : Bool → List StreamItem → List WebSocketMessage
  | _, [] => []
  | authenticated, .event event :: rest => deliverable (authenticatedAfter event authenticated) rest
  | true, .message message :: rest => message :: deliverable true rest
  | false, .message _ :: rest => deliverable false rest

theorem deliverable_append (authenticated : Bool) (first second : List StreamItem) :
    deliverable authenticated (first ++ second) =
      deliverable authenticated first ++ deliverable (authenticatedBy authenticated first) second := by
  induction first generalizing authenticated with
  | nil => rfl
  | cons item rest ih =>
    cases item with
    | event event => exact ih _
    | message message =>
      cases authenticated with
      | true => exact congrArg (message :: ·) (ih true)
      | false => exact ih false

theorem authenticatedBy_append (authenticated : Bool) (first second : List StreamItem) :
    authenticatedBy authenticated (first ++ second) =
      authenticatedBy (authenticatedBy authenticated first) second :=
  List.foldl_append

/-- The messages that were queued, of those dealt with. -/
def queuedOf (delivered : List (WebSocketMessage × Fate)) : List WebSocketMessage :=
  (delivered.filter fun entry => entry.2 = .queued).map Prod.fst

theorem queuedOf_append (first second : List (WebSocketMessage × Fate)) :
    queuedOf (first ++ second) = queuedOf first ++ queuedOf second := by
  rw [queuedOf, List.filter_append, List.map_append, queuedOf, queuedOf]

/-- The messages a call took. -/
def takenBy (takers : List (Nat × WebSocketMessage)) (position : Nat) : List WebSocketMessage :=
  (takers.filter fun taker => taker.1 = position).map Prod.snd

theorem takenBy_append (first second : List (Nat × WebSocketMessage)) (position : Nat) :
    takenBy (first ++ second) position = takenBy first position ++ takenBy second position := by
  rw [takenBy, List.filter_append, List.map_append, takenBy, takenBy]

theorem takenBy_self (position : Nat) (message : WebSocketMessage) :
    takenBy [(position, message)] position = [message] := by
  simp [takenBy]

theorem takenBy_other {position other : Nat} (apart : position ≠ other) (message : WebSocketMessage) :
    takenBy [(position, message)] other = [] := by
  simp [takenBy, apart]

/-! ### The books -/

/-- In every order: what became of the messages of the stream, what was queued and who took it. -/
structure Books (capacity : Option Nat) (run : HandoffRun) : Prop where
  window : run.authenticated = authenticatedBy false run.seen
  stream : deliverable false run.seen = run.delivered.map Prod.fst ++ run.pusher.inHand
  queued : queuedOf run.delivered = run.takers.map Prod.snd ++ run.queue.items
  took : ∀ position reader, run.readers[position]? = some reader →
    takenBy run.takers position = reader.outcome.message?.toList
  fresh : ∀ taker ∈ run.takers, taker.1 < run.readers.length
  ended : ∀ reader ∈ run.readers, reader.outcome = .ended →
    run.queue.items = [] ∧ run.queue.closed = true
  room : ∀ bound, capacity = some bound → run.queue.items.length ≤ bound
  discards : ∀ entry ∈ run.delivered, entry.2 = .discarded → run.stop = true

namespace Books

variable {capacity : Option Nat} {run next : HandoffRun} {position : Nat} {reader : Reader}

theorem start : Books capacity {} where
  window := rfl
  stream := rfl
  queued := rfl
  took := fun _ _ there => by cases there
  fresh := fun _ member => by cases member
  ended := fun _ member => by cases member
  room := fun _ _ => Nat.zero_le _
  discards := fun _ member => by cases member

/-- Only the calls changed, and none of them came to a message. -/
theorem readers (books : Books capacity run) (after : List Reader)
    (length : after.length = run.readers.length)
    (each : ∀ (place : Nat) (reader : Reader), after[place]? = some reader → ∃ before : Reader,
      run.readers[place]? = some before ∧
      reader.outcome.message? = before.outcome.message? ∧
      (reader.outcome = .ended → before.outcome = .ended ∨
        run.queue.items = [] ∧ run.queue.closed = true)) (lost : Nat) :
    Books capacity { run with readers := after, lost } := by
  refine ⟨books.window, books.stream, books.queued, ?_, ?_, ?_, books.room, books.discards⟩
  · intro place reader there
    obtain ⟨before, found, same, -⟩ := each place reader there
    rw [same]
    exact books.took place before found
  · intro taker member
    show taker.1 < after.length
    rw [length]
    exact books.fresh taker member
  · intro reader member ends
    obtain ⟨place, there⟩ := List.getElem?_of_mem member
    obtain ⟨before, found, -, ended⟩ := each place reader there
    rcases ended ends with was | now
    · exact books.ended before (List.mem_of_getElem? found) was
    · exact now

/-- A call takes a message. -/
theorem takes (books : Books capacity run) (there : run.readers[position]? = some reader)
    (free : reader.outcome.message? = none) {message : WebSocketMessage} {queue : Handoff}
    (taken : run.queue.take = some (message, queue)) :
    Books capacity (run.took position reader message queue) := by
  obtain ⟨items, closed⟩ := Handoff.take_eq_some taken
  have inside : position < run.readers.length := (List.getElem?_eq_some_iff.mp there).1
  refine ⟨books.window, ?_, ?_, ?_, ?_, ?_, ?_, books.discards⟩
  · simpa [HandoffRun.took] using books.stream
  · have queued := books.queued
    rw [items] at queued
    simpa [HandoffRun.took] using queued
  · intro place other found
    show takenBy (run.takers ++ [(position, message)]) place = _
    rw [takenBy_append]
    rcases getElem?_set_cases found with ⟨rfl, rfl⟩ | ⟨apart, old⟩
    · rw [books.took _ reader there, free, takenBy_self]
      rfl
    · rw [books.took place other old, takenBy_other (Ne.symm apart), List.append_nil]
  · intro taker member
    show taker.1 < (run.readers.set position _).length
    rw [List.length_set]
    rcases List.mem_append.mp member with old | new
    · exact books.fresh taker old
    · rw [List.mem_singleton.mp new]
      exact inside
  · intro other member ends
    rcases List.mem_or_eq_of_mem_set member with old | rfl
    · have none := (books.ended other old ends).1
      rw [items] at none
      cases none
    · cases ends
  · intro bound bounded
    have room := books.room bound bounded
    rw [items] at room
    exact Nat.le_of_succ_le room

theorem message?_of_isPending {outcome : ReadOutcome} (pending : outcome.isPending = true) :
    outcome.message? = none := by
  cases outcome <;> first | rfl | cases pending

/-- A step of a call. -/
theorem acts (books : Books capacity run) (there : run.readers[position]? = some reader)
    (acts : Acts run position reader next) : Books capacity next := by
  cases acts with
  | took taken free => exact books.takes there (message?_of_isPending free) taken
  | moved after lost parks pays kept ended settled sound onLoop =>
    refine books.readers _ (List.length_set ..) (fun place other found => ?_) (run.lost + lost)
    rcases getElem?_set_cases found with ⟨rfl, rfl⟩ | ⟨-, old⟩
    · exact ⟨reader, there, kept, ended⟩
    · exact ⟨other, old, rfl, Or.inl⟩

/-- A call begins. -/
theorem join (books : Books capacity run) (fresh : HandoffRun.Fresh reader) :
    Books capacity (run.join reader) := by
  have empty : reader.outcome.message? = none := by
    rcases fresh.outcome with none | none <;> rw [none] <;> rfl
  refine ⟨books.window, books.stream, books.queued, ?_, ?_, ?_, books.room, books.discards⟩
  · intro place other found
    rcases getElem?_concat_cases found with old | ⟨rfl, rfl⟩
    · exact books.took place other old
    · rw [empty]
      refine List.map_eq_nil_iff.mpr (List.filter_eq_nil_iff.mpr fun taker member same => ?_)
      have before := books.fresh taker member
      have at_ : taker.1 = run.readers.length := of_decide_eq_true same
      omega
  · intro taker member
    have before := books.fresh taker member
    show taker.1 < (run.readers ++ [reader]).length
    rw [List.length_append]
    omega
  · intro other member ends
    rcases List.mem_append.mp member with old | new
    · exact books.ended other old ends
    · rw [List.mem_singleton.mp new] at ends
      rcases fresh.outcome with none | none <;> rw [none] at ends <;> cases ends

/-- One parked call is taken off, or none. -/
theorem notifyOne (books : Books capacity run) {target : Option Nat}
    (stepped : run.notifyOne target = some next) : Books capacity next := by
  rcases HandoffRun.notifyOne_cases stepped with ⟨position, reader, there, -, rfl⟩ | ⟨rfl, -⟩
  · refine books.readers _ (List.length_set ..) (fun place other found => ?_) run.lost
    rcases getElem?_set_cases found with ⟨rfl, rfl⟩ | ⟨-, old⟩
    · exact ⟨reader, there, rfl, Or.inl⟩
    · exact ⟨other, old, rfl, Or.inl⟩
  · exact books

/-- A call lets go of the wake-up it was to give. -/
theorem letGo (books : Books capacity run) (there : run.readers[position]? = some reader) :
    Books capacity (run.put position { reader with pc := .over }) := by
  refine books.readers _ (List.length_set ..) (fun place other found => ?_) run.lost
  rcases getElem?_set_cases found with ⟨rfl, rfl⟩ | ⟨-, old⟩
  · exact ⟨reader, there, rfl, Or.inl⟩
  · exact ⟨other, old, rfl, Or.inl⟩

/-- Every call moves, and none of them comes to anything. -/
theorem map (books : Books capacity run) (move : Reader → Reader)
    (kept : ∀ reader, (move reader).outcome = reader.outcome) (lost : Nat) :
    Books capacity { run with readers := run.readers.map move, lost } := by
  refine books.readers _ (List.length_map ..) (fun place other found => ?_) lost
  rw [List.getElem?_map, Option.map_eq_some_iff] at found
  obtain ⟨before, there, rfl⟩ := found
  exact ⟨before, there, congrArg ReadOutcome.message? (kept before),
    fun ends => Or.inl (kept before ▸ ends)⟩

/-- The stream reader forwards an item. -/
theorem itemStep (books : Books capacity run) {item : StreamItem} {wantsRaw wantsDict : Bool}
    (stepped : run.itemStep item wantsRaw wantsDict = some next) : Books capacity next := by
  unfold HandoffRun.itemStep at stepped
  split at stepped
  · rename_i event idle
    obtain rfl := Option.some.inj stepped
    refine ⟨?_, ?_, books.queued, books.took, books.fresh, books.ended, books.room, books.discards⟩
    · show authenticatedAfter event run.authenticated = _
      rw [authenticatedBy_append, ← books.window]
      rfl
    · rw [deliverable_append, books.stream]
      exact List.append_nil _
  · rename_i message idle
    have stream := books.stream
    rw [idle] at stream
    split at stepped
    · rename_i shut
      obtain rfl := Option.some.inj stepped
      have closed : authenticatedBy false run.seen = false := by
        rw [← books.window]
        simpa using shut
      refine ⟨?_, ?_, books.queued, books.took, books.fresh, books.ended, books.room,
        books.discards⟩
      · rw [authenticatedBy_append, ← books.window]
        rfl
      · rw [deliverable_append, closed, books.stream]
        exact List.append_nil _
    rename_i opened
    have opened : authenticatedBy false run.seen = true := by
      rw [← books.window]
      simpa using opened
    have window : run.authenticated = authenticatedBy false (run.seen ++ [.message message]) := by
      rw [authenticatedBy_append, ← books.window]
      rfl
    have seen : deliverable false (run.seen ++ [.message message]) =
        run.delivered.map Prod.fst ++ [message] := by
      rw [deliverable_append, opened, stream]
      exact congrArg (· ++ [message]) (List.append_nil _)
    split at stepped
    · obtain rfl := Option.some.inj stepped
      exact ⟨window, seen, books.queued, books.took, books.fresh, books.ended, books.room,
        books.discards⟩
    · obtain rfl := Option.some.inj stepped
      refine ⟨window, ?_, ?_, books.took, books.fresh, books.ended, books.room, ?_⟩
      · show deliverable false (run.seen ++ [.message message]) = _
        rw [seen, idle, List.map_append]
        exact (List.append_nil _).symm
      · rw [queuedOf_append, books.queued]
        exact List.append_nil _
      · intro entry member discarded
        rcases List.mem_append.mp member with old | new
        · exact books.discards entry old discarded
        · rw [List.mem_singleton.mp new] at discarded
          cases discarded
  · cases stepped

/-- One look of `push`. -/
theorem pushStep (books : Books capacity run) (waking : Waking capacity 0 run)
    (stepped : run.pushStep capacity = some next) : Books capacity next := by
  unfold HandoffRun.pushStep at stepped
  split at stepped
  · rename_i message pushing
    have stream := books.stream
    have opened := waking.closed
    rw [pushing] at stream opened
    have dealt (fate : Fate) : deliverable false run.seen =
        (run.delivered ++ [(message, fate)]).map Prod.fst := by
      rw [stream, List.map_append]
      rfl
    unfold Handoff.push at stepped
    split at stepped
    · rename_i queue found
      split at found
      · split at found <;> cases found
      · rename_i room
        cases found
        obtain rfl := Option.some.inj stepped
        refine ⟨books.window, ?_, ?_, books.took, books.fresh, ?_, ?_, ?_⟩
        · exact (dealt .queued).trans (List.append_nil _).symm
        · rw [queuedOf_append, books.queued, List.append_assoc]
          rfl
        · intro reader member ends
          have closed := (books.ended reader member ends).2
          rw [opened] at closed
          cases closed
        · intro bound bounded
          have below : run.queue.items.length < bound := by
            simpa [Handoff.isFull, bounded] using room
          show (run.queue.items ++ [message]).length ≤ bound
          rw [List.length_append, List.length_singleton]
          exact below
        · intro entry member discarded
          rcases List.mem_append.mp member with old | new
          · exact books.discards entry old discarded
          · rw [List.mem_singleton.mp new] at discarded
            cases discarded
    · obtain rfl := Option.some.inj stepped
      exact ⟨books.window, stream, books.queued, books.took, books.fresh, books.ended, books.room,
        books.discards⟩
    · rename_i found
      split at found
      · split at found
        · rename_i stops
          obtain rfl := Option.some.inj stepped
          refine ⟨books.window, ?_, ?_, books.took, books.fresh, books.ended, books.room, ?_⟩
          · exact (dealt .discarded).trans (List.append_nil _).symm
          · rw [queuedOf_append, books.queued]
            exact List.append_nil _
          · intro entry member discarded
            rw [opened] at stops
            simpa [Pusher.hasClosed] using stops
        · cases found
      · cases found
  · cases stepped

/-- **Every step keeps them.** -/
theorem step (books : Books capacity run) (waking : Waking capacity 0 run) (label : HandoffLabel)
    (stepped : run.step capacity label = some next) : Books capacity next := by
  cases label with
  | item item wantsRaw wantsDict => exact books.itemStep stepped
  | push => exact books.pushStep waking stepped
  | pushWake =>
    obtain rfl := Option.some.inj stepped
    refine ⟨books.window, ?_, books.queued, books.took, books.fresh, books.ended, books.room,
      books.discards⟩
    simpa using books.stream
  | pushNotify target =>
    simp only [HandoffRun.step] at stepped
    split at stepped
    · rename_i notifying
      have stream := books.stream
      rw [notifying] at stream
      have released : Books capacity { run with pusher := .idle } :=
        ⟨books.window, stream, books.queued, books.took, books.fresh, books.ended, books.room,
          books.discards⟩
      exact released.notifyOne stepped
    · cases stepped
  | streamEnds =>
    simp only [HandoffRun.step] at stepped
    split at stepped
    · rename_i idle
      obtain rfl := Option.some.inj stepped
      have stream := books.stream
      rw [idle] at stream
      exact ⟨books.window, stream, books.queued, books.took, books.fresh,
        fun reader member ends => ⟨(books.ended reader member ends).1, rfl⟩, books.room,
        books.discards⟩
    · cases stepped
  | closeNotify =>
    simp only [HandoffRun.step] at stepped
    split at stepped
    · rename_i closing
      obtain rfl := Option.some.inj stepped
      have stream := books.stream
      rw [closing] at stream
      have closed : Books capacity { run with pusher := .closed } :=
        ⟨books.window, stream, books.queued, books.took, books.fresh, books.ended, books.room,
          books.discards⟩
      exact closed.map (fun reader => { reader with pc := reader.pc.unpark true }) (fun _ => rfl)
        run.lost
    · cases stepped
  | stop =>
    obtain rfl := Option.some.inj stepped
    exact ⟨books.window, books.stream, books.queued, books.took, books.fresh, books.ended,
      books.room, fun _ _ _ => rfl⟩
  | finalize =>
    obtain rfl := Option.some.inj stepped
    exact ⟨books.window, books.stream, books.queued, books.took, books.fresh, books.ended,
      books.room, books.discards⟩
  | call call =>
    obtain ⟨reader, streaks, fresh, rfl | ⟨message, queue, taken, rfl⟩⟩ :=
      HandoffRun.callStep_cases stepped
    · have joined := books.join fresh
      exact ⟨joined.window, joined.stream, joined.queued, joined.took, joined.fresh, joined.ended,
        joined.room, joined.discards⟩
    · have last : (run.join reader).readers[run.readers.length]? = some reader := by
        simp [HandoffRun.join]
      have empty : reader.outcome.message? = none := by
        rcases fresh.outcome with none | none <;> rw [none] <;> rfl
      have took := (books.join fresh).takes last empty taken
      exact ⟨took.window, took.stream, took.queued, took.took, took.fresh, took.ended, took.room,
        took.discards⟩
  | closeLoop loop =>
    obtain rfl := Option.some.inj stepped
    have kept (reader : Reader) : (reader.dropDelivery loop).outcome = reader.outcome := by
      unfold Reader.dropDelivery
      split <;> rfl
    have dropped := books.map (Reader.dropDelivery loop) kept run.lost
    exact ⟨dropped.window, dropped.stream, dropped.queued, dropped.took, dropped.fresh,
      dropped.ended, dropped.room, dropped.discards⟩
  | _ =>
    obtain ⟨reader, there, acts | ⟨target, given⟩⟩ := HandoffRun.step_acts waking.sound rfl stepped
    · exact books.acts there acts
    · exact (books.letGo there).notifyOne given

theorem reached (reached : (handoffRuns capacity).Reachable run) : Books capacity run := by
  have base : ∀ run, (handoffRuns capacity).start run → Books capacity run := by
    rintro run rfl
    exact start
  exact StepMachine.ReachableUnder.invariant_with (fun _ before => Waking.reached before) base
    (fun _ label _ waking books stepped _ => books.step waking label stepped) reached

end Books

/-! ### After the close -/

namespace HandoffRun

variable {capacity : Option Nat} {run next : HandoffRun}

/-- The queue is closed and what became of the messages is settled. -/
structure Settled (run next : HandoffRun) : Prop where
  shut : next.pusher.hasClosed = run.pusher.hasClosed
  delivered : next.delivered = run.delivered

theorem notifyOne_settled {target : Option Nat} (stepped : run.notifyOne target = some next) :
    Settled run next := by
  rcases notifyOne_cases stepped with ⟨position, reader, -, -, rfl⟩ | ⟨rfl, -⟩
  · exact ⟨rfl, rfl⟩
  · exact ⟨rfl, rfl⟩

/-- A step of a call delivers nothing to the queue, and wakes the stream reader at most. -/
theorem acts_settled {position : Nat} {reader : Reader} (acts : Acts run position reader next) :
    Settled run next := by
  cases acts with
  | moved after lost parks pays kept ended settled sound onLoop => exact ⟨rfl, rfl⟩
  | took taken free => exact ⟨run.pusher.wake_hasClosed, rfl⟩

/-- Once the queue is closed, no step changes what became of the messages. -/
theorem step_settled (waking : Waking capacity 0 run) (shut : run.pusher.hasClosed = true)
    (label : HandoffLabel) (stepped : run.step capacity label = some next) :
    next.pusher.hasClosed = true ∧ next.delivered = run.delivered := by
  suffices settled : Settled run next from ⟨settled.shut.trans shut, settled.delivered⟩
  cases label with
  | item item wantsRaw wantsDict =>
    simp only [step, itemStep] at stepped
    split at stepped
    · rename_i idle
      rw [idle] at shut
      cases shut
    · rename_i idle
      rw [idle] at shut
      cases shut
    · cases stepped
  | push =>
    simp only [step, pushStep] at stepped
    split at stepped
    · rename_i pushing
      rw [pushing] at shut
      cases shut
    · cases stepped
  | pushWake =>
    obtain rfl := Option.some.inj stepped
    exact ⟨run.pusher.wake_hasClosed, rfl⟩
  | pushNotify target =>
    simp only [step] at stepped
    split at stepped
    · rename_i notifying
      rw [notifying] at shut
      cases shut
    · cases stepped
  | streamEnds =>
    simp only [step] at stepped
    split at stepped
    · rename_i idle
      rw [idle] at shut
      cases shut
    · cases stepped
  | closeNotify =>
    simp only [step] at stepped
    split at stepped
    · obtain rfl := Option.some.inj stepped
      exact ⟨shut.symm, rfl⟩
    · cases stepped
  | stop =>
    obtain rfl := Option.some.inj stepped
    exact ⟨rfl, rfl⟩
  | finalize =>
    obtain rfl := Option.some.inj stepped
    exact ⟨rfl, rfl⟩
  | closeLoop loop =>
    obtain rfl := Option.some.inj stepped
    exact ⟨rfl, rfl⟩
  | call call =>
    obtain ⟨reader, streaks, -, rfl | ⟨message, queue, -, rfl⟩⟩ := callStep_cases stepped
    · exact ⟨rfl, rfl⟩
    · exact ⟨run.pusher.wake_hasClosed, rfl⟩
  | _ =>
    obtain ⟨reader, there, acts | ⟨target, given⟩⟩ := step_acts waking.sound rfl stepped
    · exact acts_settled acts
    · obtain ⟨same, kept⟩ := notifyOne_settled given
      exact ⟨same, kept⟩

/-- And so for the rest of the run. -/
theorem run_settled (reached : (handoffRuns capacity).Reachable run)
    (shut : run.pusher.hasClosed = true) (labels : List HandoffLabel)
    (ran : (handoffRuns capacity).run run labels = some next) : next.delivered = run.delivered := by
  induction labels generalizing run with
  | nil =>
    simp only [StepMachine.run, Option.some.injEq] at ran
    rw [ran]
  | cons label rest ih =>
    obtain ⟨middle, stepped, remaining⟩ := Option.bind_eq_some_iff.mp ran
    obtain ⟨still, kept⟩ := step_settled (Waking.reached reached) shut label stepped
    rw [ih (StepMachine.Reachable.next _ reached stepped) still remaining, kept]

end HandoffRun

/-! ### After the answer -/

namespace HandoffRun

variable {capacity : Option Nat} {run next : HandoffRun}

/-- Each call that has come to something is still there, and came to the same. -/
def Stays (run next : HandoffRun) : Prop :=
  ∀ (position : Nat) (reader : Reader), run.readers[position]? = some reader →
    reader.outcome.isPending = false →
    ∃ after, next.readers[position]? = some after ∧ after.outcome = reader.outcome

theorem stays_readers (same : next.readers = run.readers) : Stays run next := fun _ reader there _ =>
  ⟨reader, same ▸ there, rfl⟩

/-- One call is at another place. -/
theorem stays_set {position : Nat} {reader : Reader} (after : Reader)
    (there : run.readers[position]? = some reader)
    (readers : next.readers = run.readers.set position after)
    (kept : reader.outcome.isPending = false → after.outcome = reader.outcome) : Stays run next := by
  intro place other found came
  by_cases same : place = position
  · subst same
    rw [there] at found
    obtain rfl := Option.some.inj found
    refine ⟨after, ?_, kept came⟩
    rw [readers, List.getElem?_set_self (List.getElem?_eq_some_iff.mp there).1]
  · refine ⟨other, ?_, rfl⟩
    rw [readers, List.getElem?_set_ne (Ne.symm same), found]

theorem stays_map {move : Reader → Reader} (readers : next.readers = run.readers.map move)
    (kept : ∀ reader, (move reader).outcome = reader.outcome) : Stays run next := by
  intro place reader found _
  refine ⟨move reader, ?_, kept reader⟩
  rw [readers, List.getElem?_map, found]
  rfl

theorem notifyOne_stays {target : Option Nat} (stepped : run.notifyOne target = some next) :
    Stays run next := by
  rcases notifyOne_cases stepped with ⟨position, reader, there, -, rfl⟩ | ⟨rfl, -⟩
  · exact stays_set _ there rfl fun _ => rfl
  · exact stays_readers rfl

theorem Stays.trans {middle : HandoffRun} (first : Stays run middle) (second : Stays middle next) :
    Stays run next := by
  intro place reader found came
  obtain ⟨between, there, same⟩ := first place reader found came
  obtain ⟨after, last, equal⟩ := second place between there (same ▸ came)
  exact ⟨after, last, equal.trans same⟩

/-- A step of a call that has come to something leaves that alone. -/
theorem acts_stays {position : Nat} {reader : Reader} (there : run.readers[position]? = some reader)
    (acts : Acts run position reader next) : Stays run next := by
  cases acts with
  | moved after lost parks pays kept ended settled sound onLoop => exact stays_set _ there rfl settled
  | took taken free =>
    refine stays_set _ there rfl fun came => ?_
    rw [free] at came
    cases came

/-- No step changes what a call has come to. -/
theorem step_stays (waking : Waking capacity 0 run) (label : HandoffLabel)
    (stepped : run.step capacity label = some next) : Stays run next := by
  cases label with
  | item item wantsRaw wantsDict =>
    simp only [step, itemStep] at stepped
    split at stepped
    · obtain rfl := Option.some.inj stepped
      exact stays_readers rfl
    · split at stepped
      · obtain rfl := Option.some.inj stepped
        exact stays_readers rfl
      split at stepped <;> obtain rfl := Option.some.inj stepped <;> exact stays_readers rfl
    · cases stepped
  | push =>
    simp only [step, pushStep] at stepped
    split at stepped
    · split at stepped <;> obtain rfl := Option.some.inj stepped <;> exact stays_readers rfl
    · cases stepped
  | pushWake =>
    obtain rfl := Option.some.inj stepped
    exact stays_readers rfl
  | pushNotify target =>
    simp only [step] at stepped
    split at stepped
    · have released : Stays run { run with pusher := .idle } := stays_readers rfl
      exact released.trans (notifyOne_stays stepped)
    · cases stepped
  | streamEnds =>
    simp only [step] at stepped
    split at stepped
    · obtain rfl := Option.some.inj stepped
      exact stays_readers rfl
    · cases stepped
  | closeNotify =>
    simp only [step] at stepped
    split at stepped
    · obtain rfl := Option.some.inj stepped
      exact stays_map rfl fun _ => rfl
    · cases stepped
  | stop =>
    obtain rfl := Option.some.inj stepped
    exact stays_readers rfl
  | finalize =>
    obtain rfl := Option.some.inj stepped
    exact stays_readers rfl
  | closeLoop loop =>
    obtain rfl := Option.some.inj stepped
    refine stays_map rfl fun reader => ?_
    unfold Reader.dropDelivery
    split <;> rfl
  | call call =>
    have joins (reader : Reader) : Stays run (run.join reader) := fun place other found _ =>
      ⟨other, List.getElem?_append_left (List.getElem?_eq_some_iff.mp found).1 ▸ found, rfl⟩
    obtain ⟨reader, streaks, -, rfl | ⟨message, queue, -, rfl⟩⟩ := callStep_cases stepped
    · exact joins reader
    · intro place other found _
      refine ⟨other, ?_, rfl⟩
      have inside := (List.getElem?_eq_some_iff.mp found).1
      show ((run.readers ++ [reader]).set run.readers.length _)[place]? = some other
      rw [List.getElem?_set_ne (by omega), List.getElem?_append_left inside, found]
  | _ =>
    obtain ⟨reader, there, acts | ⟨target, given⟩⟩ := step_acts waking.sound rfl stepped
    · exact acts_stays there acts
    · exact (stays_set { reader with pc := .over } there rfl fun _ => rfl).trans
        (notifyOne_stays given)

/-- And so for the rest of the run. -/
theorem run_stays (reached : (handoffRuns capacity).Reachable run) (labels : List HandoffLabel)
    (ran : (handoffRuns capacity).run run labels = some next) : Stays run next := by
  induction labels generalizing run with
  | nil =>
    simp only [StepMachine.run, Option.some.injEq] at ran
    exact stays_readers (congrArg HandoffRun.readers ran.symm)
  | cons label rest ih =>
    obtain ⟨middle, stepped, remaining⟩ := Option.bind_eq_some_iff.mp ran
    exact (step_stays (Waking.reached reached) label stepped).trans
      (ih (StepMachine.Reachable.next _ reached stepped) remaining)

end HandoffRun

/-! ### Main results -/

/-- **Every message is dealt with once, in order.** In every state of every run, with any number of calls,
blocking or on any event loops: the messages that arrived on an authenticated connection are those given to
the callbacks, queued or discarded, in order, and the one the stream reader has in hand; those queued are
those taken, in order, and those still queued, never more than the capacity; each call has taken the message
it came to and no other; and a message is discarded only after the stop flag was set. -/
theorem handoff_accounts (capacity : Option Nat) {run : HandoffRun}
    (reached : (handoffRuns capacity).Reachable run) :
    deliverable false run.seen = run.delivered.map Prod.fst ++ run.pusher.inHand ∧
      queuedOf run.delivered = run.takers.map Prod.snd ++ run.queue.items ∧
      (∀ position reader, run.readers[position]? = some reader →
        takenBy run.takers position = reader.outcome.message?.toList) ∧
      (∀ taker ∈ run.takers, taker.1 < run.readers.length) ∧
      (∀ bound, capacity = some bound → run.queue.items.length ≤ bound) ∧
      ∀ entry ∈ run.delivered, entry.2 = .discarded → run.stop = true := by
  have books := Books.reached reached
  exact ⟨books.stream, books.queued, books.took, books.fresh, books.room, books.discards⟩

/-- **The end is final.** In every state of every run, where a call was told that the queue has ended:
everything that was ever queued has been taken, the stream reader has nothing in hand, and however the run
goes on, what became of the messages stays as it is. -/
theorem ended_final (capacity : Option Nat) {run : HandoffRun}
    (reached : (handoffRuns capacity).Reachable run) {reader : Reader} (member : reader ∈ run.readers)
    (ended : reader.outcome = .ended) :
    queuedOf run.delivered = run.takers.map Prod.snd ∧ run.pusher.inHand = [] ∧
      ∀ labels next, (handoffRuns capacity).run run labels = some next →
        next.delivered = run.delivered := by
  have books := Books.reached reached
  obtain ⟨items, closed⟩ := books.ended reader member ended
  have shut : run.pusher.hasClosed = true := by rw [← (Waking.reached reached).closed, closed]
  refine ⟨?_, ?_, fun labels next ran => HandoffRun.run_settled reached shut labels ran⟩
  · rw [books.queued, items, List.append_nil]
  · cases pusher : run.pusher <;> first | rfl | (rw [pusher] at shut; cases shut)

/-- **A call that has its answer takes no more.** In every state of every run, a call that has come to
something, or whose awaitable was cancelled, has taken the message it came to, if that is one, and takes no
other in the rest of the run: a cancelled wait never takes a message. -/
theorem answered_takes_no_more (capacity : Option Nat) {run next : HandoffRun}
    (reached : (handoffRuns capacity).Reachable run) {position : Nat} {reader : Reader}
    (there : run.readers[position]? = some reader) (came : reader.outcome.isPending = false)
    (labels : List HandoffLabel) (ran : (handoffRuns capacity).run run labels = some next) :
    takenBy next.takers position = reader.outcome.message?.toList := by
  have later := StepMachine.reachable_of_run labels reached ran
  obtain ⟨after, found, same⟩ := HandoffRun.run_stays reached labels ran position reader there came
  rw [(Books.reached later).took position after found, same]

/-! ### Runs -/

/-- The first of the two calls takes the message. -/
theorem handoff_accounts_two : ∃ run,
    (handoffRuns (some 1)).run {} (twoWaiting ++ [.look 0 false]) = some run ∧
    run.takers.map Prod.fst = [0] ∧
    queuedOf run.delivered = run.takers.map Prod.snd ++ run.queue.items := by
  have ran : ∃ run, (handoffRuns (some 1)).run {} (twoWaiting ++ [.look 0 false]) = some run ∧
      run.takers.map Prod.fst = [0] := ⟨_, rfl, rfl⟩
  obtain ⟨run, ran, first⟩ := ran
  have reached := StepMachine.reachable_of_run _ (StepMachine.Reachable.init _ rfl) ran
  exact ⟨run, ran, first, (handoff_accounts (some 1) reached).2.1⟩

/-- A message is queued and taken, the stream ends, and a second call is told so. -/
def takenThenEnded : List HandoffLabel :=
  [.item (.event (.authenticated .null "")) false false, .item (.message { event := "data" }) false false,
    .push, .pushNotify none, .call .tryRecv, .streamEnds, .closeNotify, .call .next, .look 1 false]

theorem ended_final_taken : ∃ run next,
    (handoffRuns (some 1)).run {} takenThenEnded = some run ∧
    (handoffRuns (some 1)).run run [.call .tryRecv, .stop, .finalize] = some next ∧
    queuedOf run.delivered = [{ event := "data" }] ∧
    queuedOf run.delivered = run.takers.map Prod.snd ∧ next.delivered = run.delivered := by
  have ran : ∃ run, (handoffRuns (some 1)).run {} takenThenEnded = some run ∧
      queuedOf run.delivered = [{ event := "data" }] ∧
      (∃ reader ∈ run.readers, reader.outcome = .ended) ∧
      ∃ next, (handoffRuns (some 1)).run run [.call .tryRecv, .stop, .finalize] = some next :=
    ⟨_, rfl, rfl, ⟨_, List.mem_cons_of_mem _ List.mem_cons_self, rfl⟩, _, rfl⟩
  obtain ⟨run, ran, queued, ⟨reader, member, ended⟩, next, later⟩ := ran
  have reached := StepMachine.reachable_of_run _ (StepMachine.Reachable.init _ rfl) ran
  obtain ⟨taken, -, final⟩ := ended_final (some 1) reached member ended
  exact ⟨run, next, ran, later, queued, taken, final _ next later⟩

/-- An awaitable cancelled while its wait is parked; a message comes, and the wait is woken for it. -/
theorem answered_takes_no_more_cancelled : ∃ run next,
    (handoffRuns (some 1)).run {} [.call (.anext 0 0), .thread 0, .look 0 false, .cancel 0] = some run ∧
    (handoffRuns (some 1)).run run
      [.item (.event (.authenticated .null "")) false false,
        .item (.message { event := "data" }) false false, .push, .pushNotify (some 0), .look 0 false,
        .thread 0, .look 0 false, .notify 0 none] = some next ∧
    takenBy next.takers 0 = [] := by
  have ran : ∃ run,
      (handoffRuns (some 1)).run {} [.call (.anext 0 0), .thread 0, .look 0 false, .cancel 0] = some run ∧
      ∃ reader, run.readers[0]? = some reader ∧ reader.outcome = .cancelled ∧ ∃ next,
        (handoffRuns (some 1)).run run
          [.item (.event (.authenticated .null "")) false false,
            .item (.message { event := "data" }) false false, .push, .pushNotify (some 0),
            .look 0 false, .thread 0, .look 0 false, .notify 0 none] = some next :=
    ⟨_, rfl, _, rfl, rfl, _, rfl⟩
  obtain ⟨run, ran, reader, there, cancelled, next, later⟩ := ran
  have reached := StepMachine.reachable_of_run _ (StepMachine.Reachable.init _ rfl) ran
  have none := answered_takes_no_more (some 1) reached there (by rw [cancelled]; rfl) _ later
  rw [cancelled] at none
  exact ⟨run, next, ran, later, none⟩

end FugleMarketdata
