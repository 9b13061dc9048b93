/-
**No message strands, and no writer.** The wake-ups of the hand-off of `Handoff.lean`.

* `Waking` — how the wake-ups, the parked calls and the stream reader hang together in every order;
* `parked_covered` — while a call is parked, as many wake-ups are on their way as messages are queued, and
  after a close the one for all is still to come;
* `stranded_moves` — so a message an iterator could have is never left to the polls: some party that holds
  a wake-up can move;
* `writer_waits_full` — the stream reader waits only while the queue is full and open.
-/

import FugleMarketdata.Py.HandoffActs

namespace FugleMarketdata

open StepMachines StepMachine Monitors

/-! ### How the wake-ups hang together -/

/-- In every order: the wake-ups cover the messages queued and the notification of a close is not
forgotten; the queue is closed by the stream reader alone, which waits only while it is full; nothing is
scheduled on a loop that has closed; and the calls are `Sound`. `given` are the
wake-ups let go of and not yet received. -/
structure Waking (capacity : Option Nat) (given : Nat) (run : HandoffRun) : Prop where
  covered : Covered Reader.isParked Reader.credit run.readers run.queue.items.length
    (run.lost + run.pusher.credit + given)
  announced : Announced Reader.isParked run.readers (run.queue.closed = true)
    (run.pusher.isClosing = true)
  closed : run.queue.closed = run.pusher.hasClosed
  full : ∀ message, run.pusher = .waiting message → run.queue.isFull capacity = true
  onLoop : ∀ reader ∈ run.readers, ∀ loop, reader.onLoop loop = true → run.loopClosed loop = false
  sound : ∀ reader ∈ run.readers, reader.Sound

namespace Pusher

@[simp] theorem wake_credit (pusher : Pusher) : pusher.wake.credit = pusher.credit := by
  cases pusher <;> rfl

@[simp] theorem wake_isClosing (pusher : Pusher) : pusher.wake.isClosing = pusher.isClosing := by
  cases pusher <;> rfl

@[simp] theorem wake_hasClosed (pusher : Pusher) : pusher.wake.hasClosed = pusher.hasClosed := by
  cases pusher <;> rfl

@[simp] theorem wake_inHand (pusher : Pusher) : pusher.wake.inHand = pusher.inHand := by
  cases pusher <;> rfl

theorem wake_ne_waiting (pusher : Pusher) (message : WebSocketMessage) :
    pusher.wake ≠ .waiting message := by
  cases pusher <;> (intro equal; cases equal)

end Pusher

namespace Waking

variable {capacity : Option Nat} {run next : HandoffRun} {position : Nat} {reader : Reader}

theorem start : Waking capacity 0 {} where
  covered := Covered.empty
  announced := Announced.vacant fun _ member => by cases member
  closed := rfl
  full := fun _ equal => by cases equal
  onLoop := fun _ member => by cases member
  sound := fun _ member => by cases member

/-- A call takes a message. -/
theorem took (waking : Waking capacity 0 run) (there : run.readers[position]? = some reader)
    {message : WebSocketMessage} {queue : Handoff}
    (taken : run.queue.take = some (message, queue)) :
    Waking capacity 0 (run.took position reader message queue) := by
  obtain ⟨items, closed⟩ := Handoff.take_eq_some taken
  have length : run.queue.items.length = queue.items.length + 1 := by rw [items]; rfl
  refine ⟨?_, ?_, ?_, ?_, ?_, ?_⟩
  · refine waking.covered.move there (fun parks => absurd parks Bool.false_ne_true) ?_
    have held : reader.credit ≤ 1 := reader.pc.credit_le
    have given : ({ reader with pc := .over, outcome := .message message } : Reader).credit = 0 := rfl
    simp only [HandoffRun.took, Pusher.wake_credit]
    omega
  · have moving : ({ reader with pc := .over, outcome := .message message } : Reader).isParked = true →
        reader.isParked = true ∨ ¬ run.queue.closed = true :=
      fun parks => absurd parks Bool.false_ne_true
    refine (waking.announced.move there moving).mono fun sees =>
      Or.inr ⟨closed ▸ sees, fun coming => ?_⟩
    simpa [HandoffRun.took] using coming
  · simpa [HandoffRun.took, closed] using waking.closed
  · exact fun other equal => absurd equal (run.pusher.wake_ne_waiting other)
  · intro other member loop on
    rcases List.mem_or_eq_of_mem_set member with old | rfl
    · exact waking.onLoop other old loop on
    · rw [Reader.not_onLoop (fun _ equal => by cases equal)] at on
      exact absurd on Bool.false_ne_true
  · intro other member
    rcases List.mem_or_eq_of_mem_set member with old | rfl
    · exact waking.sound other old
    · exact .settled rfl

/-- A step of a call. -/
theorem acts (waking : Waking capacity 0 run) (there : run.readers[position]? = some reader)
    (acts : Acts run position reader next) : Waking capacity 0 next := by
  cases acts with
  | took taken free => exact waking.took there taken
  | moved after lost parks pays kept ended settled sound onLoop =>
    refine ⟨?_, ?_, waking.closed, waking.full, ?_, ?_⟩
    · rcases pays with nothing | enough
      · have none : run.queue.items.length = 0 := by rw [nothing]; rfl
        show Covered _ _ _ run.queue.items.length _
        rw [none]
        exact Covered.empty
      · refine waking.covered.move there (fun parked => ?_) ?_
        · exact (parks parked).imp_right fun empty => congrArg List.length empty.1
        · show run.queue.items.length + reader.credit + (run.lost + run.pusher.credit + 0) ≤
            run.queue.items.length + after.credit + (run.lost + lost + run.pusher.credit + 0)
          omega
    · refine waking.announced.move there fun parked => ?_
      exact (parks parked).imp_right fun empty => by rw [empty.2]; exact Bool.false_ne_true
    · intro other member loop on
      rcases List.mem_or_eq_of_mem_set member with old | rfl
      · exact waking.onLoop other old loop on
      · rcases onLoop loop on with was | opened
        · exact waking.onLoop reader (List.mem_of_getElem? there) loop was
        · exact opened
    · intro other member
      rcases List.mem_or_eq_of_mem_set member with old | rfl
      · exact waking.sound other old
      · exact sound

/-- A call begins. -/
theorem join (waking : Waking capacity 0 run) (fresh : HandoffRun.Fresh reader) :
    Waking capacity 0 (run.join reader) := by
  refine ⟨waking.covered.join fresh.moving, waking.announced.join fresh.moving, waking.closed,
    waking.full, ?_, ?_⟩
  · intro other member loop on
    rcases List.mem_append.mp member with old | new
    · exact waking.onLoop other old loop on
    · rw [List.mem_singleton.mp new, fresh.onLoop] at on
      exact absurd on Bool.false_ne_true
  · intro other member
    rcases List.mem_append.mp member with old | new
    · exact waking.sound other old
    · rw [List.mem_singleton.mp new]
      exact fresh.sound

/-- One wake-up reaches a parked call, or is given where nobody is parked. -/
theorem notifyOne (waking : Waking capacity 1 run) {target : Option Nat}
    (stepped : run.notifyOne target = some next) : Waking capacity 0 next := by
  rcases HandoffRun.notifyOne_cases stepped with ⟨position, reader, there, parked, rfl⟩ |
    ⟨rfl, nobody⟩
  · have idle : reader.credit = 0 := ReadAt.credit_of_isParked parked
    have woken : ({ reader with pc := reader.pc.unpark true } : Reader).credit = 1 :=
      ReadAt.unpark_credit parked true
    refine ⟨?_, ?_, waking.closed, waking.full, ?_, ?_⟩
    · refine waking.covered.move there (fun _ => Or.inl parked) ?_
      rw [idle, woken]
      show run.queue.items.length + 0 + (run.lost + run.pusher.credit + 1) ≤
        run.queue.items.length + 1 + (run.lost + run.pusher.credit + 0)
      omega
    · exact waking.announced.move there fun _ => Or.inl parked
    · intro other member loop on
      rcases List.mem_or_eq_of_mem_set member with old | rfl
      · exact waking.onLoop other old loop on
      · exact waking.onLoop reader (List.mem_of_getElem? there) loop
          (reader.onLoop_of_unpark true loop on)
    · intro other member
      rcases List.mem_or_eq_of_mem_set member with old | rfl
      · exact waking.sound other old
      · exact (waking.sound reader (List.mem_of_getElem? there)).unpark true
  · exact ⟨Covered.vacant nobody, Announced.vacant nobody, waking.closed, waking.full,
      waking.onLoop, waking.sound⟩

/-- A call lets go of the wake-up it was to give. -/
theorem letGo (waking : Waking capacity 0 run) (there : run.readers[position]? = some reader) :
    Waking capacity 1 (run.put position { reader with pc := .over }) := by
  have held : reader.credit ≤ 1 := reader.pc.credit_le
  refine ⟨?_, ?_, waking.closed, waking.full, ?_, ?_⟩
  · refine waking.covered.move there (fun parks => absurd parks Bool.false_ne_true) ?_
    show run.queue.items.length + reader.credit + (run.lost + run.pusher.credit + 0) ≤
      run.queue.items.length + 0 + (run.lost + run.pusher.credit + 1)
    omega
  · exact waking.announced.move there fun parks => absurd parks Bool.false_ne_true
  · intro other member loop on
    rcases List.mem_or_eq_of_mem_set member with old | rfl
    · exact waking.onLoop other old loop on
    · rw [Reader.not_onLoop (fun _ equal => by cases equal)] at on
      exact absurd on Bool.false_ne_true
  · intro other member
    rcases List.mem_or_eq_of_mem_set member with old | rfl
    · exact waking.sound other old
    · exact .settled rfl

/-- The stream reader, which has closed the queue, notifies all. -/
theorem closeNotify (waking : Waking capacity 0 run) (closing : run.pusher = .closing) :
    Waking capacity 0 ({ run with pusher := .closed } : HandoffRun).notifyAll := by
  have nobody : ∀ reader ∈ ({ run with pusher := .closed } : HandoffRun).notifyAll.readers,
      reader.isParked = false := by
    intro reader member
    obtain ⟨old, -, rfl⟩ := List.mem_map.mp member
    exact old.pc.unpark_isParked true
  refine ⟨Covered.vacant nobody, Announced.vacant nobody, ?_, (fun _ equal => by cases equal), ?_, ?_⟩
  · show run.queue.closed = true
    rw [waking.closed, closing]
    rfl
  · intro reader member loop on
    obtain ⟨old, was, rfl⟩ := List.mem_map.mp member
    exact waking.onLoop old was loop (old.onLoop_of_unpark true loop on)
  · intro reader member
    obtain ⟨old, was, rfl⟩ := List.mem_map.mp member
    exact (waking.sound old was).unpark true

/-- An event loop closes, and the deliveries scheduled on it are dropped. -/
theorem closeLoop (waking : Waking capacity 0 run) (loop : Nat)
    (stepped : run.step capacity (.closeLoop loop) = some next) : Waking capacity 0 next := by
  obtain rfl := Option.some.inj stepped
  have parks (reader : Reader) (parked : (reader.dropDelivery loop).isParked = true) :
      reader.isParked = true := by
    unfold Reader.dropDelivery at parked
    split at parked
    · exact absurd parked Bool.false_ne_true
    · exact parked
  have falls (reader : Reader) : (reader.dropDelivery loop).credit ≤ reader.credit := by
    unfold Reader.dropDelivery
    split
    · exact Nat.zero_le _
    · exact Nat.le_refl _
  refine ⟨?_, waking.announced.map _ parks, waking.closed, waking.full, ?_, ?_⟩
  · refine (waking.covered.map _ parks falls).pay ?_
    show run.queue.items.length + (run.lost + run.pusher.credit + 0 + _) ≤
      run.queue.items.length + (run.lost + _ + run.pusher.credit + 0)
    omega
  · intro reader member other on
    obtain ⟨old, was, rfl⟩ := List.mem_map.mp member
    unfold Reader.dropDelivery at on
    split at on
    · rw [Reader.not_onLoop (fun _ equal => by cases equal)] at on
      exact absurd on Bool.false_ne_true
    · rename_i elsewhere
      have different : other ≠ loop := fun same => elsewhere (same ▸ on)
      show Function.update run.loopClosed loop true other = false
      rw [Function.update_of_ne different]
      exact waking.onLoop old was other on
  · intro reader member
    obtain ⟨old, was, rfl⟩ := List.mem_map.mp member
    unfold Reader.dropDelivery
    split
    · exact .settled rfl
    · exact waking.sound old was

/-- The stream reader forwards an item. -/
theorem itemStep (waking : Waking capacity 0 run) {item : StreamItem} {wantsRaw wantsDict : Bool}
    (stepped : run.itemStep item wantsRaw wantsDict = some next) : Waking capacity 0 next := by
  unfold HandoffRun.itemStep at stepped
  split at stepped
  · obtain rfl := Option.some.inj stepped
    exact ⟨waking.covered, waking.announced, waking.closed, waking.full, waking.onLoop, waking.sound⟩
  · rename_i message idle
    split at stepped
    · obtain rfl := Option.some.inj stepped
      exact ⟨waking.covered, waking.announced, waking.closed, waking.full, waking.onLoop,
        waking.sound⟩
    split at stepped
    · obtain rfl := Option.some.inj stepped
      have covered := waking.covered
      have announced := waking.announced
      have closed := waking.closed
      rw [idle] at covered announced closed
      exact ⟨covered, announced, closed, (fun _ equal => by cases equal), waking.onLoop, waking.sound⟩
    · obtain rfl := Option.some.inj stepped
      exact ⟨waking.covered, waking.announced, waking.closed, waking.full, waking.onLoop,
        waking.sound⟩
  · cases stepped

/-- One look of `push`. -/
theorem pushStep (waking : Waking capacity 0 run) (stepped : run.pushStep capacity = some next) :
    Waking capacity 0 next := by
  unfold HandoffRun.pushStep at stepped
  split at stepped
  · rename_i message pushing
    have covered := waking.covered
    have announced := waking.announced
    have closed := waking.closed
    rw [pushing] at covered announced closed
    unfold Handoff.push at stepped
    split at stepped
    · rename_i queue found
      split at found
      · split at found <;> cases found
      · cases found
        obtain rfl := Option.some.inj stepped
        refine ⟨covered.pay ?_, announced, closed, (fun _ equal => by cases equal), waking.onLoop,
          waking.sound⟩
        show (run.queue.items ++ [message]).length + (run.lost + 0 + 0) ≤
          run.queue.items.length + (run.lost + 1 + 0)
        rw [List.length_append, List.length_singleton]
        omega
    · rename_i found
      obtain rfl := Option.some.inj stepped
      split at found
      · rename_i full
        exact ⟨covered, announced, closed, fun _ _ => full, waking.onLoop, waking.sound⟩
      · cases found
    · obtain rfl := Option.some.inj stepped
      exact ⟨covered, announced, closed, (fun _ equal => by cases equal), waking.onLoop,
        waking.sound⟩
  · cases stepped

/-- **Every step keeps them.** -/
theorem step (waking : Waking capacity 0 run) (label : HandoffLabel)
    (stepped : run.step capacity label = some next) : Waking capacity 0 next := by
  cases label with
  | item item wantsRaw wantsDict => exact waking.itemStep stepped
  | push => exact waking.pushStep stepped
  | pushWake =>
    obtain rfl := Option.some.inj stepped
    refine ⟨?_, ?_, ?_, fun message equal => absurd equal (run.pusher.wake_ne_waiting message),
      waking.onLoop, waking.sound⟩
    · simpa using waking.covered
    · simpa using waking.announced
    · simpa using waking.closed
  | pushNotify target =>
    simp only [HandoffRun.step] at stepped
    split at stepped
    · rename_i notifying
      have covered := waking.covered
      have announced := waking.announced
      have closed := waking.closed
      rw [notifying] at covered announced closed
      have released : Waking capacity 1 { run with pusher := .idle } :=
        ⟨covered, announced, closed, (fun _ equal => by cases equal), waking.onLoop, waking.sound⟩
      exact released.notifyOne stepped
    · cases stepped
  | streamEnds =>
    simp only [HandoffRun.step] at stepped
    split at stepped
    · rename_i idle
      obtain rfl := Option.some.inj stepped
      have covered := waking.covered
      rw [idle] at covered
      exact ⟨covered, fun _ _ => rfl, rfl, (fun _ equal => by cases equal), waking.onLoop,
        waking.sound⟩
    · cases stepped
  | closeNotify =>
    simp only [HandoffRun.step] at stepped
    split at stepped
    · rename_i closing
      obtain rfl := Option.some.inj stepped
      exact waking.closeNotify closing
    · cases stepped
  | stop =>
    obtain rfl := Option.some.inj stepped
    exact ⟨waking.covered, waking.announced, waking.closed, waking.full, waking.onLoop, waking.sound⟩
  | finalize =>
    obtain rfl := Option.some.inj stepped
    exact ⟨waking.covered, waking.announced, waking.closed, waking.full, waking.onLoop, waking.sound⟩
  | call call =>
    obtain ⟨reader, streaks, fresh, rfl | ⟨message, queue, taken, rfl⟩⟩ :=
      HandoffRun.callStep_cases stepped
    · have joined := waking.join fresh
      exact ⟨joined.covered, joined.announced, joined.closed, joined.full, joined.onLoop,
        joined.sound⟩
    · have last : (run.join reader).readers[run.readers.length]? = some reader := by
        simp [HandoffRun.join]
      have took := (waking.join fresh).took last taken
      exact ⟨took.covered, took.announced, took.closed, took.full, took.onLoop, took.sound⟩
  | closeLoop loop => exact waking.closeLoop loop stepped
  | _ =>
    obtain ⟨reader, there, acts | ⟨target, given⟩⟩ := HandoffRun.step_acts waking.sound rfl stepped
    · exact waking.acts there acts
    · exact (waking.letGo there).notifyOne given

theorem reached (reached : (handoffRuns capacity).Reachable run) : Waking capacity 0 run := by
  have base : ∀ run, (handoffRuns capacity).start run → Waking capacity 0 run := by
    rintro run rfl
    exact start
  exact reached.invariant base fun _ label _ waking stepped => waking.step label stepped

end Waking

/-! ### Main results -/

/-- **No wake-up is lost.** In every state of every run, while a call is parked: the wake-ups on their way,
with those that went with deliveries a closing event loop dropped, are at least as many as the messages
queued; and once the queue is closed the notification of all has yet to be given. -/
theorem parked_covered (capacity : Option Nat) {run : HandoffRun}
    (reached : (handoffRuns capacity).Reachable run)
    (waits : ∃ reader ∈ run.readers, reader.isParked = true) :
    run.queue.items.length ≤ wakeups Reader.credit run.readers + run.pusher.credit + run.lost ∧
      (run.queue.closed = true → run.pusher.isClosing = true) := by
  have waking := Waking.reached reached
  have enough := waking.covered waits
  exact ⟨by omega, waking.announced waits⟩

/-- The call that makes the step, of the steps a call makes by itself: not a time-out, and nothing the
program that iterates does. -/
def HandoffLabel.mover : HandoffLabel → Option Nat
  | .look position _ => some position
  | .notify position _ => some position
  | .thread position => some position
  | .deliver position => some position
  | _ => none

namespace HandoffRun

variable {run : HandoffRun}

/-- A notification always has somewhere to go. -/
theorem notifyOne_enabled (waits : ∃ reader ∈ run.readers, reader.isParked = true) :
    ∃ target next, run.notifyOne target = some next := by
  obtain ⟨reader, member, parked⟩ := waits
  obtain ⟨position, there⟩ := List.getElem?_of_mem member
  exact ⟨some position, _, by simp only [notifyOne, there, if_pos parked]; rfl⟩

/-- Whatever a call is at while it holds a wake-up, it can go on from there. -/
theorem holder_moves {capacity : Option Nat} (waking : Waking capacity 0 run) {position : Nat}
    {reader : Reader} (there : run.readers[position]? = some reader) (holds : 0 < reader.credit)
    (waits : ∃ other ∈ run.readers, other.isParked = true) :
    ∃ label next, label.mover = some position ∧ run.step capacity label = some next := by
  have sound := waking.sound reader (List.mem_of_getElem? there)
  have onLoop := waking.onLoop reader (List.mem_of_getElem? there)
  have looks (enabled : (run.lookStep position reader false).isSome = true) :
      ∃ label next, label.mover = some position ∧ run.step capacity label = some next := by
    obtain ⟨next, found⟩ := Option.isSome_iff_exists.mp enabled
    exact ⟨.look position false, next, rfl, by simpa only [step, onReader, there] using found⟩
  have threads (enabled : (run.threadStep position reader).isSome = true) :
      ∃ label next, label.mover = some position ∧ run.step capacity label = some next := by
    obtain ⟨next, found⟩ := Option.isSome_iff_exists.mp enabled
    exact ⟨.thread position, next, rfl, by simpa only [step, onReader, there] using found⟩
  have loop (async : reader.pc.isAsync = true) :
      ∃ iterator loop, reader.call = .anext iterator loop := by
    have isAnext := sound.async async
    cases call : reader.call with
    | anext iterator loop => exact ⟨iterator, loop, rfl⟩
    | _ => rw [call] at isAnext; cases isAnext
  cases pc : reader.pc with
  | receiving woken =>
    refine looks ?_
    rcases receive_cases run.queue false with ⟨message, after, -, found⟩ | ⟨-, -, found⟩ |
      ⟨-, -, found⟩ <;> simp only [lookStep, pc, found] <;> rfl
  | probing woken =>
    obtain ⟨iterator, loop, call⟩ := loop (by rw [pc]; rfl)
    refine looks ?_
    simp only [lookStep, pc, call]
    cases found : run.queue.waitReadable false with
    | none => rfl
    | some answer =>
      simp only
      split
      · rfl
      · split <;> rfl
  | waiting woken =>
    refine looks ?_
    simp only [lookStep, pc]
    split <;> rfl
  | passing woken =>
    refine looks ?_
    simp only [lookStep, pc]
    split <;> rfl
  | attaching woken =>
    obtain ⟨iterator, loop, call⟩ := loop (by rw [pc]; rfl)
    refine threads ?_
    simp only [threadStep, call, pc]
    split <;> rfl
  | handing woken =>
    obtain ⟨iterator, loop, call⟩ := loop (by rw [pc]; rfl)
    refine threads ?_
    simp only [threadStep, call, pc]
    split <;> rfl
  | scheduled woken =>
    obtain ⟨iterator, loop, call⟩ := loop (by rw [pc]; rfl)
    have opened := onLoop loop (by simp only [Reader.onLoop, call, pc, beq_self_eq_true])
    have enabled : (run.deliverStep position reader).isSome = true := by
      simp only [deliverStep, call, pc, opened, Bool.false_eq_true, if_false]
      split
      · rfl
      · split <;> rfl
    obtain ⟨next, found⟩ := Option.isSome_iff_exists.mp enabled
    exact ⟨.deliver position, next, rfl, by simpa only [step, onReader, there] using found⟩
  | notifying =>
    have others : ∃ other ∈ (run.put position { reader with pc := .over }).readers,
        other.isParked = true := by
      obtain ⟨other, member, parked⟩ := waits
      obtain ⟨place, found⟩ := List.getElem?_of_mem member
      have apart : position ≠ place := by
        rintro rfl
        rw [there] at found
        obtain rfl := Option.some.inj found
        rw [Reader.isParked, pc] at parked
        exact absurd parked Bool.false_ne_true
      refine ⟨other, List.mem_of_getElem? (i := place) ?_, parked⟩
      show (run.readers.set position _)[place]? = _
      rw [List.getElem?_set_ne apart, found]
    obtain ⟨target, next, enabled⟩ := notifyOne_enabled others
    exact ⟨.notify position target, next, rfl, by
      simpa only [step, onReader, there, pc, if_true] using enabled⟩
  | _ => rw [Reader.credit, pc] at holds; cases holds

end HandoffRun

/-- Two blocking iterators wait, and a message of the open connection is handed over. -/
def twoWaiting : List HandoffLabel :=
  [.call .next, .look 0 false, .call .next, .look 1 false,
    .item (.event (.authenticated .null "")) false false,
    .item (.message { event := "data" }) false false, .push, .pushNotify (some 0)]

/-- The first has been woken, the second is parked: one message, one wake-up. -/
theorem parked_covered_two : ∃ run, (handoffRuns (some 1)).run {} twoWaiting = some run ∧
    (∃ reader ∈ run.readers, reader.isParked = true) ∧ run.queue.items.length = 1 ∧
    1 ≤ wakeups Reader.credit run.readers + run.pusher.credit + run.lost := by
  have ran : ∃ run, (handoffRuns (some 1)).run {} twoWaiting = some run ∧
      (∃ reader ∈ run.readers, reader.isParked = true) ∧ run.queue.items.length = 1 :=
    ⟨_, rfl, ⟨_, List.mem_cons_of_mem _ List.mem_cons_self, rfl⟩, rfl⟩
  obtain ⟨run, ran, waits, one⟩ := ran
  have reached := StepMachine.reachable_of_run _ (StepMachine.Reachable.init _ rfl) ran
  exact ⟨run, ran, waits, one, one ▸ (parked_covered (some 1) reached waits).1⟩

/-- **No message is left to the polls.** In every state of every run in which no closing event loop has
dropped a delivery that held a wake-up: while a call is parked and a message is queued, the stream reader
has a notification to give and can give it, or a call that is not parked holds a wake-up and can go on. -/
theorem stranded_moves (capacity : Option Nat) {run : HandoffRun}
    (reached : (handoffRuns capacity).Reachable run)
    (waits : ∃ reader ∈ run.readers, reader.isParked = true)
    (queued : run.queue.items ≠ []) (kept : run.lost = 0) :
    (∃ target next, run.step capacity (.pushNotify target) = some next) ∨
      ∃ position reader label next, run.readers[position]? = some reader ∧
        reader.isParked = false ∧ 0 < reader.credit ∧ label.mover = some position ∧
        run.step capacity label = some next := by
  have waking := Waking.reached reached
  cases pusher : run.pusher with
  | notifying =>
    have waits : ∃ reader ∈ ({ run with pusher := .idle } : HandoffRun).readers,
        reader.isParked = true := waits
    obtain ⟨target, next, enabled⟩ := HandoffRun.notifyOne_enabled waits
    exact Or.inl ⟨target, next, by simpa only [HandoffRun.step, pusher] using enabled⟩
  | _ =>
    have covered := waking.covered
    rw [pusher, kept] at covered
    obtain ⟨reader, member, moving, holds⟩ := Covered.holder covered
      (List.length_pos_iff.mpr queued) waits fun _ parked => ReadAt.credit_of_isParked parked
    obtain ⟨position, there⟩ := List.getElem?_of_mem member
    obtain ⟨label, next, mover, enabled⟩ := HandoffRun.holder_moves waking there holds waits
    exact Or.inr ⟨position, reader, label, next, there, moving, holds, mover, enabled⟩

/-- There the first of the two can go on. -/
theorem stranded_moves_two : ∃ run, (handoffRuns (some 1)).run {} twoWaiting = some run ∧
    ((∃ target next, run.step (some 1) (.pushNotify target) = some next) ∨
      ∃ position reader label next, run.readers[position]? = some reader ∧
        reader.isParked = false ∧ 0 < reader.credit ∧ label.mover = some position ∧
        run.step (some 1) label = some next) := by
  have ran : ∃ run, (handoffRuns (some 1)).run {} twoWaiting = some run ∧
      (∃ reader ∈ run.readers, reader.isParked = true) ∧ run.queue.items ≠ [] ∧ run.lost = 0 :=
    ⟨_, rfl, ⟨_, List.mem_cons_of_mem _ List.mem_cons_self, rfl⟩, List.cons_ne_nil _ _, rfl⟩
  obtain ⟨run, ran, waits, queued, kept⟩ := ran
  have reached := StepMachine.reachable_of_run _ (StepMachine.Reachable.init _ rfl) ran
  exact ⟨run, ran, stranded_moves (some 1) reached waits queued kept⟩

/-- **The stream reader waits only for room.** In every state of every run in which it waits, the queue is
full and open: the call that makes room wakes it in the same step. -/
theorem writer_waits_full (capacity : Option Nat) {run : HandoffRun}
    (reached : (handoffRuns capacity).Reachable run) {message : WebSocketMessage}
    (waits : run.pusher = .waiting message) :
    run.queue.isFull capacity = true ∧ run.queue.closed = false := by
  have waking := Waking.reached reached
  refine ⟨waking.full message waits, ?_⟩
  rw [waking.closed, waits]
  rfl

/-- A queue of one, and a second message. -/
theorem writer_waits_full_one : ∃ run, (handoffRuns (some 1)).run {}
      [.item (.event (.authenticated .null "")) false false,
        .item (.message { event := "data" }) false false, .push, .pushNotify none,
        .item (.message { event := "snapshot" }) false false, .push] = some run ∧
    run.queue.isFull (some 1) = true ∧ run.queue.closed = false := by
  have ran : ∃ run, (handoffRuns (some 1)).run {}
      [.item (.event (.authenticated .null "")) false false,
        .item (.message { event := "data" }) false false, .push, .pushNotify none,
        .item (.message { event := "snapshot" }) false false, .push] = some run ∧
      run.pusher = .waiting { event := "snapshot" } := ⟨_, rfl, rfl⟩
  obtain ⟨run, ran, waits⟩ := ran
  have reached := StepMachine.reachable_of_run _ (StepMachine.Reachable.init _ rfl) ran
  exact ⟨run, ran, writer_waits_full (some 1) reached waits⟩

end FugleMarketdata
