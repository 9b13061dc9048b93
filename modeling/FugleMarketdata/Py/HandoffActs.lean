/-
**What a call of the hand-off does.** The steps of `Handoff.lean`, each said once.

* `Acts` — a step of a call under way: it moves to another place, or takes the oldest message;
* `lookStep_acts`, `threadStep_acts`, `deliverStep_acts` and the others — every step is one of these;
* `step_acts` — so is what a call does on its own label, but for a wake-up it hands on;
* `notifyOne_cases`, `callStep_cases` — a notification, and a call that begins.
-/

import FugleMarketdata.Py.Handoff

namespace FugleMarketdata

open StepMachines StepMachine Monitors

/-! ### What the functions of the queue find -/

namespace Handoff

theorem take_eq_none {queue : Handoff} (none : queue.take = none) : queue.items = [] := by
  cases items : queue.items with
  | nil => rfl
  | cons message rest => simp [take, items] at none

theorem take_eq_some {queue after : Handoff} {message : WebSocketMessage}
    (taken : queue.take = some (message, after)) :
    queue.items = message :: after.items ∧ after.closed = queue.closed := by
  cases items : queue.items with
  | nil => simp [take, items] at taken
  | cons first rest =>
    simp only [take, items, Option.some.injEq, Prod.mk.injEq] at taken
    obtain ⟨rfl, rfl⟩ := taken
    exact ⟨rfl, rfl⟩

theorem waitReadable_waits {queue : Handoff} {expired : Bool}
    (waits : queue.waitReadable expired = none) : queue.items = [] ∧ queue.closed = false := by
  unfold waitReadable at waits
  split at waits
  · cases waits
  split at waits
  · cases waits
  · rename_i nonempty opened
    exact ⟨by simpa using nonempty, by simpa using opened⟩

theorem waitReadable_timedOut {queue : Handoff} {expired : Bool}
    (timedOut : queue.waitReadable expired = some (.ok false)) : queue.items = [] := by
  unfold waitReadable at timedOut
  split at timedOut
  · cases timedOut
  · rename_i nonempty
    simpa using nonempty

end Handoff

/-! ### What a step of a call can do -/

/-- How the place of a call agrees with the call and with what it came to. -/
structure Reader.Sound (reader : Reader) : Prop where
  calling : reader.pc.isCalling = true → reader.outcome.isPending = true
  async : reader.pc.isAsync = true → reader.call.isAnext = true

namespace Reader.Sound

variable {reader : Reader}

theorem sync (pending : reader.outcome.isPending = true) (waits : reader.pc.isAsync = false) :
    reader.Sound :=
  ⟨fun _ => pending, fun async => absurd (waits ▸ async) Bool.false_ne_true⟩

theorem anext (isAnext : reader.call.isAnext = true) (free : reader.pc.isCalling = false) :
    reader.Sound :=
  ⟨fun calling => absurd (free ▸ calling) Bool.false_ne_true, fun _ => isAnext⟩

theorem both (pending : reader.outcome.isPending = true) (isAnext : reader.call.isAnext = true) :
    reader.Sound :=
  ⟨fun _ => pending, fun _ => isAnext⟩

theorem settled (over_ : reader.pc = .over) : reader.Sound := by
  constructor <;>
  · intro still
    rw [over_] at still
    exact absurd still Bool.false_ne_true

end Reader.Sound

/-- A step of a call: it moves to another place, or takes the oldest message. It parks only on a queue
that is empty and open, gives a wake-up up only where nothing is queued, and ends only where nothing is
queued and the queue is closed. -/
inductive Acts (run : HandoffRun) (position : Nat) (reader : Reader) : HandoffRun → Prop
  | moved (after : Reader) (lost : Nat)
      (parks : after.isParked = true →
        reader.isParked = true ∨ run.queue.items = [] ∧ run.queue.closed = false)
      (pays : run.queue.items = [] ∨ reader.credit ≤ after.credit + lost)
      (kept : after.outcome.message? = reader.outcome.message?)
      (ended : after.outcome = .ended →
        reader.outcome = .ended ∨ run.queue.items = [] ∧ run.queue.closed = true)
      (settled : reader.outcome.isPending = false → after.outcome = reader.outcome)
      (sound : after.Sound)
      (onLoop : ∀ loop, after.onLoop loop = true → reader.onLoop loop = true ∨
        run.loopClosed loop = false) :
      Acts run position reader { run.put position after with lost := run.lost + lost }
  | took {message : WebSocketMessage} {queue : Handoff}
      (taken : run.queue.take = some (message, queue))
      (free : reader.outcome.isPending = true) :
      Acts run position reader (run.took position reader message queue)

namespace ReadAt

theorem unpark_isParked (pc : ReadAt) (woken : Bool) : (pc.unpark woken).isParked = false := by
  cases pc <;> rfl

theorem unpark_isCalling (pc : ReadAt) (woken : Bool) : (pc.unpark woken).isCalling = pc.isCalling := by
  cases pc <;> rfl

theorem credit_le (pc : ReadAt) : pc.credit ≤ 1 := by
  cases pc <;> first | exact Nat.zero_le _ | exact Nat.le_refl _ | exact Bool.toNat_le _

theorem credit_of_isParked {pc : ReadAt} (parked : pc.isParked = true) : pc.credit = 0 := by
  cases pc <;> first | rfl | cases parked

theorem unpark_credit {pc : ReadAt} (parked : pc.isParked = true) (woken : Bool) :
    (pc.unpark woken).credit = woken.toNat := by
  cases pc <;> first | rfl | cases parked

theorem credit_le_unpark (pc : ReadAt) (woken : Bool) : pc.credit ≤ (pc.unpark woken).credit := by
  cases pc <;> first | exact Nat.le_refl _ | exact Nat.zero_le _

theorem unpark_isAsync (pc : ReadAt) (woken : Bool) : (pc.unpark woken).isAsync = pc.isAsync := by
  cases pc <;> rfl

end ReadAt

namespace Reader

theorem Sound.unpark {reader : Reader} (sound : reader.Sound) (woken : Bool) :
    Sound { reader with pc := reader.pc.unpark woken } :=
  ⟨fun calling => sound.calling (reader.pc.unpark_isCalling woken ▸ calling),
    fun async => sound.async (reader.pc.unpark_isAsync woken ▸ async)⟩

theorem onLoop_of_unpark (reader : Reader) (woken : Bool) (loop : Nat)
    (on : ({ reader with pc := reader.pc.unpark woken } : Reader).onLoop loop = true) :
    reader.onLoop loop = true := by
  obtain ⟨call, pc, outcome, done, idle⟩ := reader
  cases pc <;> first | exact on | (cases call <;> cases on)

/-- A call at another place than `scheduled` is on no loop. -/
theorem not_onLoop {reader : Reader} (elsewhere : ∀ woken, reader.pc ≠ .scheduled woken) (loop : Nat) :
    reader.onLoop loop = false := by
  obtain ⟨call, pc, outcome, done, idle⟩ := reader
  cases call <;> cases pc <;> first | rfl | exact absurd rfl (elsewhere _)

end Reader

namespace HandoffRun

variable {run next : HandoffRun} {position : Nat} {reader : Reader}

/-- A call at another place, without a delivery on a loop. -/
theorem acts_put (after : Reader)
    (parks : after.isParked = true →
      reader.isParked = true ∨ run.queue.items = [] ∧ run.queue.closed = false)
    (pays : run.queue.items = [] ∨ reader.credit ≤ after.credit)
    (kept : after.outcome = reader.outcome)
    (sound : after.Sound)
    (elsewhere : ∀ woken, after.pc ≠ .scheduled woken) :
    Acts run position reader (run.put position after) :=
  .moved after 0 parks pays (congrArg ReadOutcome.message? kept)
    (fun ends => Or.inl (kept ▸ ends)) (fun _ => kept) sound
    (fun loop on => absurd on (by rw [Reader.not_onLoop elsewhere]; exact Bool.false_ne_true))

/-- A call that is over, with no message: it came to nothing, or to the end of a queue that is closed and
empty. -/
theorem acts_over (outcome : ReadOutcome) (lost : Nat) (waiting : reader.outcome.isPending = true)
    (empty : outcome.message? = none) (pays : run.queue.items = [] ∨ reader.credit ≤ lost)
    (ended : outcome = .ended → run.queue.items = [] ∧ run.queue.closed = true) :
    Acts run position reader
      { run.put position { reader with pc := .over, outcome } with lost := run.lost + lost } := by
  have none : reader.outcome.message? = none := by
    cases was : reader.outcome <;> first | rfl | (rw [was] at waiting; cases waiting)
  refine .moved { reader with pc := .over, outcome } lost ?_ ?_ (empty.trans none.symm)
    (fun ends => Or.inr (ended ends)) (fun came => ?_) (.settled rfl) ?_
  · exact fun parks => absurd parks Bool.false_ne_true
  · rcases pays with nothing | enough
    · exact Or.inl nothing
    · exact Or.inr (Nat.le_trans enough (Nat.le_add_left _ _))
  · rw [waiting] at came
    cases came
  · intro loop on
    rw [Reader.not_onLoop (fun _ there => by cases there)] at on
    exact absurd on Bool.false_ne_true

/-- What `receive` finds: a message, the end, nothing in time, or nothing so far. -/
theorem receive_cases (queue : Handoff) (expired : Bool) :
    (∃ message after, queue.take = some (message, after) ∧
      queue.receive expired = some (.ok (some (message, after)))) ∨
    (queue.items = [] ∧ queue.closed = true ∧ queue.receive expired = some (.error ())) ∨
    (queue.items = [] ∧ queue.closed = false ∧
      queue.receive expired = if expired then some (.ok none) else none) := by
  unfold Handoff.receive
  cases taken : queue.take with
  | some pair => exact Or.inl ⟨pair.1, pair.2, rfl, rfl⟩
  | none =>
    have nothing := Handoff.take_eq_none taken
    cases closed : queue.closed with
    | true => exact Or.inr (Or.inl ⟨nothing, rfl, rfl⟩)
    | false => exact Or.inr (Or.inr ⟨nothing, rfl, rfl⟩)

/-- A look under the lock. -/
theorem lookStep_acts {expired : Bool}
    (sound : reader.Sound)
    (stepped : run.lookStep position reader expired = some next) : Acts run position reader next := by
  unfold lookStep at stepped
  split at stepped
  · -- `receive`
    rename_i woken there
    have pending := sound.calling (by rw [there]; rfl)
    rcases receive_cases run.queue expired with ⟨message, after, taken, found⟩ |
      ⟨nothing, closed, found⟩ | ⟨nothing, opened, found⟩
    · rw [found] at stepped
      obtain rfl := Option.some.inj stepped
      exact .took taken pending
    · rw [found] at stepped
      obtain rfl := Option.some.inj stepped
      exact acts_over .ended 0 pending rfl (Or.inl nothing) fun _ => ⟨nothing, closed⟩
    · rw [found] at stepped
      cases expired <;> obtain rfl := Option.some.inj stepped
      · exact acts_put _ (fun _ => Or.inr ⟨nothing, opened⟩) (Or.inl nothing) rfl
          (.sync pending rfl) (fun _ equal => by cases equal)
      · exact acts_put _ (fun parks => absurd parks Bool.false_ne_true) (Or.inl nothing) rfl
          (.sync pending rfl) (fun _ equal => by cases equal)
  · -- `wait_readable` within `__anext__`
    rename_i woken there
    have isAnext := sound.async (by rw [there]; rfl)
    have pending := sound.calling (by rw [there]; rfl)
    split at stepped
    · rename_i iterator loop answer isCall found
      split at stepped
      · obtain rfl := Option.some.inj stepped
        exact acts_put _ (fun parks => absurd parks Bool.false_ne_true)
          (Or.inl (Handoff.waitReadable_timedOut found)) rfl (.anext isAnext rfl)
          (fun _ equal => by cases equal)
      · have held : reader.credit = woken.toNat := by rw [Reader.credit, there]; rfl
        split at stepped
        · obtain rfl := Option.some.inj stepped
          exact acts_over .raised woken.toNat pending rfl (Or.inr (Nat.le_of_eq held))
            (fun equal => by cases equal)
        · rename_i opened
          obtain rfl := Option.some.inj stepped
          refine .moved _ 0 (fun parks => absurd parks Bool.false_ne_true)
            (Or.inr (Nat.le_of_eq held)) rfl Or.inl (fun _ => rfl) (.anext isAnext rfl) ?_
          intro other on
          refine Or.inr ?_
          simp only [Reader.onLoop, isCall, beq_iff_eq] at on
          rw [← on]
          exact Bool.eq_false_iff.mpr opened
    · rename_i found
      obtain ⟨nothing, opened⟩ := Handoff.waitReadable_waits found
      obtain rfl := Option.some.inj stepped
      exact acts_put _ (fun _ => Or.inr ⟨nothing, opened⟩) (Or.inl nothing) rfl
        (.both pending isAnext) (fun _ equal => by cases equal)
    · cases stepped
  · -- `wait_readable` of the waiting thread
    rename_i woken there
    have isAnext := sound.async (by rw [there]; rfl)
    have held : reader.credit = woken.toNat := by rw [Reader.credit, there]; rfl
    split at stepped
    · rename_i found
      obtain rfl := Option.some.inj stepped
      exact acts_put _ (fun parks => absurd parks Bool.false_ne_true)
        (Or.inl (Handoff.waitReadable_timedOut found)) rfl
        (.anext isAnext rfl) (fun _ equal => by cases equal)
    · obtain rfl := Option.some.inj stepped
      exact acts_put _ (fun parks => absurd parks Bool.false_ne_true)
        (Or.inr (Nat.le_of_eq held)) rfl (.anext isAnext rfl)
        (fun _ equal => by cases equal)
    · rename_i found
      obtain ⟨nothing, opened⟩ := Handoff.waitReadable_waits found
      obtain rfl := Option.some.inj stepped
      exact acts_put _ (fun _ => Or.inr ⟨nothing, opened⟩) (Or.inl nothing) rfl
        (.anext isAnext rfl) (fun _ equal => by cases equal)
  · -- `pass_wakeup`
    rename_i woken there
    have isAnext := sound.async (by rw [there]; rfl)
    have held : reader.credit ≤ 1 := reader.pc.credit_le
    split at stepped
    · rename_i empty
      obtain rfl := Option.some.inj stepped
      exact acts_put _ (fun parks => absurd parks Bool.false_ne_true)
        (Or.inl (List.isEmpty_iff.mp empty)) rfl (.anext isAnext rfl)
        (fun _ equal => by cases equal)
    · obtain rfl := Option.some.inj stepped
      exact acts_put _ (fun parks => absurd parks Bool.false_ne_true) (Or.inr held) rfl
        (.anext isAnext rfl) (fun _ equal => by cases equal)
  · -- `Deliver` that found nothing
    rename_i there
    have isAnext := sound.async (by rw [there]; rfl)
    have pending := sound.calling (by rw [there]; rfl)
    have none : reader.credit = 0 := by rw [Reader.credit, there]; rfl
    split at stepped
    · rename_i finished
      simp only [Handoff.isFinished, Bool.and_eq_true, List.isEmpty_iff] at finished
      obtain rfl := Option.some.inj stepped
      exact acts_over .ended 0 pending rfl (Or.inl finished.2) fun _ => ⟨finished.2, finished.1⟩
    · obtain rfl := Option.some.inj stepped
      exact acts_put _ (fun parks => absurd parks Bool.false_ne_true)
        (Or.inr (Nat.le_of_eq none)) rfl (.anext isAnext rfl)
        (fun _ equal => by cases equal)
  · cases stepped

/-- What a call does off the lock. -/
theorem unpark_acts (sound : reader.Sound) :
    Acts run position reader (run.put position { reader with pc := reader.pc.unpark false }) := by
  refine .moved _ 0 ?_ (Or.inr (reader.pc.credit_le_unpark false)) rfl Or.inl (fun _ => rfl) ?_ ?_
  · intro parks
    rw [Reader.isParked, ReadAt.unpark_isParked] at parks
    exact absurd parks Bool.false_ne_true
  · exact sound.unpark false
  · exact fun loop on => Or.inl (reader.onLoop_of_unpark false loop on)

theorem signalsStep_acts {choice : AfterSignals}
    (sound : reader.Sound)
    (stepped : run.signalsStep position reader choice = some next) : Acts run position reader next := by
  unfold signalsStep at stepped
  split at stepped
  · rename_i there
    have pending := sound.calling (by rw [there]; rfl)
    have none : reader.credit = 0 := by rw [Reader.credit, there]; rfl
    cases choice with
    | again =>
      obtain rfl := Option.some.inj stepped
      exact acts_put _ (fun parks => absurd parks Bool.false_ne_true)
        (Or.inr (Nat.le_of_eq none)) rfl (.sync pending rfl) (fun _ equal => by cases equal)
    | interrupted =>
      obtain rfl := Option.some.inj stepped
      exact acts_over .raised 0 pending rfl (Or.inr (Nat.le_of_eq none)) (fun equal => by cases equal)
    | timedOut =>
      simp only at stepped
      split at stepped
      · obtain rfl := Option.some.inj stepped
        exact acts_over .nothing 0 pending rfl (Or.inr (Nat.le_of_eq none))
          (fun equal => by cases equal)
      · cases stepped
  · cases stepped

theorem threadStep_acts (stepped : run.threadStep position reader = some next) :
    Acts run position reader next := by
  unfold threadStep at stepped
  split at stepped
  · rename_i isCall there
    have isAnext : reader.call.isAnext = true := by rw [isCall]; rfl
    have none : reader.credit = 0 := by rw [Reader.credit, there]; rfl
    split at stepped <;> obtain rfl := Option.some.inj stepped <;>
      exact acts_put _ (fun parks => absurd parks Bool.false_ne_true)
        (Or.inr (Nat.le_of_eq none)) rfl (.anext isAnext rfl)
        (fun _ equal => by cases equal)
  · rename_i isCall there
    have isAnext : reader.call.isAnext = true := by rw [isCall]; rfl
    have none : reader.credit = 0 := by rw [Reader.credit, there]; rfl
    simp only at stepped
    split at stepped <;> obtain rfl := Option.some.inj stepped <;>
      exact acts_put _ (fun parks => absurd parks Bool.false_ne_true)
        (Or.inr (Nat.le_of_eq none)) rfl (.anext isAnext rfl)
        (fun _ equal => by cases equal)
  · rename_i woken isCall there
    have isAnext : reader.call.isAnext = true := by rw [isCall]; rfl
    have held : reader.credit = woken.toNat := by rw [Reader.credit, there]; rfl
    split at stepped <;> obtain rfl := Option.some.inj stepped <;>
      exact acts_put _ (fun parks => absurd parks Bool.false_ne_true)
        (Or.inr (Nat.le_of_eq held)) rfl (.anext isAnext rfl)
        (fun _ equal => by cases equal)
  · rename_i loop woken isCall there
    have isAnext : reader.call.isAnext = true := by rw [isCall]; rfl
    have held : reader.credit = woken.toNat := by rw [Reader.credit, there]; rfl
    split at stepped
    · obtain rfl := Option.some.inj stepped
      exact acts_put _ (fun parks => absurd parks Bool.false_ne_true)
        (Or.inr (Nat.le_of_eq held)) rfl (.anext isAnext rfl)
        (fun _ equal => by cases equal)
    · rename_i opened
      obtain rfl := Option.some.inj stepped
      refine .moved _ 0 (fun parks => absurd parks Bool.false_ne_true)
        (Or.inr (Nat.le_of_eq held)) rfl Or.inl (fun _ => rfl) (.anext isAnext rfl) ?_
      intro other on
      refine Or.inr ?_
      simp only [Reader.onLoop, isCall, beq_iff_eq] at on
      rw [← on]
      exact Bool.eq_false_iff.mpr opened
  · cases stepped

theorem deliverStep_acts (stepped : run.deliverStep position reader = some next) :
    Acts run position reader next := by
  unfold deliverStep at stepped
  split at stepped
  · rename_i loop woken isCall there
    have isAnext : reader.call.isAnext = true := by rw [isCall]; rfl
    have held : reader.credit = woken.toNat := by rw [Reader.credit, there]; rfl
    split at stepped
    · cases stepped
    split at stepped
    · obtain rfl := Option.some.inj stepped
      exact acts_put _ (fun parks => absurd parks Bool.false_ne_true)
        (Or.inr (Nat.le_of_eq held)) rfl (.anext isAnext rfl)
        (fun _ equal => by cases equal)
    · rename_i waiting
      have pending : reader.outcome.isPending = true := by simpa using waiting
      split at stepped
      · rename_i message queue taken
        obtain rfl := Option.some.inj stepped
        exact .took taken pending
      · rename_i none
        obtain rfl := Option.some.inj stepped
        exact acts_put _ (fun parks => absurd parks Bool.false_ne_true)
          (Or.inl (Handoff.take_eq_none none)) rfl (.both pending isAnext) (fun _ equal => by cases equal)
  · cases stepped

theorem cancelStep_acts (sound : reader.Sound) (stepped : run.cancelStep position reader = some next) :
    Acts run position reader next := by
  unfold cancelStep at stepped
  split at stepped
  · rename_i allowed
    simp only [Bool.and_eq_true, Bool.not_eq_true'] at allowed
    have none : reader.outcome.message? = none := by
      have pending := allowed.1
      cases was : reader.outcome <;> first | rfl | (rw [was] at pending; cases pending)
    obtain rfl := Option.some.inj stepped
    refine .moved _ 0 Or.inl (Or.inr (Nat.le_refl _)) none.symm (fun equal => by cases equal)
      (fun came => ?_) ⟨fun calling => ?_, sound.async⟩ (fun _ => Or.inl)
    · rw [allowed.1] at came
      cases came
    · rw [allowed.2] at calling
      exact absurd calling Bool.false_ne_true
  · cases stepped

theorem markDone_acts (sound : reader.Sound) :
    Acts run position reader (run.put position { reader with done := true }) :=
  .moved _ 0 Or.inl (Or.inr (Nat.le_refl _)) rfl Or.inl (fun _ => rfl)
    ⟨sound.calling, sound.async⟩ (fun _ => Or.inl)

theorem onReader_cases {act : HandoffRun → Nat → Reader → Option HandoffRun}
    (stepped : run.onReader position act = some next) :
    ∃ reader, run.readers[position]? = some reader ∧ act run position reader = some next := by
  unfold onReader at stepped
  split at stepped
  · rename_i reader there
    exact ⟨reader, there, stepped⟩
  · cases stepped

/-! ### What the other steps do -/

/-- `notify_one` takes one parked call off, or finds none. -/
theorem notifyOne_cases {target : Option Nat} (stepped : run.notifyOne target = some next) :
    (∃ position reader, run.readers[position]? = some reader ∧ reader.isParked = true ∧
      next = run.put position { reader with pc := reader.pc.unpark true }) ∨
    (next = run ∧ ∀ reader ∈ run.readers, reader.isParked = false) := by
  unfold notifyOne at stepped
  split at stepped
  · rename_i position
    split at stepped
    · rename_i reader there
      split at stepped
      · rename_i parked
        exact Or.inl ⟨position, reader, there, parked, (Option.some.inj stepped).symm⟩
      · cases stepped
    · cases stepped
  · split at stepped
    · cases stepped
    · rename_i nobody
      refine Or.inr ⟨(Option.some.inj stepped).symm, fun reader member => ?_⟩
      by_contra parked
      exact nobody (List.any_eq_true.mpr ⟨reader, member, Bool.of_not_eq_false parked⟩)

/-- A call that has just begun. -/
structure Fresh (reader : Reader) : Prop where
  moving : reader.isParked = false
  credit : reader.credit = 0
  outcome : reader.outcome = .pending ∨ reader.outcome = .nothing
  sound : reader.Sound
  onLoop : ∀ loop, reader.onLoop loop = false

/-- A call begins, and may take a message at once. -/
theorem callStep_cases {call : ReadCall} (stepped : run.callStep call = some next) :
    ∃ reader streaks, Fresh reader ∧
      (next = { run.join reader with streaks } ∨ ∃ message queue,
        run.queue.take = some (message, queue) ∧
        next = { (run.join reader).took run.readers.length reader message queue with streaks }) := by
  unfold callStep at stepped
  split at stepped
  · have fresh : Fresh { call := .tryRecv, pc := .over, outcome := .nothing } :=
      ⟨rfl, rfl, Or.inr rfl, .settled rfl, fun _ => rfl⟩
    simp only at stepped
    split at stepped
    · rename_i message queue taken
      exact ⟨_, run.streaks, fresh, Or.inr ⟨message, queue, taken, (Option.some.inj stepped).symm⟩⟩
    · exact ⟨_, run.streaks, fresh, Or.inl (Option.some.inj stepped).symm⟩
  · exact ⟨_, run.streaks, ⟨rfl, rfl, Or.inl rfl, .sync rfl rfl, fun _ => rfl⟩,
      Or.inl (Option.some.inj stepped).symm⟩
  · exact ⟨_, run.streaks, ⟨rfl, rfl, Or.inl rfl, .sync rfl rfl, fun _ => rfl⟩,
      Or.inl (Option.some.inj stepped).symm⟩
  · rename_i iterator loop
    simp only at stepped
    split at stepped
    · cases stepped
    split at stepped
    · have fresh : Fresh { call := .anext iterator loop, pc := .checking } :=
        ⟨rfl, rfl, Or.inl rfl, .both rfl rfl, fun _ => rfl⟩
      split at stepped
      · rename_i message queue taken
        exact ⟨_, _, fresh, Or.inr ⟨message, queue, taken, (Option.some.inj stepped).symm⟩⟩
      · exact ⟨_, _, fresh, Or.inl (Option.some.inj stepped).symm⟩
    · exact ⟨_, _, ⟨rfl, rfl, Or.inl rfl, .both rfl rfl, fun _ => rfl⟩,
        Or.inl (Option.some.inj stepped).symm⟩

/-- The call under way that a step belongs to. -/
def caller : HandoffLabel → Option Nat
  | .look position _ => some position
  | .unpark position => some position
  | .notify position _ => some position
  | .afterSignals position _ => some position
  | .thread position => some position
  | .deliver position => some position
  | .cancel position => some position
  | .markDone position => some position
  | _ => none

/-- **What a call under way does**: it acts, or gives the wake-up it was to hand on. -/
theorem step_acts {capacity : Option Nat} {label : HandoffLabel}
    (sound : ∀ reader ∈ run.readers, reader.Sound) (is_ : caller label = some position)
    (stepped : run.step capacity label = some next) :
    ∃ reader, run.readers[position]? = some reader ∧ (Acts run position reader next ∨
      ∃ target, (run.put position { reader with pc := .over }).notifyOne target = some next) := by
  have soundAt {reader : Reader} (there : run.readers[position]? = some reader) :=
    sound reader (List.mem_of_getElem? there)
  cases label with
  | look own expired =>
    obtain rfl := Option.some.inj is_
    simp only [step] at stepped
    obtain ⟨reader, there, acted⟩ := onReader_cases stepped
    exact ⟨reader, there, Or.inl (lookStep_acts (soundAt there) acted)⟩
  | unpark own =>
    obtain rfl := Option.some.inj is_
    simp only [step] at stepped
    obtain ⟨reader, there, acted⟩ := onReader_cases stepped
    obtain rfl := Option.some.inj acted
    exact ⟨reader, there, Or.inl (unpark_acts (soundAt there))⟩
  | notify own target =>
    obtain rfl := Option.some.inj is_
    simp only [step] at stepped
    obtain ⟨reader, there, acted⟩ := onReader_cases stepped
    split at acted
    · exact ⟨reader, there, Or.inr ⟨target, acted⟩⟩
    · cases acted
  | afterSignals own choice =>
    obtain rfl := Option.some.inj is_
    simp only [step] at stepped
    obtain ⟨reader, there, acted⟩ := onReader_cases stepped
    exact ⟨reader, there, Or.inl (signalsStep_acts (soundAt there) acted)⟩
  | thread own =>
    obtain rfl := Option.some.inj is_
    simp only [step] at stepped
    obtain ⟨reader, there, acted⟩ := onReader_cases stepped
    exact ⟨reader, there, Or.inl (threadStep_acts acted)⟩
  | deliver own =>
    obtain rfl := Option.some.inj is_
    simp only [step] at stepped
    obtain ⟨reader, there, acted⟩ := onReader_cases stepped
    exact ⟨reader, there, Or.inl (deliverStep_acts acted)⟩
  | cancel own =>
    obtain rfl := Option.some.inj is_
    simp only [step] at stepped
    obtain ⟨reader, there, acted⟩ := onReader_cases stepped
    exact ⟨reader, there, Or.inl (cancelStep_acts (soundAt there) acted)⟩
  | markDone own =>
    obtain rfl := Option.some.inj is_
    simp only [step] at stepped
    obtain ⟨reader, there, acted⟩ := onReader_cases stepped
    split at acted
    · cases acted
    · obtain rfl := Option.some.inj acted
      exact ⟨reader, there, Or.inl (markDone_acts (soundAt there))⟩
  | _ => cases is_

end HandoffRun

end FugleMarketdata
