/-
**Latency calls beside each other.** `register`, `cancel`, `fail_all` and `intercept_pong` of
`LatencyWaiters` from any threads, each section under the lock one step and the draw of a number one step.

* `latencyRuns` — the calls as a machine, with all that was done (`history`);
* `LatencyEvent.Judged` — what each pong may do, given what was done before it;
* `latency_answered_once` — a waiter is answered once, by its own pong, and no other pong is taken but
  those of calls that gave up a short while ago.
-/

import Mathlib
import FugleMarketdata.Lib.StepMachine
import FugleMarketdata.Lib.Trace
import FugleMarketdata.Websocket.Latency

namespace FugleMarketdata

open StepMachines StepMachine Traces

/-! ### States -/

theorem latencyState_injective : Function.Injective latencyState := by
  intro id other same
  simp only [latencyState] at same
  have lists := congrArg String.toList same
  rw [String.toList_append, String.toList_append] at lists
  exact Nat.repr_injective (String.toList_inj.mp (List.append_cancel_left lists))

theorem latencyState_ne_probe (id : Nat) : latencyState id ≠ PROBE_STATE := by
  intro same
  have lists := congrArg (fun state => state.toList.take 11) same
  simp only [latencyState, String.toList_append] at lists
  rw [List.take_append_of_le_length (by decide)] at lists
  exact absurd lists (by decide)

/-- The `state` of a pong. -/
def WebSocketMessage.pongState (msg : WebSocketMessage) : Option String :=
  if msg.isPong then (msg.data.bind (·.get "state")).bind Value.asStr else none

/-! ### Removing -/

theorem swapRemove_perm {α : Type} {list : List α} {position : Nat} (within : position < list.length) :
    (swapRemove list position).Perm (list.eraseIdx position) := by
  induction list using List.reverseRecOn with
  | nil => cases within
  | append_singleton list last _ =>
    simp only [swapRemove, List.getLast?_append, List.getLast?_singleton, Option.some_or]
    rw [List.length_append, List.length_singleton] at within
    by_cases earlier : position < list.length
    · rw [List.set_append_left _ _ earlier, List.dropLast_concat,
        List.eraseIdx_append_of_lt_length earlier]
      exact (List.set_perm_cons_eraseIdx earlier last).trans (List.perm_append_singleton last _).symm
    · have final : position = list.length := by omega
      subst final
      simp [List.eraseIdx_append_of_length_le]

/-- Removing the first element that equals `state`, found by its position. -/
theorem eraseIdx_of_findIdx {list : List String} {state : String} {position : Nat}
    (found : list.findIdx? (· = state) = some position) :
    position < list.length ∧ state ∈ list ∧ list.eraseIdx position = list.erase state := by
  obtain ⟨within, here, -⟩ := List.findIdx?_eq_some_iff_getElem.mp found
  have same : list[position] = state := of_decide_eq_true here
  refine ⟨within, same ▸ List.getElem_mem within, ?_⟩
  have index : list.idxOf? state = some position := found
  rw [List.erase_eq_eraseIdx, index]

theorem not_mem_of_findIdx {list : List String} {state : String}
    (missing : list.findIdx? (· = state) = none) : state ∉ list := by
  intro member
  have differs := List.findIdx?_eq_none_iff.mp missing state member
  exact of_decide_eq_false differs rfl

namespace LatencyWaiters

variable (waiters : LatencyWaiters) (msg : WebSocketMessage) (arrived : Nat)

/-- What `intercept_pong` does with a message: no pong with a state, the probe's, the pong of a waiter,
that of one that gave up, or somebody else's. -/
theorem interceptPong_cases :
    msg.pongState = none ∧ waiters.interceptPong msg arrived = (false, waiters) ∨
      ∃ state, msg.pongState = some state ∧
        (state = PROBE_STATE ∧ waiters.interceptPong msg arrived = (true, waiters) ∨
          state ≠ PROBE_STATE ∧ state ∈ waiters.waiting ∧
            (∃ others, others.Perm (waiters.waiting.erase state) ∧
              waiters.interceptPong msg arrived = (true, { waiters with
                waiting := others, answered := waiters.answered ++ [(state, arrived)] })) ∨
          state ≠ PROBE_STATE ∧ state ∉ waiters.waiting ∧ state ∈ waiters.expired ∧
            waiters.interceptPong msg arrived =
              (true, { waiters with expired := waiters.expired.erase state }) ∨
          state ≠ PROBE_STATE ∧ state ∉ waiters.waiting ∧ state ∉ waiters.expired ∧
            waiters.interceptPong msg arrived = (false, waiters)) := by
  unfold WebSocketMessage.pongState interceptPong
  by_cases pong : msg.isPong = true
  · simp only [pong, Bool.not_true, Bool.false_eq_true, if_false, if_true]
    cases read : (msg.data.bind (·.get "state")).bind Value.asStr with
    | none => exact .inl ⟨rfl, rfl⟩
    | some state =>
      refine .inr ⟨state, rfl, ?_⟩
      by_cases probe : state = PROBE_STATE
      · exact .inl ⟨probe, if_pos probe⟩
      · simp only [if_neg probe]
        right
        cases wait : waiters.waiting.findIdx? (· = state) with
        | some position =>
          obtain ⟨within, member, erased⟩ := eraseIdx_of_findIdx wait
          exact .inl ⟨probe, member, _, erased ▸ swapRemove_perm within, rfl⟩
        | none =>
          right
          have absent := not_mem_of_findIdx wait
          cases gaveUp : waiters.expired.findIdx? (· = state) with
          | some position =>
            obtain ⟨-, member, erased⟩ := eraseIdx_of_findIdx gaveUp
            exact .inl ⟨probe, absent, member, by rw [← erased]⟩
          | none => exact .inr ⟨probe, absent, not_mem_of_findIdx gaveUp, rfl⟩
  · have other : msg.isPong = false := Bool.eq_false_iff.mpr pong
    simp [other]

end LatencyWaiters

/-! ### The calls as a machine -/

/-- Something done: a call of `register` drew its number, and later pushed its waiter; a call of `cancel`
or `fail_all`; a message offered to `intercept_pong`, with whether it was taken and the callbacks run. -/
inductive LatencyEvent where
  | drawn (id : Nat)
  | registered (id : Nat)
  | cancelled (state : String)
  | failedAll
  | pong (msg : WebSocketMessage) (arrived : Nat) (taken : Bool) (ran : List (String × Nat))

namespace LatencyEvent

def drawnId : LatencyEvent → Option Nat
  | drawn id => some id
  | _ => none

def registeredId : LatencyEvent → Option Nat
  | registered id => some id
  | _ => none

def cancelledState : LatencyEvent → Option String
  | cancelled state => some state
  | _ => none

def isCancel (event : LatencyEvent) : Bool := event.cancelledState.isSome

/-- The callbacks run. -/
def ran : LatencyEvent → List (String × Nat)
  | pong _ _ _ ran => ran
  | _ => []

/-- A pong with a state, or `fail_all`. -/
def forgets (state : String) : LatencyEvent → Bool
  | failedAll => true
  | pong msg _ _ _ => msg.pongState == some state
  | _ => false

end LatencyEvent

/-- From the registration of a state until its cancel, a `fail_all` or its answer. -/
def waits (state : String) : Window LatencyEvent where
  opens
    | .registered id => latencyState id == state
    | _ => false
  closes
    | .cancelled cancelled => cancelled == state
    | .failedAll => true
    | .pong _ _ _ ran => ran.any (·.1 == state)
    | _ => false

/-- A state was cancelled, so many cancels followed, and since then neither a pong had it nor did
`fail_all` run. -/
def CancelledSince (history : List LatencyEvent) (state : String) (cancels : Nat) : Prop :=
  ∃ earlier since, history = earlier ++ .cancelled state :: since ∧
    since.countP LatencyEvent.isCancel = cancels ∧ ∀ event ∈ since, event.forgets state = false

def drawnIds (history : List LatencyEvent) : List Nat := history.filterMap LatencyEvent.drawnId

def registeredIds (history : List LatencyEvent) : List Nat := history.filterMap LatencyEvent.registeredId

/-- The states `register` returned. -/
def handedOut (history : List LatencyEvent) : List String := (registeredIds history).map latencyState

/-- The callbacks run, with the state they were registered under. -/
def answers (history : List LatencyEvent) : List (String × Nat) := history.flatMap LatencyEvent.ran

/-- The calls so far. -/
structure LatencyRun where
  waiters : LatencyWaiters := {}
  nextId : Nat := 0
  registering : List Nat := []
  history : List LatencyEvent := []

/-- The next step of a call. `push` ends a `register`. -/
inductive LatencyInput where
  | draw
  | push (id : Nat)
  | cancel (state : String)
  | failAll
  | pong (msg : WebSocketMessage) (arrived : Nat)

namespace LatencyRun

/-- A step, with what was done. -/
def note (run : LatencyRun) (waiters : LatencyWaiters) (event : LatencyEvent) : LatencyRun :=
  { run with waiters, history := run.history ++ [event] }

/-- A step of a call. `cancel` is called with a state that `register` returned, once. -/
def step (run : LatencyRun) : LatencyInput → Option LatencyRun
  | .draw =>
    some { run.note run.waiters (.drawn run.nextId) with
      nextId := (run.nextId + 1) % 2 ^ 64
      registering := run.nextId :: run.registering }
  | .push id =>
    if id ∈ run.registering then
      some { run.note (run.waiters.push (latencyState id)) (.registered id) with
        registering := run.registering.erase id }
    else none
  | .cancel state =>
    if state ∈ handedOut run.history ∧ state ∉ run.history.filterMap LatencyEvent.cancelledState then
      some (run.note (run.waiters.cancel state) (.cancelled state))
    else none
  | .failAll => some (run.note run.waiters.failAll .failedAll)
  | .pong msg arrived =>
    let (taken, waiters) := run.waiters.interceptPong msg arrived
    some (run.note waiters
      (.pong msg arrived taken (waiters.answered.drop run.waiters.answered.length)))

end LatencyRun

/-- The calls on the waiters of one client. -/
def latencyRuns : StepMachine LatencyRun LatencyInput where
  start run := run = {}
  step := LatencyRun.step

/-! ### What the calls keep -/

/-- A state that a pong is awaited for: its waiter is registered, or gave up with fewer cancels since than
are remembered. -/
def Awaited (history : List LatencyEvent) (state : String) : Prop :=
  (waits state).Inside history ∨ ∃ cancels < EXPIRED_STATES_KEPT, CancelledSince history state cancels

/-- What a message offered to `intercept_pong` may do after what was done before: run the callback of the
waiter whose state it has, and be taken only for a state that was handed out or the probe's. -/
structure PongJudged (earlier : List LatencyEvent) (msg : WebSocketMessage) (arrived : Nat) (taken : Bool)
    (ran : List (String × Nat)) : Prop where
  own : ∀ answer ∈ ran, answer.2 = arrived ∧ msg.pongState = some answer.1 ∧
    (waits answer.1).Inside earlier
  answers : ∀ state, msg.pongState = some state → (waits state).Inside earlier → ran = [(state, arrived)]
  known : taken = true → ∃ state, msg.pongState = some state ∧
    (state = PROBE_STATE ∨ state ∈ handedOut earlier)
  taken : ∀ state, msg.pongState = some state → Awaited earlier state → taken = true

def LatencyEvent.Judged (earlier : List LatencyEvent) : LatencyEvent → Prop
  | pong msg arrived taken ran => PongJudged earlier msg arrived taken ran
  | _ => True

/-- What holds while the numbers have not run out. -/
structure LatencyRun.Kept (run : LatencyRun) : Prop where
  drawn : drawnIds run.history = List.range run.nextId
  apart : (run.registering ++ registeredIds run.history).Nodup
  below : ∀ id ∈ run.registering ++ registeredIds run.history, id < run.nextId
  waiting : ∀ state, state ∈ run.waiters.waiting ↔ (waits state).Inside run.history
  waitingApart : run.waiters.waiting.Nodup
  expired : ∀ state ∈ run.waiters.expired, state ∈ handedOut run.history
  remembered : ∀ state cancels, CancelledSince run.history state cancels →
    cancels < EXPIRED_STATES_KEPT →
      ∃ front back, run.waiters.expired = front ++ state :: back ∧ back.length ≤ cancels
  bounded : run.waiters.expired.length ≤ EXPIRED_STATES_KEPT
  answered : run.waiters.answered = answers run.history
  once : ((answers run.history).map Prod.fst).Nodup
  done : ∀ answer ∈ answers run.history,
    answer.1 ∈ handedOut run.history ∧ answer.1 ∉ run.waiters.waiting
  judged : Throughout LatencyEvent.Judged run.history

theorem handedOut_of_inside {history : List LatencyEvent} {state : String}
    (inside : (waits state).Inside history) : state ∈ handedOut history := by
  obtain ⟨earlier, opener, later, rfl, opens, -⟩ := inside
  cases opener with
  | registered id =>
    have same : latencyState id = state := by simpa [waits] using opens
    simp [handedOut, registeredIds, LatencyEvent.registeredId, ← same]
  | _ => simp [waits] at opens

theorem cancelledSince_concat {history : List LatencyEvent} {event : LatencyEvent} {state : String}
    {cancels : Nat} (since : CancelledSince (history ++ [event]) state cancels) :
    event = .cancelled state ∧ cancels = 0 ∨
      event.forgets state = false ∧
        ∃ before, CancelledSince history state before ∧ cancels = before + event.isCancel.toNat := by
  obtain ⟨earlier, since, split, count, quiet⟩ := since
  induction since using List.reverseRecOn with
  | nil =>
    obtain ⟨-, same⟩ := List.append_inj' split rfl
    cases same
    exact .inl ⟨rfl, by simpa using count.symm⟩
  | append_singleton between last _ =>
    have reassociated : history ++ [event] = (earlier ++ .cancelled state :: between) ++ [last] := by
      simpa using split
    obtain ⟨rfl, same⟩ := List.append_inj' reassociated rfl
    cases same
    refine .inr ⟨quiet event (List.mem_append_right _ List.mem_cons_self),
      between.countP LatencyEvent.isCancel, ⟨earlier, between, rfl, rfl, fun found member => ?_⟩, ?_⟩
    · exact quiet found (List.mem_append_left _ member)
    · rw [← count, List.countP_append, List.countP_singleton]
      cases event.isCancel <;> rfl

/-- A pong for another state leaves a remembered one where it is, counted from the back. -/
theorem erase_other {state other : String} (different : other ≠ state) (front back : List String) :
    ∃ front' back', (front ++ state :: back).erase other = front' ++ state :: back' ∧
      back'.length ≤ back.length := by
  by_cases ahead : other ∈ front
  · exact ⟨front.erase other, back, List.erase_append_left _ ahead, Nat.le_refl _⟩
  · refine ⟨front, back.erase other, ?_, List.length_erase_le⟩
    rw [List.erase_append_right _ ahead, List.erase_cons_tail (by simpa using different.symm)]

/-- A cancel drops the oldest remembered state only, and only to make room. -/
theorem cancel_keeps {list front back : List String} {state : String} {cancels : Nat}
    (here : list = front ++ state :: back) (within : back.length ≤ cancels)
    (few : cancels + 1 < EXPIRED_STATES_KEPT) :
    ∃ front', (if list.length = EXPIRED_STATES_KEPT then list.tail else list) = front' ++ state :: back := by
  split
  · rename_i full
    cases front with
    | nil =>
      rw [here] at full
      simp only [List.nil_append, List.length_cons] at full
      omega
    | cons first front => exact ⟨front, by rw [here]; rfl⟩
  · exact ⟨front, here⟩

@[simp] theorem drawnIds_concat (history : List LatencyEvent) (event : LatencyEvent) :
    drawnIds (history ++ [event]) = drawnIds history ++ event.drawnId.toList := by
  cases event <;> simp [drawnIds, LatencyEvent.drawnId]

@[simp] theorem registeredIds_concat (history : List LatencyEvent) (event : LatencyEvent) :
    registeredIds (history ++ [event]) = registeredIds history ++ event.registeredId.toList := by
  cases event <;> simp [registeredIds, LatencyEvent.registeredId]

@[simp] theorem handedOut_concat (history : List LatencyEvent) (event : LatencyEvent) :
    handedOut (history ++ [event]) = handedOut history ++ event.registeredId.toList.map latencyState := by
  simp [handedOut]

@[simp] theorem answers_concat (history : List LatencyEvent) (event : LatencyEvent) :
    answers (history ++ [event]) = answers history ++ event.ran := by
  simp [answers]

namespace LatencyRun

variable {run : LatencyRun}

/-- A step that cancels nobody leaves what the expired states remember. -/
theorem Kept.remembers (kept : run.Kept) {event : LatencyEvent} (uncancelled : event.cancelledState = none)
    {state : String} {cancels : Nat} (since : CancelledSince (run.history ++ [event]) state cancels)
    (few : cancels < EXPIRED_STATES_KEPT) :
    ∃ front back, run.waiters.expired = front ++ state :: back ∧ back.length ≤ cancels := by
  rcases cancelledSince_concat since with ⟨rfl, -⟩ | ⟨-, before, earlier, rfl⟩
  · cases uncancelled
  · rw [LatencyEvent.isCancel, uncancelled] at few ⊢
    exact kept.remembered state before earlier few

/-- Of a step that answers nobody and hands out no state, only what it does to the waiters matters. -/
theorem Kept.quiet (kept : run.Kept) {event : LatencyEvent} {waiters : LatencyWaiters}
    (undrawn : event.drawnId = none) (unregistered : event.registeredId = none) (unanswered : event.ran = [])
    (answered : waiters.answered = run.waiters.answered)
    (waiting : ∀ state, state ∈ waiters.waiting ↔
      state ∈ run.waiters.waiting ∧ (waits state).closes event = false)
    (waitingApart : waiters.waiting.Nodup)
    (expired : ∀ state ∈ waiters.expired, state ∈ handedOut run.history)
    (remembered : ∀ state cancels, CancelledSince (run.history ++ [event]) state cancels →
      cancels < EXPIRED_STATES_KEPT →
        ∃ front back, waiters.expired = front ++ state :: back ∧ back.length ≤ cancels)
    (bounded : waiters.expired.length ≤ EXPIRED_STATES_KEPT)
    (judged : event.Judged run.history) : (run.note waiters event).Kept where
  drawn := by simpa [note, undrawn] using kept.drawn
  apart := by simpa [note, unregistered] using kept.apart
  below := by simpa [note, unregistered] using kept.below
  waiting state := by
    have closed : (waits state).opens event = false := by
      cases event <;> first | rfl | cases unregistered
    simp only [note]
    rw [Window.inside_concat, waiting, kept.waiting, closed]
    simp
  waitingApart := waitingApart
  expired := by simpa [note, unregistered] using expired
  remembered := remembered
  bounded := bounded
  answered := by simp [note, unanswered, answered, kept.answered]
  once := by simpa [note, unanswered] using kept.once
  done answer ran := by
    simp only [note, answers_concat, unanswered, List.append_nil] at ran
    obtain ⟨handed, gone⟩ := kept.done answer ran
    refine ⟨by simpa [note, unregistered] using handed, fun member => gone ?_⟩
    exact ((waiting answer.1).mp member).1
  judged := kept.judged.concat judged

theorem Kept.draw (kept : run.Kept) (few : run.nextId + 1 < 2 ^ 64) :
    Kept { run.note run.waiters (.drawn run.nextId) with
      nextId := (run.nextId + 1) % 2 ^ 64
      registering := run.nextId :: run.registering } := by
  have next : (run.nextId + 1) % 2 ^ 64 = run.nextId + 1 := Nat.mod_eq_of_lt few
  have fresh : run.nextId ∉ run.registering ++ registeredIds run.history := by
    intro member
    exact absurd (kept.below _ member) (Nat.lt_irrefl _)
  constructor
  case drawn =>
    simp only [note, drawnIds_concat, LatencyEvent.drawnId, Option.toList_some, kept.drawn, next,
      List.range_succ]
  case apart =>
    simp only [note, registeredIds_concat, LatencyEvent.registeredId, Option.toList_none, List.append_nil]
    exact List.nodup_cons.mpr ⟨fresh, kept.apart⟩
  case below =>
    simp only [note, registeredIds_concat, LatencyEvent.registeredId, Option.toList_none, List.append_nil,
      next]
    intro id member
    rcases List.mem_cons.mp member with rfl | old
    · exact Nat.lt_succ_self _
    · exact Nat.lt_succ_of_lt (kept.below id old)
  case waiting =>
    intro state
    simp only [note]
    rw [Window.inside_concat, kept.waiting]
    simp [waits]
  case waitingApart => exact kept.waitingApart
  case expired => simpa [note, LatencyEvent.registeredId] using kept.expired
  case remembered => exact fun state cancels since few => kept.remembers rfl since few
  case bounded => exact kept.bounded
  case answered => simpa [note, LatencyEvent.ran] using kept.answered
  case once => simpa [note, LatencyEvent.ran] using kept.once
  case done => simpa [note, LatencyEvent.ran, LatencyEvent.registeredId] using kept.done
  case judged => exact kept.judged.concat trivial

theorem Kept.push (kept : run.Kept) {id : Nat} (registering : id ∈ run.registering) :
    Kept { run.note (run.waiters.push (latencyState id)) (.registered id) with
      registering := run.registering.erase id } := by
  have moved : (run.registering.erase id ++ (registeredIds run.history ++ [id])).Perm
      (run.registering ++ registeredIds run.history) := by
    rw [← List.append_assoc]
    refine (List.perm_append_singleton id _).trans ?_
    exact (List.perm_cons_erase registering).symm.append_right _
  have unregistered : latencyState id ∉ handedOut run.history := by
    intro member
    obtain ⟨other, registered, same⟩ := List.mem_map.mp member
    rw [latencyState_injective same] at registered
    exact (List.disjoint_of_nodup_append kept.apart) registering registered
  have unawaited : latencyState id ∉ run.waiters.waiting := fun member =>
    unregistered (handedOut_of_inside ((kept.waiting _).mp member))
  constructor
  case drawn => simpa [note, LatencyEvent.drawnId] using kept.drawn
  case apart =>
    simp only [note, registeredIds_concat, LatencyEvent.registeredId, Option.toList_some]
    exact moved.nodup_iff.mpr kept.apart
  case below =>
    simp only [note, registeredIds_concat, LatencyEvent.registeredId, Option.toList_some]
    exact fun other member => kept.below other (moved.mem_iff.mp member)
  case waiting =>
    intro state
    simp only [note, LatencyWaiters.push]
    have opens : (waits state).opens (.registered id) = true ↔ state = latencyState id :=
      beq_iff_eq.trans eq_comm
    rw [Window.inside_concat, List.mem_append, kept.waiting, List.mem_singleton, opens, or_comm]
    exact or_congr_right (and_iff_left rfl).symm
  case waitingApart =>
    simp only [note, LatencyWaiters.push]
    exact (List.perm_append_singleton _ _).nodup_iff.mpr (List.nodup_cons.mpr ⟨unawaited, kept.waitingApart⟩)
  case expired =>
    intro state member
    simp only [note, handedOut_concat]
    exact List.mem_append_left _ (kept.expired state member)
  case remembered => exact fun state cancels since few => kept.remembers rfl since few
  case bounded => exact kept.bounded
  case answered => simpa [note, LatencyEvent.ran, LatencyWaiters.push] using kept.answered
  case once => simpa [note, LatencyEvent.ran] using kept.once
  case done =>
    intro answer ran
    simp only [note, answers_concat, LatencyEvent.ran, List.append_nil] at ran
    obtain ⟨handed, gone⟩ := kept.done answer ran
    simp only [note, handedOut_concat, LatencyWaiters.push]
    refine ⟨List.mem_append_left _ handed, fun member => ?_⟩
    rcases List.mem_append.mp member with old | new
    · exact gone old
    · exact unregistered (List.mem_singleton.mp new ▸ handed)
  case judged => exact kept.judged.concat trivial

theorem Kept.cancel (kept : run.Kept) {state : String} (handed : state ∈ handedOut run.history) :
    (run.note (run.waiters.cancel state) (.cancelled state)).Kept := by
  refine kept.quiet rfl rfl rfl rfl (fun other => ?_) (kept.waitingApart.filter _) (fun other member => ?_)
    (fun other cancels since few => ?_) ?_ trivial
  · refine List.mem_filter.trans (and_congr_right fun _ => ?_)
    rw [decide_eq_true_iff, show (waits other).closes (.cancelled state) = (state == other) from rfl,
      beq_eq_false_iff_ne]
    exact ne_comm
  · simp only [LatencyWaiters.cancel] at member
    rcases List.mem_append.mp member with old | new
    · refine kept.expired other ?_
      split at old
      · exact List.mem_of_mem_tail old
      · exact old
    · exact List.mem_singleton.mp new ▸ handed
  · rcases cancelledSince_concat since with ⟨same, rfl⟩ | ⟨-, before, since', rfl⟩
    · cases same
      exact ⟨_, [], rfl, Nat.le_refl 0⟩
    · simp only [LatencyEvent.isCancel, LatencyEvent.cancelledState, Option.isSome_some, Bool.toNat_true] at few ⊢
      obtain ⟨front, back, here, within⟩ := kept.remembered other before since' (by omega)
      obtain ⟨front', stays⟩ := cancel_keeps here within few
      refine ⟨front', back ++ [state], ?_, by simpa using within⟩
      simp only [LatencyWaiters.cancel, stays, List.append_assoc, List.cons_append]
  · have bounded := kept.bounded
    have room : 0 < EXPIRED_STATES_KEPT := by decide
    simp only [LatencyWaiters.cancel, List.length_append, List.length_singleton]
    split
    · rw [List.length_tail]
      omega
    · omega

theorem Kept.failAll (kept : run.Kept) : (run.note run.waiters.failAll .failedAll).Kept := by
  refine kept.quiet rfl rfl rfl rfl (fun state => ?_) List.nodup_nil (by simp [LatencyWaiters.failAll])
    (fun state cancels since _ => ?_) (Nat.zero_le _) trivial
  · simp [LatencyWaiters.failAll, waits]
  · rcases cancelledSince_concat since with ⟨same, -⟩ | ⟨quiet, -⟩
    · cases same
    · cases quiet

/-- An awaited state is on one of the two lists. -/
theorem Kept.mem_of_awaited (kept : run.Kept) {state : String} (awaited : Awaited run.history state) :
    state ∈ run.waiters.waiting ∨ state ∈ run.waiters.expired := by
  rcases awaited with inside | ⟨cancels, few, since⟩
  · exact .inl ((kept.waiting state).mpr inside)
  · obtain ⟨front, back, here, -⟩ := kept.remembered state cancels since few
    exact .inr (here ▸ List.mem_append_right _ List.mem_cons_self)

theorem Kept.not_waiting_probe (kept : run.Kept) : PROBE_STATE ∉ run.waiters.waiting := by
  intro member
  obtain ⟨id, -, same⟩ := List.mem_map.mp (handedOut_of_inside ((kept.waiting _).mp member))
  exact latencyState_ne_probe id same

/-- A message that leaves the waiters as they are. -/
theorem Kept.unmoved (kept : run.Kept) {msg : WebSocketMessage} {arrived : Nat} {taken : Bool}
    (judged : PongJudged run.history msg arrived taken []) :
    (run.note run.waiters (.pong msg arrived taken [])).Kept := by
  refine kept.quiet rfl rfl rfl rfl (fun state => ?_) kept.waitingApart kept.expired
    (fun state cancels since few => kept.remembers rfl since few) kept.bounded judged
  simp [waits]

/-- The pong of a waiter: it is answered and leaves. -/
theorem Kept.answer (kept : run.Kept) {msg : WebSocketMessage} {arrived : Nat} {state : String}
    {others : List String} (carries : msg.pongState = some state) (member : state ∈ run.waiters.waiting)
    (removed : others.Perm (run.waiters.waiting.erase state)) :
    (run.note { run.waiters with
        waiting := others, answered := run.waiters.answered ++ [(state, arrived)] }
      (.pong msg arrived true [(state, arrived)])).Kept := by
  have inside := (kept.waiting state).mp member
  have handed := handedOut_of_inside inside
  have left (other : String) : other ∈ others ↔ other ∈ run.waiters.waiting ∧ state ≠ other := by
    rw [removed.mem_iff, kept.waitingApart.mem_erase_iff, and_comm]
    exact and_congr_right fun _ => ne_comm
  constructor
  case drawn => simpa [note, LatencyEvent.drawnId] using kept.drawn
  case apart => simpa [note, LatencyEvent.registeredId] using kept.apart
  case below => simpa [note, LatencyEvent.registeredId] using kept.below
  case waiting =>
    intro other
    simp only [note]
    rw [Window.inside_concat, left, kept.waiting]
    simp [waits]
  case waitingApart => exact removed.nodup_iff.mpr (kept.waitingApart.erase state)
  case expired => simpa [note, LatencyEvent.registeredId] using kept.expired
  case remembered => exact fun other cancels since few => kept.remembers rfl since few
  case bounded => exact kept.bounded
  case answered => simp [note, LatencyEvent.ran, kept.answered]
  case once =>
    have unanswered : state ∉ (answers run.history).map Prod.fst := by
      intro answered
      obtain ⟨answer, ran, rfl⟩ := List.mem_map.mp answered
      exact (kept.done answer ran).2 member
    simp only [note, answers_concat, LatencyEvent.ran, List.map_append, List.map_cons, List.map_nil]
    exact (List.perm_append_singleton _ _).nodup_iff.mpr (List.nodup_cons.mpr ⟨unanswered, kept.once⟩)
  case done =>
    intro answer ran
    simp only [note, answers_concat, LatencyEvent.ran] at ran
    simp only [note, handedOut_concat, LatencyEvent.registeredId, Option.toList_none, List.map_nil,
      List.append_nil, left]
    rcases List.mem_append.mp ran with old | new
    · obtain ⟨known, gone⟩ := kept.done answer old
      exact ⟨known, fun waiting => gone waiting.1⟩
    · rw [List.mem_singleton.mp new]
      exact ⟨handed, fun waiting => waiting.2 rfl⟩
  case judged =>
    refine kept.judged.concat ?_
    constructor
    case own =>
      intro answer ran
      rw [List.mem_singleton.mp ran]
      exact ⟨rfl, carries, inside⟩
    case answers =>
      intro other same _
      rw [Option.some.inj (carries.symm.trans same)]
    case known => exact fun _ => ⟨state, carries, .inr handed⟩
    case taken => exact fun _ _ _ => rfl

/-- The late pong of a call that gave up: its state is forgotten. -/
theorem Kept.late (kept : run.Kept) {msg : WebSocketMessage} {arrived : Nat} {state : String}
    (carries : msg.pongState = some state) (absent : state ∉ run.waiters.waiting)
    (member : state ∈ run.waiters.expired) :
    (run.note { run.waiters with expired := run.waiters.expired.erase state }
      (.pong msg arrived true [])).Kept := by
  refine kept.quiet rfl rfl rfl rfl (fun other => ?_) kept.waitingApart
    (fun other stays => kept.expired other (List.mem_of_mem_erase stays)) (fun other cancels since few => ?_)
    (List.length_erase_le.trans kept.bounded) ⟨nofun, fun other same inside => ?_,
      fun _ => ⟨state, carries, .inr (kept.expired state member)⟩, fun _ _ _ => rfl⟩
  · simp [waits]
  · rcases cancelledSince_concat since with ⟨same, -⟩ | ⟨quiet, before, since', rfl⟩
    · cases same
    · have different : state ≠ other := by
        rintro rfl
        simp [LatencyEvent.forgets, carries] at quiet
      obtain ⟨front, back, here, within⟩ := kept.remembered other _ since' few
      obtain ⟨front', back', stays, shorter⟩ := erase_other different front back
      exact ⟨front', back', by rw [← stays, ← here], shorter.trans within⟩
  · cases carries.symm.trans same
    exact absurd ((kept.waiting state).mpr inside) absent

theorem Kept.pong (kept : run.Kept) (msg : WebSocketMessage) (arrived : Nat) :
    (run.note (run.waiters.interceptPong msg arrived).2
      (.pong msg arrived (run.waiters.interceptPong msg arrived).1
        ((run.waiters.interceptPong msg arrived).2.answered.drop run.waiters.answered.length))).Kept := by
  rcases run.waiters.interceptPong_cases msg arrived with ⟨none_, offered⟩ | ⟨state, carries,
      ⟨rfl, offered⟩ | ⟨-, member, others, removed, offered⟩ | ⟨-, absent, member, offered⟩ |
      ⟨notProbe, absent, unexpired, offered⟩⟩ <;> simp only [offered, List.drop_length, List.drop_left]
  · refine kept.unmoved ⟨nofun, fun state some_ => ?_, nofun, fun state some_ => ?_⟩ <;>
      cases none_.symm.trans some_
  · refine kept.unmoved ⟨nofun, fun state same inside => ?_, fun _ => ⟨PROBE_STATE, carries, .inl rfl⟩,
      fun _ _ _ => rfl⟩
    cases carries.symm.trans same
    exact absurd ((kept.waiting _).mpr inside) kept.not_waiting_probe
  · exact kept.answer carries member removed
  · exact kept.late carries absent member
  · refine kept.unmoved ⟨nofun, fun other same inside => ?_, nofun, fun other same awaited => ?_⟩
    · cases carries.symm.trans same
      exact absurd ((kept.waiting state).mpr inside) absent
    · cases carries.symm.trans same
      rcases kept.mem_of_awaited awaited with waiting | expired
      · exact absurd waiting absent
      · exact absurd expired unexpired

/-- Only a draw draws a number. -/
theorem drawnIds_of_step {after : LatencyRun} {input : LatencyInput} (stepped : run.step input = some after) :
    drawnIds after.history = drawnIds run.history ∨
      input = .draw ∧ (drawnIds after.history).length = (drawnIds run.history).length + 1 := by
  cases input with
  | draw =>
    cases stepped
    exact .inr ⟨rfl, by simp [note, LatencyEvent.drawnId]⟩
  | push id =>
    simp only [step, Option.ite_none_right_eq_some, Option.some.injEq] at stepped
    obtain ⟨-, rfl⟩ := stepped
    exact .inl (by simp [note, LatencyEvent.drawnId])
  | cancel state =>
    simp only [step, Option.ite_none_right_eq_some, Option.some.injEq] at stepped
    obtain ⟨-, rfl⟩ := stepped
    exact .inl (by simp [note, LatencyEvent.drawnId])
  | failAll =>
    cases stepped
    exact .inl (by simp [note, LatencyEvent.drawnId])
  | pong msg arrived =>
    cases stepped
    exact .inl (by simp [note, LatencyEvent.drawnId])

theorem kept_of_step {after : LatencyRun} {input : LatencyInput} (stepped : run.step input = some after)
    (kept : run.Kept) (few : (drawnIds after.history).length < 2 ^ 64) : after.Kept := by
  have drawn : (drawnIds run.history).length = run.nextId := by rw [kept.drawn, List.length_range]
  cases input with
  | draw =>
    rcases drawnIds_of_step stepped with same | ⟨-, more⟩
    · cases stepped
      simp [note, LatencyEvent.drawnId] at same
    · cases stepped
      exact kept.draw (by omega)
  | push id =>
    simp only [step, Option.ite_none_right_eq_some, Option.some.injEq] at stepped
    obtain ⟨registering, rfl⟩ := stepped
    exact kept.push registering
  | cancel state =>
    simp only [step, Option.ite_none_right_eq_some, Option.some.injEq] at stepped
    obtain ⟨⟨handed, -⟩, rfl⟩ := stepped
    exact kept.cancel handed
  | failAll =>
    cases stepped
    exact kept.failAll
  | pong msg arrived =>
    cases stepped
    exact kept.pong msg arrived

theorem kept_start : Kept {} where
  drawn := rfl
  apart := List.nodup_nil
  below _ member := by cases member
  waiting state := by
    rw [Window.inside_iff]
    exact ⟨nofun, nofun⟩
  waitingApart := List.nodup_nil
  expired _ member := by cases member
  remembered state cancels since := by
    obtain ⟨earlier, since, split, -⟩ := since
    cases List.append_ne_nil_of_right_ne_nil earlier (List.cons_ne_nil _ since) split.symm
  bounded := Nat.zero_le _
  answered := rfl
  once := List.nodup_nil
  done _ member := by cases member
  judged := Throughout.nil

/-- Until the numbers run out. -/
def KeptSoFar (run : LatencyRun) : Prop := (drawnIds run.history).length < 2 ^ 64 → run.Kept

theorem keptSoFar_of_reachable (reached : latencyRuns.Reachable run) : run.KeptSoFar := by
  refine reached.invariant (fun s starts _ => starts ▸ kept_start) fun s input after kept stepped few => ?_
  refine kept_of_step stepped (kept ?_) few
  rcases drawnIds_of_step stepped with same | ⟨-, more⟩
  · rwa [← same]
  · omega

end LatencyRun

/-- What the waiters keep to. -/
structure AnsweredOnce (run : LatencyRun) : Prop where
  distinct : (handedOut run.history).Nodup
  notProbe : PROBE_STATE ∉ handedOut run.history
  once : ((answers run.history).map Prod.fst).Nodup
  judged : Throughout LatencyEvent.Judged run.history
  bounded : run.waiters.expired.length ≤ EXPIRED_STATES_KEPT

/-- **A waiter gets its own answer once.** While fewer than 2^64 calls have registered: the states handed
out differ from each other and from the probe's; a callback runs at most once, for a pong with exactly its
state that comes after the registration with no cancel of it and no `fail_all` in between; no pong with a
state that was not handed out is taken; the pong of a waiter that is registered, or that gave up with fewer
than 64 cancels, no `fail_all` and no pong for it since, is taken; and no more than 64 states of calls that
gave up are remembered. -/
theorem latency_answered_once {run : LatencyRun} (reached : latencyRuns.Reachable run)
    (few : (drawnIds run.history).length < 2 ^ 64) : AnsweredOnce run := by
  have kept := LatencyRun.keptSoFar_of_reachable reached few
  refine ⟨?_, ?_, kept.once, kept.judged, kept.bounded⟩
  · exact (List.nodup_append.mp kept.apart).2.1.map latencyState_injective
  · intro member
    obtain ⟨id, -, same⟩ := List.mem_map.mp member
    exact latencyState_ne_probe id same

/-- A call registers and is answered. -/
def oneAnswer : List LatencyInput :=
  [.draw, .push 0, .pong
    { event := "pong", data := some (.object [("state", .string "fugle-sdk:latency:0")]) } 7]

theorem latency_answered_once_oneAnswer :
    ∃ run, latencyRuns.run {} oneAnswer = some run ∧
      answers run.history = [("fugle-sdk:latency:0", 7)] ∧ AnsweredOnce run := by
  refine ⟨_, rfl, by decide, latency_answered_once ?_ (by decide)⟩
  exact reachable_of_run oneAnswer (Reachable.init latencyRuns rfl) rfl

end FugleMarketdata
