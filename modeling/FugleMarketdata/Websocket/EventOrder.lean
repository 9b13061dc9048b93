/-
**The order of a client's events.** Guarantee 3 of `core/src/websocket/connection_event.rs`, from the
point of view of a consumer who reads the events of one client in order.

`Phase` is what such a consumer knows, and `Phase.next` the events that may come next. A stream every
event of which was one that may come next (`Phase.follow`) has the order the guarantee promises:

* `Phase.follow_final` — nothing after a final event;
* `Phase.follow_lost` — after a `Disconnected` that announces a reconnect, the attempts in order and
  how they end (`Resolved`);
* `Phase.follow_attempt` — each attempt says why it failed (`AttemptEnds`).
-/

import FugleMarketdata.Websocket.Reconnection

namespace FugleMarketdata

namespace ConnectionEvent

/-- The number of the attempt a `Reconnecting` announces. -/
def announces : ConnectionEvent → Option Nat
  | reconnecting attempt => some attempt
  | _ => none

/-- The events that end a reconnect: it succeeded, it gave up, or the client was closed. -/
def endsReconnect : ConnectionEvent → Bool
  | authenticated _ _ => true
  | reconnectFailed _ => true
  | disconnected _ _ _ _ => true
  | _ => false

/-- The events that bound an attempt. -/
def boundsAttempt (event : ConnectionEvent) : Bool := event.announces.isSome || event.endsReconnect

end ConnectionEvent

open ConnectionEvent

/-! ### What may come next -/

/-- How far an attempt has come. -/
inductive Stage where
  | announced | connecting | connected
  deriving DecidableEq, Repr

/-- What a consumer knows: the client is connected; or it is not, after so many attempts; or the
current attempt is at some stage; or its credentials were refused; or nothing follows, because the
client was closed or gave up. -/
inductive Phase where
  | up
  | lost (made : Nat)
  | trying (attempt : Nat) (stage : Stage)
  | refused (attempt : Nat)
  | closed
  | gaveUp
  deriving DecidableEq, Repr

/-- The number the `attempt`th `Reconnecting` carries: the counter is a `u32` and stops at its largest
value. -/
def attemptNumber (attempt : Nat) : Nat := min attempt U32_MAX

namespace Phase

/-- Nothing follows. -/
def isFinal : Phase → Bool
  | closed | gaveUp => true
  | _ => false

variable (maxAttempts : Nat)

/-- The next attempt is announced under its number, within the limit. -/
def announce (made number : Nat) : Option Phase :=
  if number = attemptNumber (made + 1) ∧ (maxAttempts = 0 ∨ made + 1 ≤ maxAttempts) then
    some (.trying (made + 1) .announced)
  else none

/-- Giving up names the attempts made, of which there was one. -/
def giveUp (made attempts : Nat) : Option Phase :=
  if attempts = attemptNumber made ∧ 1 ≤ made then some .gaveUp else none

/-- Once a reconnect has begun only the caller's own close is reported. -/
def close : DisconnectIntent → Bool → Option Phase
  | .client, false => some .closed
  | _, _ => none

/-- The phase after an event, if it may come next. -/
def next : Phase → ConnectionEvent → Option Phase
  | .up, .error _ => some .up
  | .up, .heartbeatTimeout _ => some .up
  | .up, .disconnected _ _ _ willReconnect => some (if willReconnect then .lost 0 else .closed)
  -- `force_close()` can stop the owner loop before the supervisor is told to stop, which then
  -- announces an attempt without a `Disconnected`.
  | .up, .reconnecting number => announce maxAttempts 0 number
  | .lost made, .reconnecting number => announce maxAttempts made number
  | .lost made, .reconnectFailed attempts => giveUp made attempts
  | .lost _, .disconnected _ _ intent willReconnect => close intent willReconnect
  | .trying attempt .announced, .connecting => some (.trying attempt .connecting)
  | .trying attempt .connecting, .connected => some (.trying attempt .connected)
  | .trying attempt .connecting, .error _ => some (.lost attempt)
  | .trying attempt .connected, .error _ => some (.lost attempt)
  | .trying _ .connected, .authenticated _ _ => some .up
  | .trying attempt .connected, .unauthenticated _ _ _ => some (.refused attempt)
  | .trying _ _, .disconnected _ _ intent willReconnect => close intent willReconnect
  | .refused attempt, .reconnectFailed attempts => giveUp attempt attempts
  | .refused _, .disconnected _ _ intent willReconnect => close intent willReconnect
  | _, _ => none

/-- The phase after a list of events, each of which may come next. -/
def follow (phase : Phase) (events : List ConnectionEvent) : Option Phase :=
  events.foldlM (next maxAttempts) phase

variable {maxAttempts}

@[simp] theorem follow_nil (phase : Phase) : phase.follow maxAttempts [] = some phase := rfl

@[simp] theorem follow_cons (phase : Phase) (event : ConnectionEvent) (rest : List ConnectionEvent) :
    phase.follow maxAttempts (event :: rest) =
      (phase.next maxAttempts event).bind fun after => after.follow maxAttempts rest := rfl

theorem follow_append (phase : Phase) (first second : List ConnectionEvent) :
    phase.follow maxAttempts (first ++ second) =
      (phase.follow maxAttempts first).bind fun after => after.follow maxAttempts second :=
  List.foldlM_append

theorem follow_cons_some {phase last : Phase} {event : ConnectionEvent}
    {rest : List ConnectionEvent} (followed : phase.follow maxAttempts (event :: rest) = some last) :
    ∃ after, phase.next maxAttempts event = some after ∧ after.follow maxAttempts rest = some last :=
  Option.bind_eq_some_iff.mp followed

theorem follow_append_some {phase last : Phase} {first second : List ConnectionEvent}
    (followed : phase.follow maxAttempts (first ++ second) = some last) :
    ∃ after, phase.follow maxAttempts first = some after ∧
      after.follow maxAttempts second = some last := by
  rw [follow_append] at followed
  exact Option.bind_eq_some_iff.mp followed

theorem announce_some {made number : Nat} {after : Phase}
    (announced : announce maxAttempts made number = some after) :
    after = .trying (made + 1) .announced ∧ number = attemptNumber (made + 1) ∧
      (maxAttempts = 0 ∨ made + 1 ≤ maxAttempts) := by
  unfold announce at announced
  split at announced
  · rename_i allowed
    exact ⟨(Option.some.inj announced).symm, allowed⟩
  · cases announced

theorem giveUp_some {made attempts : Nat} {after : Phase} (gave : giveUp made attempts = some after) :
    after = .gaveUp ∧ attempts = attemptNumber made ∧ 1 ≤ made := by
  unfold giveUp at gave
  split at gave
  · rename_i allowed
    exact ⟨(Option.some.inj gave).symm, allowed⟩
  · cases gave

theorem close_some {intent : DisconnectIntent} {willReconnect : Bool} {after : Phase}
    (closed : close intent willReconnect = some after) :
    after = .closed ∧ intent = .client ∧ willReconnect = false := by
  unfold close at closed
  split at closed
  · exact ⟨(Option.some.inj closed).symm, rfl, rfl⟩
  · cases closed

/-- An event that ends no reconnect neither ends the stream nor connects the client. -/
theorem next_stays {phase after : Phase} {event : ConnectionEvent}
    (stepped : phase.next maxAttempts event = some after) (going : event.endsReconnect = false) :
    after.isFinal = false ∧ (after = .up → phase = .up) := by
  cases event with
  | authenticated | reconnectFailed | disconnected => cases going
  | reconnecting number =>
    have announces {made : Nat} (announced : announce maxAttempts made number = some after) :
        after.isFinal = false ∧ (after = .up → phase = .up) := by
      obtain ⟨rfl, -⟩ := announce_some announced
      exact ⟨rfl, nofun⟩
    cases phase with
    | up => exact announces stepped
    | lost made => exact announces stepped
    | trying attempt stage => cases stage <;> cases stepped
    | refused attempt => cases stepped
    | closed | gaveUp => cases stepped
  | connecting | connected | unauthenticated | error | heartbeatTimeout | messagesDropped =>
    cases phase with
    | trying attempt stage =>
      cases stage <;> cases stepped <;> exact ⟨rfl, nofun⟩
    | up => cases stepped <;> exact ⟨rfl, fun _ => rfl⟩
    | lost before => cases stepped
    | refused attempt => cases stepped
    | closed | gaveUp => cases stepped

theorem next_final {phase : Phase} (final : phase.isFinal = true) (event : ConnectionEvent) :
    phase.next maxAttempts event = none := by
  cases phase with
  | closed | gaveUp => cases event <;> rfl
  | up | lost made | trying attempt stage | refused attempt => cases final

/-- Whatever the phase, the caller's close may come next, unless nothing may. -/
theorem next_close {phase : Phase} (going : phase.isFinal = false) (code : Option Nat) (reason : String) :
    phase.next maxAttempts (.disconnected code reason .client false) = some .closed := by
  cases phase with
  | closed | gaveUp => cases going
  | trying attempt stage => cases stage <;> rfl
  | up | lost made | refused attempt => rfl

/-- Nothing follows a final event. -/
theorem follow_final {phase last : Phase} (final : phase.isFinal = true)
    {events : List ConnectionEvent} (followed : phase.follow maxAttempts events = some last) :
    events = [] := by
  cases events with
  | nil => rfl
  | cons event rest =>
    obtain ⟨after, stepped, -⟩ := follow_cons_some followed
    rw [next_final final] at stepped
    cases stepped

/-! ### How a reconnect is resolved -/

/-- The attempts made, while a reconnect is under way. -/
def made : Phase → Option Nat
  | .lost made => some made
  | .trying attempt _ => some attempt
  | .refused attempt => some attempt
  | _ => none

end Phase

/-- The numbers of the attempts announced before the reconnect ends. -/
def announced (events : List ConnectionEvent) : List Nat :=
  (events.takeWhile fun event => !event.endsReconnect).filterMap announces

/-- The events from the one that ends the reconnect on. -/
def fromEnd (events : List ConnectionEvent) : List ConnectionEvent :=
  events.dropWhile fun event => !event.endsReconnect

/-- How a reconnect ends after `made` attempts: in an `Authenticated`; in a `ReconnectFailed` naming
the attempts, or the final `Disconnected` of a closing call, with nothing after it; or not yet, while
it is not `finished`. -/
def Ends (number : Nat → Nat) (made : Nat) (finished : Prop) : List ConnectionEvent → Prop
  | [] => ¬ finished
  | event :: rest =>
    (∃ data frame, event = .authenticated data frame) ∨
      (event = .reconnectFailed (number made) ∧ 1 ≤ number made ∧ rest = []) ∨
      ∃ code reason, event = .disconnected code reason .client false ∧ rest = []

/-- What follows a `Disconnected` that announces a reconnect: attempts numbered in order, within the
limit, and one end. `number` gives the number the `n`th attempt carries. -/
structure Resolved (number : Nat → Nat) (maxAttempts : Nat) (finished : Prop)
    (after : List ConnectionEvent) : Prop where
  numbered : announced after =
    (List.range (announced after).length).map fun attempt => number (attempt + 1)
  limited : maxAttempts ≠ 0 → (announced after).length ≤ maxAttempts
  ends : Ends number (announced after).length finished (fromEnd after)

theorem announced_end {event : ConnectionEvent} (ending : event.endsReconnect = true)
    (rest : List ConnectionEvent) : announced (event :: rest) = [] := by
  simp [announced, ending]

theorem announced_cons {event : ConnectionEvent} (going : event.endsReconnect = false)
    (rest : List ConnectionEvent) :
    announced (event :: rest) = event.announces.toList ++ announced rest := by
  simp only [announced, List.takeWhile_cons, going, Bool.not_false, if_true, List.filterMap_cons]
  cases event.announces <;> rfl

theorem fromEnd_end {event : ConnectionEvent} (ending : event.endsReconnect = true)
    (rest : List ConnectionEvent) : fromEnd (event :: rest) = event :: rest := by
  simp [fromEnd, ending]

theorem fromEnd_cons {event : ConnectionEvent} (going : event.endsReconnect = false)
    (rest : List ConnectionEvent) : fromEnd (event :: rest) = fromEnd rest := by
  simp [fromEnd, going]

/-- While the reconnect goes on, the attempts announced add up. -/
theorem announced_append {first : List ConnectionEvent} (going : fromEnd first = [])
    (second : List ConnectionEvent) : announced (first ++ second) = announced first ++ announced second := by
  induction first with
  | nil => rfl
  | cons event rest ih =>
    have silent : event.endsReconnect = false := by
      rw [← Bool.not_eq_true]
      intro ending
      rw [fromEnd_end ending] at going
      cases going
    rw [fromEnd_cons silent] at going
    rw [List.cons_append, announced_cons silent, announced_cons silent, ih going, List.append_assoc]

theorem fromEnd_append {first : List ConnectionEvent} (going : fromEnd first = [])
    (second : List ConnectionEvent) : fromEnd (first ++ second) = fromEnd second := by
  unfold fromEnd at going ⊢
  rw [List.dropWhile_append, going]
  rfl

namespace Phase

variable {maxAttempts : Nat}

/-- An event that does not end the reconnect announces the next attempt or leaves the count. -/
theorem next_going {phase after : Phase} {count : Nat} {event : ConnectionEvent}
    (under : phase.made = some count) (stepped : phase.next maxAttempts event = some after)
    (going : event.endsReconnect = false) :
    (event.announces = some (attemptNumber (count + 1)) ∧
        (maxAttempts = 0 ∨ count + 1 ≤ maxAttempts) ∧ after.made = some (count + 1)) ∨
      (event.announces = none ∧ after.made = some count) := by
  cases event with
  | reconnecting number =>
    left
    cases phase with
    | lost before =>
      cases under
      obtain ⟨rfl, rfl, allowed⟩ := announce_some stepped
      exact ⟨rfl, allowed, rfl⟩
    | up => cases under
    | trying attempt stage => cases stage <;> cases stepped
    | refused attempt => cases stepped
    | closed | gaveUp => cases stepped
  | authenticated data frame => cases going
  | reconnectFailed attempts => cases going
  | disconnected code reason intent willReconnect => cases going
  | connecting | connected | unauthenticated | error | heartbeatTimeout | messagesDropped =>
    right
    refine ⟨rfl, ?_⟩
    cases phase with
    | trying attempt stage => cases stage <;> cases stepped <;> exact under
    | up => cases under
    | lost before => cases stepped
    | refused attempt => cases stepped
    | closed | gaveUp => cases stepped

/-- An event that ends the reconnect ends it as promised. -/
theorem next_ends {phase after last : Phase} {count : Nat} {event : ConnectionEvent}
    {rest : List ConnectionEvent} (under : phase.made = some count)
    (stepped : phase.next maxAttempts event = some after)
    (followed : after.follow maxAttempts rest = some last) (ending : event.endsReconnect = true)
    (finished : Prop) : Ends attemptNumber count finished (event :: rest) := by
  have closes {intent : DisconnectIntent} {willReconnect : Bool} (code : Option Nat) (reason : String)
      (closed : close intent willReconnect = some after) :
      Ends attemptNumber count finished (.disconnected code reason intent willReconnect :: rest) := by
    obtain ⟨rfl, rfl, rfl⟩ := close_some closed
    exact Or.inr (Or.inr ⟨code, reason, rfl, follow_final rfl followed⟩)
  have gives {attempts : Nat} (gave : giveUp count attempts = some after) :
      Ends attemptNumber count finished (.reconnectFailed attempts :: rest) := by
    obtain ⟨rfl, rfl, some⟩ := giveUp_some gave
    refine Or.inr (Or.inl ⟨rfl, ?_, follow_final rfl followed⟩)
    exact Nat.le_min.mpr ⟨some, by decide⟩
  cases event with
  | authenticated data frame => exact Or.inl ⟨data, frame, rfl⟩
  | reconnectFailed attempts =>
    cases phase with
    | lost before => cases under; exact gives stepped
    | refused attempt => cases under; exact gives stepped
    | trying attempt stage => cases stage <;> cases stepped
    | up => cases under
    | closed | gaveUp => cases under
  | disconnected code reason intent willReconnect =>
    cases phase with
    | lost before => exact closes code reason stepped
    | refused attempt => exact closes code reason stepped
    | trying attempt stage => exact closes code reason (by cases stage <;> exact stepped)
    | up => cases under
    | closed | gaveUp => cases under
  | connecting | connected | unauthenticated | error | heartbeatTimeout | messagesDropped |
      reconnecting => cases ending

/-- The attempts after `count` of them, and how they end. -/
theorem follow_made {events : List ConnectionEvent} {phase last : Phase} {count : Nat}
    (under : phase.made = some count) (allowed : maxAttempts = 0 ∨ count ≤ maxAttempts)
    (followed : phase.follow maxAttempts events = some last) :
    ∃ more, announced events = (List.range more).map (fun i => attemptNumber (count + (i + 1))) ∧
      (maxAttempts = 0 ∨ count + more ≤ maxAttempts) ∧
      Ends attemptNumber (count + more) (last.isFinal = true) (fromEnd events) := by
  induction events generalizing phase count with
  | nil =>
    refine ⟨0, rfl, allowed, fun finished => ?_⟩
    cases followed
    cases last with
    | closed | gaveUp => cases under
    | up | lost made | trying attempt stage | refused attempt => cases finished
  | cons event rest ih =>
    obtain ⟨after, stepped, followedRest⟩ := follow_cons_some followed
    by_cases ending : event.endsReconnect = true
    · rw [announced_end ending, fromEnd_end ending]
      exact ⟨0, rfl, allowed, next_ends under stepped followedRest ending _⟩
    · have going : event.endsReconnect = false := Bool.eq_false_iff.mpr ending
      rw [announced_cons going, fromEnd_cons going]
      rcases next_going under stepped going with ⟨number, within, more⟩ | ⟨silent, same⟩
      · obtain ⟨more, numbers, limit, ends⟩ := ih more within followedRest
        refine ⟨more + 1, ?_, ?_, ?_⟩
        · rw [number, numbers, List.range_succ_eq_map, List.map_cons, List.map_map]
          show _ :: _ = _ :: _
          congr 1
          refine List.map_congr_left fun i _ => ?_
          show attemptNumber (count + 1 + (i + 1)) = attemptNumber (count + (i + 1 + 1))
          congr 1
          omega
        · omega
        · rw [show count + (more + 1) = count + 1 + more by omega]
          exact ends
      · rw [silent]
        exact ih same allowed followedRest

/-- **What follows a `Disconnected` that announces a reconnect.** -/
theorem follow_lost {events : List ConnectionEvent} {last : Phase}
    (followed : (Phase.lost 0).follow maxAttempts events = some last) :
    Resolved attemptNumber maxAttempts (last.isFinal = true) events := by
  obtain ⟨made, numbers, limit, ends⟩ := follow_made rfl (Or.inr (Nat.zero_le _)) followed
  have count : (announced events).length = made := by
    rw [numbers, List.length_map, List.length_range]
  refine ⟨?_, fun limited => ?_, ?_⟩
  · rw [count, numbers]
    refine List.map_congr_left fun i _ => ?_
    rw [Nat.zero_add]
  · rw [count]
    omega
  · rw [count]
    rw [Nat.zero_add] at ends
    exact ends

end Phase

/-! ### The shape of an attempt -/

/-- How the events `mid` between an attempt's `Reconnecting` and the next one, or the end of the
reconnect, look: an attempt says why it failed, in exactly one `Error` or `Unauthenticated`, unless it
succeeds or the caller closes the client. -/
inductive AttemptEnds : List ConnectionEvent → ConnectionEvent → Prop
  | succeeded (data : Value) (frame : String) :
      AttemptEnds [.connecting, .connected] (.authenticated data frame)
  | unconnected (info : ErrorInfo) {event : ConnectionEvent}
      (goes : event.announces.isSome ∨ ∃ attempts, event = .reconnectFailed attempts) :
      AttemptEnds [.connecting, .error info] event
  | failed (info : ErrorInfo) {event : ConnectionEvent}
      (goes : event.announces.isSome ∨ ∃ attempts, event = .reconnectFailed attempts) :
      AttemptEnds [.connecting, .connected, .error info] event
  | rejected (message : String) (data : Value) (frame : String) (attempts : Nat) :
      AttemptEnds [.connecting, .connected, .unauthenticated message data frame]
        (.reconnectFailed attempts)
  | closed (mid : List ConnectionEvent) (code : Option Nat) (reason : String) :
      AttemptEnds mid (.disconnected code reason .client false)

namespace Phase

variable {maxAttempts : Nat} {last : Phase} {attempt : Nat} {mid after : List ConnectionEvent}
  {event : ConnectionEvent}

/-- Once an attempt has failed the next event bounds it. -/
theorem lost_attempt (followed : (Phase.lost attempt).follow maxAttempts (mid ++ event :: after) = some last)
    (inside : ∀ e ∈ mid, e.boundsAttempt = false) (bounds : event.boundsAttempt = true) :
    mid = [] ∧ ((event.announces.isSome ∨ ∃ attempts, event = .reconnectFailed attempts) ∨
      ∃ code reason, event = .disconnected code reason .client false) := by
  cases mid with
  | nil =>
    obtain ⟨_, stepped, -⟩ := follow_cons_some followed
    refine ⟨rfl, ?_⟩
    cases event with
    | reconnecting number => exact Or.inl (Or.inl rfl)
    | reconnectFailed attempts => exact Or.inl (Or.inr ⟨attempts, rfl⟩)
    | disconnected code reason intent willReconnect =>
      obtain ⟨-, rfl, rfl⟩ := close_some stepped
      exact Or.inr ⟨code, reason, rfl⟩
    | authenticated => cases stepped
    | connecting | connected | unauthenticated | error | heartbeatTimeout | messagesDropped =>
      cases bounds
  | cons first rest =>
    obtain ⟨_, stepped, -⟩ := follow_cons_some followed
    have silent : first.boundsAttempt = false := inside first List.mem_cons_self
    cases first with
    | reconnecting | reconnectFailed | disconnected | authenticated => cases silent
    | connecting | connected | unauthenticated | error | heartbeatTimeout | messagesDropped =>
      cases stepped

/-- Once the credentials were refused only giving up, or the caller's close, follows. -/
theorem refused_attempt
    (followed : (Phase.refused attempt).follow maxAttempts (mid ++ event :: after) = some last)
    (inside : ∀ e ∈ mid, e.boundsAttempt = false) (bounds : event.boundsAttempt = true) :
    mid = [] ∧ ((∃ attempts, event = .reconnectFailed attempts) ∨
      ∃ code reason, event = .disconnected code reason .client false) := by
  cases mid with
  | nil =>
    obtain ⟨_, stepped, -⟩ := follow_cons_some followed
    refine ⟨rfl, ?_⟩
    cases event with
    | reconnectFailed attempts => exact Or.inl ⟨attempts, rfl⟩
    | disconnected code reason intent willReconnect =>
      obtain ⟨-, rfl, rfl⟩ := close_some stepped
      exact Or.inr ⟨code, reason, rfl⟩
    | authenticated | reconnecting => cases stepped
    | connecting | connected | unauthenticated | error | heartbeatTimeout | messagesDropped =>
      cases bounds
  | cons first rest =>
    obtain ⟨_, stepped, -⟩ := follow_cons_some followed
    have silent : first.boundsAttempt = false := inside first List.mem_cons_self
    cases first with
    | reconnecting | reconnectFailed | disconnected | authenticated => cases silent
    | connecting | connected | unauthenticated | error | heartbeatTimeout | messagesDropped =>
      cases stepped

theorem connected_attempt
    (followed : (Phase.trying attempt .connected).follow maxAttempts (mid ++ event :: after) = some last)
    (inside : ∀ e ∈ mid, e.boundsAttempt = false) (bounds : event.boundsAttempt = true) :
    AttemptEnds (.connecting :: .connected :: mid) event := by
  cases mid with
  | nil =>
    obtain ⟨_, stepped, -⟩ := follow_cons_some followed
    cases event with
    | authenticated data frame => exact .succeeded data frame
    | disconnected code reason intent willReconnect =>
      obtain ⟨-, rfl, rfl⟩ := close_some stepped
      exact .closed _ code reason
    | reconnecting | reconnectFailed => cases stepped
    | connecting | connected | unauthenticated | error | heartbeatTimeout | messagesDropped =>
      cases bounds
  | cons first rest =>
    obtain ⟨_, stepped, followedRest⟩ := follow_cons_some followed
    have silent : first.boundsAttempt = false := inside first List.mem_cons_self
    have insideRest (e : ConnectionEvent) (member : e ∈ rest) : e.boundsAttempt = false :=
      inside e (List.mem_cons_of_mem _ member)
    cases first with
    | error info =>
      cases stepped
      obtain ⟨rfl, goes | ⟨code, reason, rfl⟩⟩ := lost_attempt followedRest insideRest bounds
      · exact .failed info goes
      · exact .closed _ code reason
    | unauthenticated message data frame =>
      cases stepped
      obtain ⟨rfl, ⟨attempts, rfl⟩ | ⟨code, reason, rfl⟩⟩ :=
        refused_attempt followedRest insideRest bounds
      · exact .rejected message data frame attempts
      · exact .closed _ code reason
    | reconnecting | reconnectFailed | disconnected | authenticated => cases silent
    | connecting | connected | heartbeatTimeout | messagesDropped => cases stepped

theorem connecting_attempt
    (followed : (Phase.trying attempt .connecting).follow maxAttempts (mid ++ event :: after) = some last)
    (inside : ∀ e ∈ mid, e.boundsAttempt = false) (bounds : event.boundsAttempt = true) :
    AttemptEnds (.connecting :: mid) event := by
  cases mid with
  | nil =>
    obtain ⟨_, stepped, -⟩ := follow_cons_some followed
    cases event with
    | disconnected code reason intent willReconnect =>
      obtain ⟨-, rfl, rfl⟩ := close_some stepped
      exact .closed _ code reason
    | authenticated | reconnecting | reconnectFailed => cases stepped
    | connecting | connected | unauthenticated | error | heartbeatTimeout | messagesDropped =>
      cases bounds
  | cons first rest =>
    obtain ⟨_, stepped, followedRest⟩ := follow_cons_some followed
    have silent : first.boundsAttempt = false := inside first List.mem_cons_self
    have insideRest (e : ConnectionEvent) (member : e ∈ rest) : e.boundsAttempt = false :=
      inside e (List.mem_cons_of_mem _ member)
    cases first with
    | connected =>
      cases stepped
      exact connected_attempt followedRest insideRest bounds
    | error info =>
      cases stepped
      obtain ⟨rfl, goes | ⟨code, reason, rfl⟩⟩ := lost_attempt followedRest insideRest bounds
      · exact .unconnected info goes
      · exact .closed _ code reason
    | reconnecting | reconnectFailed | disconnected | authenticated => cases silent
    | connecting | unauthenticated | heartbeatTimeout | messagesDropped => cases stepped

theorem announced_attempt
    (followed : (Phase.trying attempt .announced).follow maxAttempts (mid ++ event :: after) = some last)
    (inside : ∀ e ∈ mid, e.boundsAttempt = false) (bounds : event.boundsAttempt = true) :
    AttemptEnds mid event := by
  cases mid with
  | nil =>
    obtain ⟨_, stepped, -⟩ := follow_cons_some followed
    cases event with
    | disconnected code reason intent willReconnect =>
      obtain ⟨-, rfl, rfl⟩ := close_some stepped
      exact .closed _ code reason
    | authenticated | reconnecting | reconnectFailed => cases stepped
    | connecting | connected | unauthenticated | error | heartbeatTimeout | messagesDropped =>
      cases bounds
  | cons first rest =>
    obtain ⟨_, stepped, followedRest⟩ := follow_cons_some followed
    have silent : first.boundsAttempt = false := inside first List.mem_cons_self
    have insideRest (e : ConnectionEvent) (member : e ∈ rest) : e.boundsAttempt = false :=
      inside e (List.mem_cons_of_mem _ member)
    cases first with
    | connecting =>
      cases stepped
      exact connecting_attempt followedRest insideRest bounds
    | reconnecting | reconnectFailed | disconnected | authenticated => cases silent
    | connected | unauthenticated | error | heartbeatTimeout | messagesDropped => cases stepped

/-- **Each attempt ends as it should.** -/
theorem follow_attempt {phase : Phase} {before : List ConnectionEvent} {number : Nat}
    (followed : phase.follow maxAttempts
      (before ++ .reconnecting number :: (mid ++ event :: after)) = some last)
    (inside : ∀ e ∈ mid, e.boundsAttempt = false) (bounds : event.boundsAttempt = true) :
    AttemptEnds mid event := by
  obtain ⟨reached, -, followedFrom⟩ := follow_append_some followed
  obtain ⟨_, stepped, followedMid⟩ := follow_cons_some followedFrom
  have announces {made : Nat} {tried : Phase} (announced : announce maxAttempts made number = some tried)
      (followed : tried.follow maxAttempts (mid ++ event :: after) = some last) :
      AttemptEnds mid event := by
    obtain ⟨rfl, -⟩ := announce_some announced
    exact announced_attempt followed inside bounds
  cases reached with
  | up => exact announces stepped followedMid
  | lost made => exact announces stepped followedMid
  | trying attempt stage => cases stage <;> cases stepped
  | refused attempt => cases stepped
  | closed | gaveUp => cases stepped

end Phase

/-! ### will_reconnect tells the truth -/

theorem Ends.mono {number : Nat → Nat} {count : Nat} {finished weaker : Prop}
    {rest : List ConnectionEvent} (implied : finished → weaker) (ends : Ends number count weaker rest) :
    Ends number count finished rest := by
  cases rest with
  | nil => exact fun done => ends (implied done)
  | cons event rest => exact ends

/-- What `will_reconnect` promises of a stream: no reconnect after a `Disconnected` that announces
none, a resolved one after a `Disconnected` that announces it, and every attempt says how it ended.
`finished` says that nothing more is to come. -/
structure WillReconnectTruthful (number : Nat → Nat) (maxAttempts : Nat) (finished : Prop)
    (queued : List StreamItem) : Prop where
  last : ∀ before after code reason intent,
    queued = before ++ .event (.disconnected code reason intent false) :: after →
      ∀ attempt, StreamItem.event (.reconnecting attempt) ∉ after
  resolved : ∀ before after code reason intent,
    queued = before ++ .event (.disconnected code reason intent true) :: after →
      Resolved number maxAttempts finished (lifecycle after)
  attempts : ∀ before attempt mid event after,
    lifecycle queued = before ++ .reconnecting attempt :: (mid ++ event :: after) →
      (∀ e ∈ mid, e.boundsAttempt = false) → event.boundsAttempt = true → AttemptEnds mid event

namespace Phase

variable {maxAttempts : Nat}

theorem next_disconnected {phase after : Phase} {code : Option Nat} {reason : String}
    {intent : DisconnectIntent} {willReconnect : Bool}
    (stepped : phase.next maxAttempts (.disconnected code reason intent willReconnect) = some after) :
    after = if willReconnect then .lost 0 else .closed := by
  have closes (closed : close intent willReconnect = some after) :
      after = if willReconnect then .lost 0 else .closed := by
    obtain ⟨rfl, -, rfl⟩ := close_some closed
    rfl
  cases phase with
  | up => exact (Option.some.inj stepped).symm
  | lost made => exact closes stepped
  | trying attempt stage => exact closes (by cases stage <;> exact stepped)
  | refused attempt => exact closes stepped
  | closed | gaveUp => cases stepped

/-- **A stream that has been followed keeps the promise.** -/
theorem follow_truthful {queued : List StreamItem} {last : Phase} {finished : Prop}
    (followed : Phase.up.follow maxAttempts (lifecycle queued) = some last)
    (final : finished → last.isFinal = true) :
    WillReconnectTruthful attemptNumber maxAttempts finished queued := by
  have behind {before after : List StreamItem} {code : Option Nat} {reason : String}
      {intent : DisconnectIntent} {willReconnect : Bool}
      (split : queued = before ++ .event (.disconnected code reason intent willReconnect) :: after) :
      (if willReconnect then Phase.lost 0 else .closed).follow maxAttempts (lifecycle after) =
        some last := by
    have told : lifecycle queued =
        lifecycle before ++ .disconnected code reason intent willReconnect :: lifecycle after := by
      rw [split, lifecycle_append]
      rfl
    rw [told] at followed
    obtain ⟨reached, -, followedFrom⟩ := follow_append_some followed
    obtain ⟨next, stepped, followedAfter⟩ := follow_cons_some followedFrom
    rw [← next_disconnected stepped]
    exact followedAfter
  refine ⟨fun before after code reason intent split attempt member => ?_,
    fun before after code reason intent split => ?_, fun before attempt mid event after split => ?_⟩
  · have silent : lifecycle after = [] := follow_final rfl (behind split)
    have told : (StreamItem.event (.reconnecting attempt)).lifecycle = none :=
      List.filterMap_eq_nil_iff.mp silent _ member
    cases told
  · obtain ⟨numbered, limited, ends⟩ := follow_lost (behind split)
    exact ⟨numbered, limited, ends.mono final⟩
  · rw [split] at followed
    exact follow_attempt followed

end Phase

end FugleMarketdata
