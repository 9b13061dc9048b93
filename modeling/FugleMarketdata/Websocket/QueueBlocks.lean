/-
**What each operation queues.** While the receiver lives and no event is refused, an operation queues
one of a few blocks of items, and opens or closes the connection or leaves it as it was.

* `Realizes` — items a list of acts may queue;
* `Block`, `step_block` — the blocks, and that every operation queues one;
* `messageWindow`, `reportWindow` — the windows of guarantees 4 and 6 of `connection_event.rs`.
-/

import FugleMarketdata.Lib.Trace
import FugleMarketdata.Websocket.Accounting

namespace FugleMarketdata

open StepMachines StepMachine Traces

namespace ConnectionEvent

/-- The events the clients hand to the queue: they neither open nor close a connection's window, and
report no drops. -/
def isNeutral : ConnectionEvent → Bool
  | connecting | connected | reconnecting _ | heartbeatTimeout _ | error _ => true
  | _ => false

end ConnectionEvent

namespace StreamItem

/-- A `MessagesDropped`. -/
def isDropReport : StreamItem → Bool
  | event (.messagesDropped _ _) => true
  | _ => false

def isNeutral : StreamItem → Bool
  | event ev => ev.isNeutral
  | message _ => false

end StreamItem

/-! ### The items of an act -/

/-- What an act queues when no event is refused. -/
def Act.Realized (state : State) : Act → List StreamItem → Prop
  | .event queued, new => new = [.event queued]
  | .message queued, new => new = [] ∨ new = [.message queued]
  | .report _ _, new =>
    new = [] ∨ state.dropReports.pending ≠ 0 ∧
      ∃ dropped total, new = [.event (.messagesDropped dropped total)]
  | _, new => new = []

/-- What a list of acts queues, each in the state the one before left. -/
def Realizes (sh : Shared) : List Act → State × Outcome → List StreamItem → Prop
  | [], _, new => new = []
  | act :: rest, work, new => ∃ first second, new = first ++ second ∧ act.Realized work.1 first ∧
      Realizes sh rest (act.apply sh work) second

namespace Tally

variable (sh : Shared)

theorem event_realized (state : State) (event : ConnectionEvent) (tally : Tally) : ∃ new more,
    (tally.event sh state event).accepted = tally.accepted ++ new ∧
      (tally.event sh state event).refusedEvents = tally.refusedEvents ++ more ∧
      (more = [] → new = [.event event]) := by
  unfold Tally.event
  split
  · exact ⟨[], [event], (List.append_nil _).symm, rfl, fun none => by cases none⟩
  · exact ⟨[.event event], [], rfl, (List.append_nil _).symm, fun _ => rfl⟩

theorem act_realized (state : State) (act : Act) (tally : Tally) : ∃ new more,
    (tally.act sh state act).accepted = tally.accepted ++ new ∧
      (tally.act sh state act).refusedEvents = tally.refusedEvents ++ more ∧
      (more = [] → act.Realized state new) := by
  have silent (same : Tally) (accepted : same.accepted = tally.accepted)
      (refused : same.refusedEvents = tally.refusedEvents) (realized : act.Realized state []) :
      ∃ new more, same.accepted = tally.accepted ++ new ∧
        same.refusedEvents = tally.refusedEvents ++ more ∧ (more = [] → act.Realized state new) :=
    ⟨[], [], by simp [accepted], by simp [refused], fun _ => realized⟩
  cases act with
  | event queued => exact tally.event_realized sh state queued
  | message queued =>
    simp only [Tally.act, Tally.message]
    split
    · exact silent _ rfl rfl (Or.inl rfl)
    · exact ⟨[.message queued], [], rfl, (List.append_nil _).symm, fun _ => Or.inr rfl⟩
  | report now force =>
    simp only [Tally.act, Tally.report]
    split
    · exact silent _ rfl rfl (Or.inl rfl)
    · rename_i dropped reports due
      have waiting : state.dropReports.pending ≠ 0 := by
        intro none
        unfold ReportThrottle.takeDue at due
        rw [if_pos none] at due
        cases due
      obtain ⟨new, more, accepted, refused, realized⟩ := Tally.event_realized sh state
        (.messagesDropped dropped state.messagesDropped)
        { tally with
          reports := tally.reports ++ [{
            dropped
            total := state.messagesDropped
            refused := tally.refused }] }
      exact ⟨new, more, accepted, refused, fun none => Or.inr ⟨waiting, _, _, realized none⟩⟩
  | restart => exact silent _ rfl rfl rfl
  | claim willReconnect => exact silent _ rfl rfl rfl
  | opens => exact silent _ rfl rfl rfl
  | givesUp => exact silent _ rfl rfl rfl
  | stamp reconnectedAt => exact silent _ rfl rfl rfl

/-- What a list of acts had accepted, no event refused. -/
theorem acts_realizes (list : List Act) (work : State × Outcome) (tally : Tally)
    (nothing : (acts sh list work tally).refusedEvents = []) : tally.refusedEvents = [] ∧
      ∃ new, (acts sh list work tally).accepted = tally.accepted ++ new ∧
        Realizes sh list work new := by
  induction list generalizing work tally with
  | nil => exact ⟨nothing, [], (List.append_nil _).symm, rfl⟩
  | cons act rest ih =>
    obtain ⟨none, second, accepted, realizes⟩ := ih _ _ nothing
    obtain ⟨first, more, acceptedFirst, refused, realized⟩ := tally.act_realized sh work.1 act
    rw [none] at refused
    obtain ⟨before, noMore⟩ := List.append_eq_nil_iff.mp refused.symm
    refine ⟨before, first ++ second, ?_, first, second, rfl, realized noMore, realizes⟩
    rw [← List.append_assoc, ← acceptedFirst]
    exact accepted

end Tally

/-! ### The items of the programs -/

namespace Realizes

variable {sh : Shared} {work : State × Outcome} {new : List StreamItem}

/-- An act that queues nothing. -/
theorem quiet {act : Act} {rest : List Act} (realizes : Realizes sh (act :: rest) work new)
    (silent : ∀ first, act.Realized work.1 first → first = []) :
    Realizes sh rest (act.apply sh work) new := by
  obtain ⟨first, second, rfl, realized, remaining⟩ := realizes
  rw [silent first realized]
  exact remaining

theorem event {event : ConnectionEvent} {rest : List Act}
    (realizes : Realizes sh (.event event :: rest) work new) :
    ∃ second, new = .event event :: second ∧
      Realizes sh rest (State.pushEvent sh event work) second := by
  obtain ⟨first, second, rfl, rfl, remaining⟩ := realizes
  exact ⟨second, rfl, remaining⟩

theorem messages {frames : List WebSocketMessage}
    (realizes : Realizes sh (frames.map .message) work new) :
    ∃ accepted : List WebSocketMessage, new = accepted.map .message ∧ accepted.Sublist frames := by
  induction frames generalizing work new with
  | nil => exact ⟨[], realizes, .slnil⟩
  | cons frame rest ih =>
    obtain ⟨first, second, rfl, realized, remaining⟩ := realizes
    obtain ⟨accepted, rfl, sublist⟩ := ih remaining
    rcases realized with rfl | rfl
    · exact ⟨accepted, rfl, sublist.cons frame⟩
    · exact ⟨frame :: accepted, rfl, sublist.cons_cons frame⟩

/-- The frames of a rejected handshake follow its `Unauthenticated`. -/
theorem rejection {message : String} {data : Value} {frames : List WebSocketMessage}
    (realizes : Realizes sh (QueueCall.rejectActs sh message data frames) work new) :
    ∃ accepted : List WebSocketMessage, new =
        .event (.unauthenticated message data (authFrame sh frames)) :: accepted.map .message ∧
      accepted.Sublist frames := by
  obtain ⟨second, rfl, remaining⟩ := realizes.event
  obtain ⟨accepted, rfl, sublist⟩ := remaining.messages
  exact ⟨accepted, rfl, sublist⟩

/-- The frames of an accepted handshake follow its `Authenticated`. -/
theorem acceptance {reconnectedAt : Option Nat} {data : Value} {frames : List WebSocketMessage}
    (realizes :
      Realizes sh (.stamp reconnectedAt :: QueueCall.openActs sh data frames) work new) :
    ∃ accepted : List WebSocketMessage, new = .event (.authenticated data (authFrame sh frames)) :: accepted.map .message ∧
      accepted.Sublist frames := by
  have opening := realizes.quiet fun _ silent => silent
  have reporting := opening.quiet fun _ silent => silent
  obtain ⟨second, rfl, remaining⟩ := reporting.event
  obtain ⟨accepted, rfl, sublist⟩ := remaining.messages
  exact ⟨accepted, rfl, sublist⟩

/-- A `Disconnected` comes behind the report of the drops still pending. -/
theorem loss {now : Nat} {disconnect : Disconnect}
    (realizes : Realizes sh (QueueCall.loseActs now disconnect) work new) :
    ∃ reports, new = reports ++ [.event disconnect.event] ∧
      (∀ item ∈ reports, item.isDropReport = true) ∧
      (work.1.dropReports.pending = 0 → reports = []) := by
  have claimed := realizes.quiet fun _ silent => silent
  obtain ⟨reports, _, rfl, reported, rest⟩ := claimed
  obtain ⟨second, rfl, rfl⟩ := rest.event
  refine ⟨reports, rfl, fun item member => ?_, fun none => ?_⟩
  · rcases reported with rfl | ⟨-, _, _, rfl⟩
    · cases member
    · rw [List.mem_singleton.mp member]
      rfl
  · rcases reported with rfl | ⟨waiting, -⟩
    · rfl
    · exact absurd none waiting

end Realizes

/-! ### Open or not -/

/-- Whether messages are accepted after an act. -/
def Act.opened (open_ : Bool) : Act → Bool
  | .claim _ => false
  | .opens => true
  | .restart => false
  | _ => open_

theorem Act.apply_open (sh : Shared) (act : Act) (work : State × Outcome) :
    (act.apply sh work).1.open_ = act.opened work.1.open_ := by
  cases act with
  | event queued =>
    obtain ⟨new, pushes, -⟩ := State.pushEvent_pushes sh queued work
    exact pushes.opened
  | message queued =>
    obtain ⟨new, pushes, -⟩ := State.pushMessageLocked_pushes sh queued work
    exact pushes.opened
  | report now force =>
    obtain ⟨new, pushes, -⟩ := State.pushReport_pushes sh now force work
    exact pushes.opened
  | _ => rfl

theorem Act.applyAll_open (sh : Shared) (acts : List Act) (work : State × Outcome) :
    (Act.applyAll sh acts work).1.open_ = acts.foldl Act.opened work.1.open_ := by
  induction acts generalizing work with
  | nil => rfl
  | cons act rest ih => rw [Act.applyAll_cons, ih, Act.apply_open, List.foldl_cons]

/-- Only `opens` opens. -/
theorem Act.opened_of_foldl {acts : List Act} {open_ : Bool}
    (opened : acts.foldl Act.opened open_ = true) : open_ = true ∨ .opens ∈ acts := by
  induction acts generalizing open_ with
  | nil => exact Or.inl opened
  | cons act rest ih =>
    rcases ih opened with first | member
    · cases act with
      | opens => exact Or.inr List.mem_cons_self
      | claim willReconnect => cases first
      | restart => cases first
      | _ => exact Or.inl first
    · exact Or.inr (List.mem_cons_of_mem _ member)

@[simp] theorem Act.opened_messages (frames : List WebSocketMessage) (open_ : Bool) :
    (frames.map Act.message).foldl Act.opened open_ = open_ := by
  induction frames with
  | nil => rfl
  | cons frame rest ih => exact ih

/-! ### The operations -/

namespace QueueCall

/-- The events the caller hands over. -/
def carried : QueueCall → List ConnectionEvent
  | emit event => [event]
  | reconnectStep _ event => event.toList
  | emitUnlessClosed event => [event]
  | connectionFailed _ event _ _ => [event]
  | _ => []

/-- The operation is given the events the clients give it. -/
def Proper (call : QueueCall) : Prop := ∀ event ∈ call.carried, event.isNeutral = true

instance (call : QueueCall) : Decidable call.Proper :=
  inferInstanceAs (Decidable (∀ event ∈ call.carried, event.isNeutral = true))

/-- The frames of the accepted handshake it reports. -/
def acceptedFrames : QueueCall → Option (List WebSocketMessage)
  | authenticated _ frames => some frames
  | reconnectAuthenticated _ _ frames => some frames
  | _ => none

/-- The frames of the rejected handshake it reports. -/
def rejectedFrames : QueueCall → Option (List WebSocketMessage)
  | unauthenticated _ _ frames => some frames
  | reconnectRejected _ _ frames => some frames
  | _ => none

def isReconnectFailed : QueueCall → Bool
  | reconnectFailed .. => true
  | _ => false

/-- It claims the connection's `Disconnected`. -/
def claims (client : Client) : QueueCall → Bool
  | connectionLost .. => !client.stream.disconnectClaimed
  | connectionFailed .. => !client.stream.closeReported && !client.stream.disconnectClaimed
  | clientClosed .. => !client.stream.closeReported
  | _ => false

end QueueCall

/-- The items an operation may queue, and whether messages are accepted after it. -/
inductive Block (client : Client) (call : QueueCall) : List StreamItem → Bool → Prop
  | nothing : Block client call [] client.stream.open_
  | restarts : Block client call [] false
  | passes (event : ConnectionEvent) : event.isNeutral = true →
      Block client call [.event event] client.stream.open_
  | delivers (items : List StreamItem) : client.stream.open_ = true →
      (∀ item ∈ items, item.isMessage = true ∨ item.isDropReport = true) → Block client call items true
  | accepts (data : Value) (frame : String) (frames accepted : List WebSocketMessage) :
      call.acceptedFrames = some frames → accepted.Sublist frames →
      Block client call (.event (.authenticated data frame) :: accepted.map .message) true
  | rejects (message : String) (data : Value) (frame : String)
      (frames accepted : List WebSocketMessage) :
      call.rejectedFrames = some frames → accepted.Sublist frames →
      Block client call (.event (.unauthenticated message data frame) :: accepted.map .message)
        client.stream.open_
  | loses (first reports : List StreamItem) (disconnect : Disconnect) :
      call.claims client = true → (∀ item ∈ first, item.isNeutral = true) →
      (∀ item ∈ reports, item.isDropReport = true) →
      (client.stream.dropReports.pending = 0 → reports = []) →
      Block client call (first ++ (reports ++ [.event disconnect.event])) false
  | givesUp (attempts : Nat) : call.isReconnectFailed = true →
      Block client call [.event (.reconnectFailed attempts)] client.stream.open_

namespace QueueCall

variable {sh : Shared} {client : Client} {new : List StreamItem}

/-- An operation that a reported or claimed close refuses. -/
theorem unless_block {call : QueueCall} {refused : Bool} {acts : List Act}
    (block : refused = false → Realizes sh acts (client.stream, {}) new →
      Block client call new (acts.foldl Act.opened client.stream.open_))
    (realizes : Realizes sh (if refused = true then [] else acts) (client.stream, {}) new) :
    Block client call new ((if refused = true then [] else acts).foldl Act.opened client.stream.open_) := by
  cases refused with
  | false => exact block rfl realizes
  | true =>
    obtain rfl : new = [] := realizes
    exact .nothing

/-- An operation of one neutral event. -/
theorem event_block {call : QueueCall} {event : ConnectionEvent} (neutral : event.isNeutral = true)
    (realizes : Realizes sh [.event event] (client.stream, {}) new) :
    Block client call new client.stream.open_ := by
  obtain ⟨second, rfl, rfl⟩ := realizes.event
  exact .passes event neutral

theorem message_block {call : QueueCall} {now : Nat} {message : WebSocketMessage}
    (opened : client.stream.open_ = true)
    (realizes : Realizes sh [.message message, .report now false] (client.stream, {}) new) :
    Block client call new client.stream.open_ := by
  obtain ⟨first, _, rfl, delivered, rest⟩ := realizes
  obtain ⟨reports, _, rfl, reported, rfl⟩ := rest
  rw [opened]
  refine .delivers _ opened fun item member => ?_
  rw [List.append_nil] at member
  rcases List.mem_append.mp member with member | member
  · rcases delivered with rfl | rfl
    · cases member
    · rw [List.mem_singleton.mp member]
      exact Or.inl rfl
  · rcases reported with rfl | ⟨-, _, _, rfl⟩
    · cases member
    · rw [List.mem_singleton.mp member]
      exact Or.inr rfl

theorem rejection_block {call : QueueCall} {message : String} {data : Value}
    {frames : List WebSocketMessage} (rejects : call.rejectedFrames = some frames)
    (realizes : Realizes sh (rejectActs sh message data frames) (client.stream, {}) new) :
    Block client call new
      ((rejectActs sh message data frames).foldl Act.opened client.stream.open_) := by
  obtain ⟨accepted, rfl, sublist⟩ := realizes.rejection
  simp only [rejectActs, List.foldl_cons, Act.opened, Act.opened_messages]
  exact .rejects message data _ frames accepted rejects sublist

theorem acceptance_block {call : QueueCall} {reconnectedAt : Option Nat} {data : Value}
    {frames : List WebSocketMessage} (accepts : call.acceptedFrames = some frames)
    (realizes :
      Realizes sh (.stamp reconnectedAt :: openActs sh data frames) (client.stream, {}) new) :
    Block client call new
      ((.stamp reconnectedAt :: openActs sh data frames).foldl Act.opened client.stream.open_) := by
  obtain ⟨accepted, rfl, sublist⟩ := realizes.acceptance
  simp only [openActs, List.foldl_cons, Act.opened, Act.opened_messages]
  exact .accepts data _ frames accepted accepts sublist

theorem loss_block {call : QueueCall} {now : Nat} {disconnect : Disconnect}
    (claims : call.claims client = true)
    (realizes : Realizes sh (loseActs now disconnect) (client.stream, {}) new) :
    Block client call new false := by
  obtain ⟨reports, rfl, drops, none⟩ := realizes.loss
  exact .loses [] reports disconnect claims (fun _ member => by cases member) drops none

/-- A failed connection's event comes before its `Disconnected`. -/
theorem failure_block {call : QueueCall} {now : Nat} {event : ConnectionEvent}
    {disconnect : Disconnect} (neutral : event.isNeutral = true) (claims : call.claims client = true)
    (realizes : Realizes sh (.event event :: loseActs now disconnect) (client.stream, {}) new) :
    Block client call new false := by
  obtain ⟨second, rfl, rest⟩ := realizes.event
  obtain ⟨reports, rfl, drops, none⟩ := rest.loss
  have kept : (State.pushEvent sh event (client.stream, {})).1.dropReports =
      client.stream.dropReports := by
    simp only [State.pushEvent]
    split
    · rfl
    split <;> rfl
  rw [kept] at none
  refine .loses [.event event] reports disconnect claims (fun item member => ?_) drops none
  rw [List.mem_singleton.mp member]
  exact neutral

/-- **Every operation queues one of the blocks.** -/
theorem call_block (call : QueueCall) (proper : call.Proper)
    (realizes : Realizes sh (call.acts sh client) (client.stream, {}) new) :
    Block client call new (call.apply sh client).stream.open_ := by
  rw [stream_apply, Act.applyAll_open]
  cases call with
  | emit event => exact event_block (proper event List.mem_cons_self) realizes
  | startConnection =>
    obtain rfl : new = [] := realizes.quiet fun _ silent => silent
    exact .restarts
  | setState next =>
    obtain rfl : new = [] := realizes
    exact .nothing
  | useHandle conflict =>
    obtain rfl : new = [] := realizes
    exact .nothing
  | pushMessage now message =>
    simp only [acts] at realizes ⊢
    split at realizes
    · rename_i opened
      rw [if_pos opened]
      exact message_block opened realizes
    · rename_i down
      rw [if_neg down]
      obtain rfl : new = [] := realizes
      exact .nothing
  | callerConnecting now =>
    simp only [acts] at realizes ⊢
    split at realizes
    · exact event_block rfl realizes
    · obtain rfl : new = [] := realizes
      exact .nothing
  | authenticated data frames => exact acceptance_block rfl realizes
  | unauthenticated message data frames => exact rejection_block rfl realizes
  | reconnectStep next event =>
    refine unless_block (fun _ pushes => ?_) realizes
    cases event with
    | none =>
      obtain rfl : new = [] := pushes
      exact .nothing
    | some event => exact event_block (proper event List.mem_cons_self) pushes
  | emitUnlessClosed event =>
    exact unless_block (fun _ pushes => event_block (proper event List.mem_cons_self) pushes) realizes
  | reconnectAuthenticated now data frames =>
    exact unless_block (fun _ pushes => acceptance_block rfl pushes) realizes
  | reconnectRejected message data frames =>
    exact unless_block (fun _ pushes => rejection_block rfl pushes) realizes
  | connectionLost now code reason intent willReconnect =>
    refine unless_block (fun free pushes => loss_block ?_ pushes) realizes
    simp [claims, free]
  | connectionFailed now event reason willReconnect =>
    have neutral := proper event List.mem_cons_self
    refine unless_block (fun unreported pushes => ?_) realizes
    cases claimed : client.stream.disconnectClaimed with
    | true =>
      rw [claimed] at pushes
      exact event_block neutral pushes
    | false =>
      rw [claimed] at pushes
      exact failure_block neutral (by simp [claims, unreported, claimed]) pushes
  | clientClosed now code reason =>
    refine unless_block (fun unreported pushes => loss_block ?_ pushes) realizes
    simp [claims, unreported]
  | reconnectFailed code attempts reason intent =>
    refine unless_block (fun _ pushes => ?_) realizes
    obtain ⟨second, rfl, rfl⟩ := (pushes.quiet fun _ silent => silent).event
    exact .givesUp attempts rfl

end QueueCall

end FugleMarketdata
