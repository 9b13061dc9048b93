/-
**What lies inside a connection's window.** Guarantees 4 and 6 of `connection_event.rs`, for the queue
under any operations in any order.

* `messages_windowed` — a message lies between its connection's `Authenticated` and what ends it, or is
  a frame of a rejected handshake right behind its `Unauthenticated`;
* `started_windowed` — the same where each verdict answers a handshake that was begun;
* `reports_windowed` — a `MessagesDropped` lies between an `Authenticated` and the `Disconnected` that
  follows it, if no `Disconnected` is claimed with drops unreported while no connection is open;
* `rejectedLogin_reportsOutside` — the frames of a rejected login that did not fit are reported at the
  close.
-/

import FugleMarketdata.Websocket.QueueBlocks

namespace FugleMarketdata

open StepMachines StepMachine Traces

/-! ### The windows -/

namespace StreamItem

def isAuthenticated : StreamItem → Bool
  | event (.authenticated ..) => true
  | _ => false

def isDisconnected : StreamItem → Bool
  | event (.disconnected ..) => true
  | _ => false

/-- A `Disconnected`, an `Unauthenticated` or a `ReconnectFailed`. -/
def endsMessages : StreamItem → Bool
  | event (.disconnected ..) => true
  | event (.unauthenticated ..) => true
  | event (.reconnectFailed ..) => true
  | _ => false

end StreamItem

/-- Where a connection's messages lie. -/
def messageWindow : Window StreamItem where
  opens := StreamItem.isAuthenticated
  closes := StreamItem.endsMessages

/-- Where a connection's drop reports lie. -/
def reportWindow : Window StreamItem where
  opens := StreamItem.isAuthenticated
  closes := StreamItem.isDisconnected

namespace StreamItem

/-- What goes on inside a connection: messages, drop reports and neutral events. -/
def isOrdinary (item : StreamItem) : Bool := item.isMessage || item.isDropReport || item.isNeutral

theorem isOrdinary_of_isNeutral {item : StreamItem} (neutral : item.isNeutral = true) :
    item.isOrdinary = true := by
  simp [isOrdinary, neutral]

theorem isOrdinary_of_isDropReport {item : StreamItem} (report : item.isDropReport = true) :
    item.isOrdinary = true := by
  simp [isOrdinary, report]

theorem isOrdinary_of_isMessage {item : StreamItem} (message : item.isMessage = true) :
    item.isOrdinary = true := by
  simp [isOrdinary, message]

/-- It ends no window. -/
theorem ordinary_stays {item : StreamItem} (ordinary : item.isOrdinary = true) :
    item.endsMessages = false ∧ item.isDisconnected = false := by
  cases item with
  | message message => exact ⟨rfl, rfl⟩
  | event event =>
    cases event with
    | unauthenticated message data frame => cases ordinary
    | disconnected code reason intent willReconnect => cases ordinary
    | reconnectFailed attempts => cases ordinary
    | _ => exact ⟨rfl, rfl⟩

/-- A neutral event is neither a message nor a drop report. -/
theorem neutral_other {item : StreamItem} (neutral : item.isNeutral = true) :
    item.isMessage = false ∧ item.isDropReport = false := by
  cases item with
  | message message => cases neutral
  | event event =>
    cases event with
    | messagesDropped dropped total => cases neutral
    | _ => exact ⟨rfl, rfl⟩

theorem isDropReport_not_isMessage {item : StreamItem} (report : item.isDropReport = true) :
    item.isMessage = false := by
  cases item with
  | message message => cases report
  | event event => rfl

theorem isMessage_map {frames : List WebSocketMessage} {item : StreamItem}
    (member : item ∈ frames.map StreamItem.message) : item.isMessage = true := by
  obtain ⟨frame, -, rfl⟩ := List.mem_map.mp member
  rfl

end StreamItem

open StreamItem

/-! ### The steps -/

namespace QueueRun

variable {sh : Shared} {run next : QueueRun}

/-- An operation adds a block to the stream, if no event is refused up to its end. -/
theorem step_block {call : QueueCall} (proper : call.Proper)
    (nothing : next.tally.refusedEvents = [])
    (stepped : run.step sh (.call call) = some next) :
    run.tally.refusedEvents = [] ∧ ∃ new, next.log = run.log ++ [(call, new)] ∧
      next.stream = run.stream ++ new ∧ Realizes sh (call.acts sh run.client) (run.client.stream, {}) new ∧
      Block run.client call new next.client.stream.open_ := by
  cases stepped
  obtain ⟨before, new, accepted, realizes⟩ := Tally.acts_realizes sh _ _ _ nothing
  refine ⟨before, new, ?_, ?_, realizes, QueueCall.call_block call proper realizes⟩
  · simp only [accepted, List.nil_append]
  · simp only [stream, accepted, List.nil_append, List.flatMap_append, List.flatMap_singleton]

/-- The consumer's read leaves what was queued as it was. -/
theorem step_pop (stepped : run.step sh .pop = some next) :
    next.tally = run.tally ∧ next.log = run.log ∧
      next.client.stream.open_ = run.client.stream.open_ := by
  obtain ⟨⟨item, rest⟩, took, rfl⟩ := Option.map_eq_some_iff.mp stepped
  refine ⟨rfl, rfl, ?_⟩
  unfold State.pop at took
  split at took <;> cases took <;> rfl

end QueueRun

namespace QueueStep

/-- The clients hand over neutral events only. -/
def Proper : QueueStep → Prop
  | call made => made.Proper
  | pop => True

/-- Credentials are rejected and a reconnect is given up only where no connection is open. -/
def Unopened (run : QueueRun) : QueueStep → Prop
  | call made => made.rejectedFrames.isSome = true ∨ made.isReconnectFailed = true →
      run.client.stream.open_ = false
  | pop => True

/-- A `Disconnected` claimed while no connection is open finds no drops unreported. -/
def Settled (run : QueueRun) : QueueStep → Prop
  | call made => made.claims run.client = true → run.client.stream.open_ = false →
      run.client.stream.dropReports.pending = 0
  | pop => True

instance (label : QueueStep) : Decidable label.Proper :=
  match label with
  | call made => inferInstanceAs (Decidable made.Proper)
  | pop => .isTrue trivial

instance (run : QueueRun) (label : QueueStep) : Decidable (label.Unopened run) :=
  match label with
  | call made => inferInstanceAs (Decidable (made.rejectedFrames.isSome = true ∨
      made.isReconnectFailed = true → run.client.stream.open_ = false))
  | pop => .isTrue trivial

instance (run : QueueRun) (label : QueueStep) : Decidable (label.Settled run) :=
  match label with
  | call made => inferInstanceAs (Decidable (made.claims run.client = true →
      run.client.stream.open_ = false → run.client.stream.dropReports.pending = 0))
  | pop => .isTrue trivial

end QueueStep

/-! ### Messages -/

/-- An `Unauthenticated`, then frames of its handshake, in the order they were read. -/
def RejectedBlock (frames : List WebSocketMessage) (pushed : List StreamItem) : Prop :=
  ∃ (message : String) (data : Value) (frame : String) (accepted : List WebSocketMessage),
    accepted.Sublist frames ∧
      pushed = .event (.unauthenticated message data frame) :: accepted.map .message

/-- An `Authenticated`, then frames of its handshake, in the order they were read. -/
def AcceptedBlock (frames : List WebSocketMessage) (pushed : List StreamItem) : Prop :=
  ∃ (data : Value) (frame : String) (accepted : List WebSocketMessage), accepted.Sublist frames ∧
    pushed = .event (.authenticated data frame) :: accepted.map .message

/-- Where the messages of a block lie, behind the items `before`: they are the frames of a rejected
handshake behind its `Unauthenticated`, or inside the window; and the frames of an accepted handshake
come right behind its `Authenticated`. -/
def Placed (before : List StreamItem) (call : QueueCall) (pushed : List StreamItem) : Prop :=
  ((∃ frames, call.rejectedFrames = some frames ∧ RejectedBlock frames pushed) ∨
    Throughout (fun earlier item => item.isMessage = true → messageWindow.Inside (before ++ earlier))
      pushed) ∧
  ∀ frames, call.acceptedFrames = some frames → pushed = [] ∨ AcceptedBlock frames pushed

/-- An accepted handshake is reported, unless the client's close has been. -/
theorem QueueCall.accepted_block {sh : Shared} {client : Client} {new : List StreamItem}
    {call : QueueCall} {frames : List WebSocketMessage}
    (realizes : Realizes sh (call.acts sh client) (client.stream, {}) new)
    (accepts : call.acceptedFrames = some frames) : new = [] ∨ AcceptedBlock frames new := by
  cases call with
  | authenticated data read =>
    cases accepts
    obtain ⟨accepted, rfl, sublist⟩ := realizes.acceptance
    exact Or.inr ⟨data, _, accepted, sublist, rfl⟩
  | reconnectAuthenticated now data read =>
    cases accepts
    simp only [QueueCall.acts] at realizes
    split at realizes
    · exact Or.inl realizes
    · obtain ⟨accepted, rfl, sublist⟩ := realizes.acceptance
      exact Or.inr ⟨data, _, accepted, sublist, rfl⟩
  | _ => cases accepts

/-- A block's messages lie where they should, and behind it an open connection is inside its
window. -/
theorem Block.messages {client : Client} {call : QueueCall} {before new : List StreamItem}
    {opened : Bool} (block : Block client call new opened)
    (unopened : call.rejectedFrames.isSome = true ∨ call.isReconnectFailed = true →
      client.stream.open_ = false)
    (inside : client.stream.open_ = true → messageWindow.Inside before) :
    ((∃ frames, call.rejectedFrames = some frames ∧ RejectedBlock frames new) ∨
      Throughout (fun earlier item => item.isMessage = true → messageWindow.Inside (before ++ earlier))
        new) ∧
    (opened = true → messageWindow.Inside (before ++ new)) := by
  cases block with
  | nothing => exact ⟨Or.inr .nil, fun opened => by simpa using inside opened⟩
  | restarts => exact ⟨Or.inr .nil, fun opened => by cases opened⟩
  | passes event neutral =>
    have stays : ∀ item ∈ [StreamItem.event event], messageWindow.closes item = false := by
      intro item member
      rw [List.mem_singleton.mp member]
      have plain : (StreamItem.event event).isNeutral = true := neutral
      exact (ordinary_stays (isOrdinary_of_isNeutral plain)).1
    refine ⟨Or.inr (.of_forall fun _ item member message => ?_), fun opened =>
      (inside opened).append stays⟩
    rw [List.mem_singleton.mp member] at message
    cases message
  | delivers items opened ordinary =>
    have stays : ∀ item ∈ new, messageWindow.closes item = false := by
      intro item member
      rcases ordinary item member with message | report
      · exact (ordinary_stays (isOrdinary_of_isMessage message)).1
      · exact (ordinary_stays (isOrdinary_of_isDropReport report)).1
    exact ⟨Or.inr (((inside opened).throughout stays).mono fun _ _ _ within _ => within),
      fun _ => (inside opened).append stays⟩
  | accepts data frame frames accepted accepts sublist =>
    have stays : ∀ item ∈ accepted.map StreamItem.message, messageWindow.closes item = false :=
      fun item member => (ordinary_stays (isOrdinary_of_isMessage (isMessage_map member))).1
    have within : messageWindow.Inside (before ++ [.event (.authenticated data frame)]) :=
      Window.inside_of_opens before rfl
    refine ⟨Or.inr (.cons (fun message => by cases message) ?_), fun _ => ?_⟩
    · refine (within.throughout stays).mono fun earlier _ _ found _ => ?_
      simpa using found
    · simpa using within.append stays
  | rejects message data frame frames accepted rejects sublist =>
    have down : client.stream.open_ = false := unopened (Or.inl (by rw [rejects]; rfl))
    refine ⟨Or.inl ⟨frames, rejects, message, data, frame, accepted, sublist, rfl⟩, fun opened => ?_⟩
    rw [down] at opened
    cases opened
  | loses first reports disconnect claims neutral drops none =>
    refine ⟨Or.inr (.of_forall fun _ item member message => ?_), fun opened => by cases opened⟩
    rcases List.mem_append.mp member with member | member
    · rw [(neutral_other (neutral item member)).1] at message
      cases message
    rcases List.mem_append.mp member with member | member
    · rw [isDropReport_not_isMessage (drops item member)] at message
      cases message
    · rw [List.mem_singleton.mp member] at message
      cases message
  | givesUp attempts gaveUp =>
    have down : client.stream.open_ = false := unopened (Or.inr gaveUp)
    refine ⟨Or.inr (.of_forall fun _ item member message => ?_), fun opened => ?_⟩
    · rw [List.mem_singleton.mp member] at message
      cases message
    · rw [down] at opened
      cases opened

/-- Where a run has come: its blocks are placed and an open connection is inside its window. -/
def QueueRun.Windowed (run : QueueRun) : Prop :=
  Throughout (fun before block => Placed (before.flatMap Prod.snd) block.1 block.2) run.log ∧
    (run.client.stream.open_ = true → messageWindow.Inside run.stream)

theorem QueueRun.Windowed.step {sh : Shared} {run next : QueueRun} {label : QueueStep}
    (proper : label.Proper) (unopened : label.Unopened run)
    (windowed : run.tally.refusedEvents = [] → run.Windowed)
    (stepped : run.step sh label = some next) (nothing : next.tally.refusedEvents = []) :
    next.Windowed := by
  cases label with
  | call call =>
    obtain ⟨before, new, log, stream, realizes, block⟩ := step_block proper nothing stepped
    obtain ⟨placed, inside⟩ := windowed before
    obtain ⟨here, within⟩ := block.messages unopened inside
    refine ⟨?_, fun opened => ?_⟩
    · rw [log]
      exact placed.concat ⟨here, fun frames accepts => QueueCall.accepted_block realizes accepts⟩
    · rw [stream]
      exact within opened
  | pop =>
    obtain ⟨tally, log, opened⟩ := step_pop stepped
    rw [tally] at nothing
    unfold Windowed QueueRun.stream
    rw [log, opened]
    exact windowed nothing

/-- Where every step meets the conditions, the run is windowed. -/
theorem QueueRun.reachable_windowed {sh : Shared} {run : QueueRun}
    (reached : (queueRuns sh).ReachableUnder
      (fun run label _ => label.Proper ∧ label.Unopened run) run)
    (nothing : run.tally.refusedEvents = []) : run.Windowed := by
  have base (first : QueueRun) (starts : (queueRuns sh).start first) :
      first.tally.refusedEvents = [] → first.Windowed := by
    cases starts
    exact fun _ => ⟨.nil, fun opened => by cases opened⟩
  have keeps (before : QueueRun) (label : QueueStep) (after : QueueRun)
      (windowed : before.tally.refusedEvents = [] → before.Windowed)
      (stepped : (queueRuns sh).step before label = some after)
      (allows : label.Proper ∧ label.Unopened before) :
      after.tally.refusedEvents = [] → after.Windowed :=
    QueueRun.Windowed.step allows.1 allows.2 windowed stepped
  exact reached.invariant base keeps nothing

/-- **Messages stay in their connection's window.** In every run in which no event is refused, and
credentials are rejected and a reconnect is given up only where no connection is open, a message is a
frame of a rejected handshake right behind its `Unauthenticated`, or comes after an `Authenticated` with
no `Disconnected`, `Unauthenticated` or `ReconnectFailed` in between; and the frames of an accepted
handshake come right behind its `Authenticated`. -/
theorem messages_windowed {sh : Shared} {run : QueueRun}
    (reached : (queueRuns sh).ReachableUnder
      (fun run label _ => label.Proper ∧ label.Unopened run) run)
    (nothing : run.tally.refusedEvents = []) :
    run.popped ++ run.client.stream.items = run.log.flatMap Prod.snd ∧
      Throughout (fun before block => Placed (before.flatMap Prod.snd) block.1 block.2) run.log := by
  have books := (QueueRun.reachable_accounted reached.reachable).items
  exact ⟨books.trans (List.append_nil _), (QueueRun.reachable_windowed reached nothing).1⟩

/-- The second message finds its connection's window open, and the last none. -/
def twoLogins : List QueueStep :=
  [.call .startConnection, .call (.authenticated .null [{ event := "authenticated" }]), .pop,
    .call (.connectionLost 0 none "reset" .network true), .call (.pushMessage 1 { event := "data" }),
    .call .startConnection, .call (.reconnectRejected "bad" .null [{ event := "error" }])]

theorem messages_windowed_twoLogins : ∃ run,
    (queueRuns oneMessageStream).runUnder (fun run label => label.Proper ∧ label.Unopened run) {}
        twoLogins = some run ∧
      run.log.length = 6 ∧
      Throughout (fun before block => Placed (before.flatMap Prod.snd) block.1 block.2) run.log := by
  have runs : ∃ run,
      (queueRuns oneMessageStream).runUnder (fun run label => label.Proper ∧ label.Unopened run) {}
        twoLogins = some run ∧ run.tally.refusedEvents = [] ∧ run.log.length = 6 :=
    ⟨_, rfl, rfl, rfl⟩
  obtain ⟨run, ran, nothing, length⟩ := runs
  have reached := reachableUnder_of_run twoLogins (.start rfl) ran
  exact ⟨run, ran, length, (messages_windowed reached nothing).2⟩

/-! ### Handshakes begun -/

namespace QueueCall

/-- It reports how a handshake ended. -/
def isVerdict (call : QueueCall) : Bool := call.acceptedFrames.isSome || call.rejectedFrames.isSome

/-- It starts a handshake, ends one, or neither. -/
def awaits (started : Bool) : QueueCall → Bool
  | startConnection => true
  | call => started && !call.isVerdict

/-- Only an accepted handshake opens a connection. -/
theorem opens_of_mem {sh : Shared} {client : Client} {call : QueueCall}
    (member : Act.opens ∈ call.acts sh client) : call.acceptedFrames.isSome = true := by
  cases call with
  | authenticated data frames => rfl
  | reconnectAuthenticated now data frames => rfl
  | pushMessage now message | callerConnecting now =>
    simp only [acts] at member
    split at member <;> simp at member
  | connectionFailed now event reason willReconnect =>
    simp only [acts] at member
    split at member
    · cases member
    split at member <;> simp [loseActs] at member
  | _ => simp [acts, rejectActs, loseActs] at member

theorem apply_opens {sh : Shared} {client : Client} {call : QueueCall}
    (opens : (call.apply sh client).stream.open_ = true) :
    client.stream.open_ = true ∨ call.acceptedFrames.isSome = true := by
  rw [stream_apply, Act.applyAll_open] at opens
  rcases Act.opened_of_foldl opens with before | member
  · exact Or.inl before
  · exact Or.inr (opens_of_mem member)

end QueueCall

/-- A `startConnection` has come that no verdict has answered. -/
def awaitsVerdict (log : List (QueueCall × List StreamItem)) : Bool :=
  log.foldl (fun started block => block.1.awaits started) false

/-- Each verdict is preceded by its own `startConnection`. -/
def QueueStep.Started (run : QueueRun) : QueueStep → Prop
  | call made => made.isVerdict = true → awaitsVerdict run.log = true
  | pop => True

/-- A handshake that has been started finds no connection open. -/
theorem awaitsVerdict_closed {sh : Shared} {run : QueueRun} (reached : (queueRuns sh).Reachable run) :
    awaitsVerdict run.log = true → run.client.stream.open_ = false := by
  have base (first : QueueRun) (starts : (queueRuns sh).start first) :
      awaitsVerdict first.log = true → first.client.stream.open_ = false := by
    cases starts
    exact fun _ => rfl
  refine reached.invariant base fun before label after closed stepped => ?_
  cases label with
  | pop =>
    obtain ⟨-, log, opened⟩ := @QueueRun.step_pop sh _ _ stepped
    rw [log, opened]
    exact closed
  | call call =>
    cases stepped
    simp only [awaitsVerdict, List.foldl_append, List.foldl_cons, List.foldl_nil]
    intro awaits
    rw [← Bool.not_eq_true]
    intro opens
    by_cases starts : call = .startConnection
    · subst starts
      cases opens
    have goesOn (started : Bool) : call.awaits started = (started && !call.isVerdict) := by
      cases call <;> first | rfl | exact absurd rfl starts
    rw [goesOn, Bool.and_eq_true, Bool.not_eq_true'] at awaits
    rcases QueueCall.apply_opens opens with already | accepts
    · rw [closed awaits.1] at already
      cases already
    · have verdict := awaits.2
      simp only [QueueCall.isVerdict, accepts, Bool.true_or] at verdict
      cases verdict

/-- A reconnect is given up only where no connection is open. -/
def QueueStep.GivesUpShut (run : QueueRun) : QueueStep → Prop
  | call made => made.isReconnectFailed = true → run.client.stream.open_ = false
  | pop => True

/-- A verdict that answers its own `startConnection` finds no connection open. -/
theorem QueueStep.Started.unopened {sh : Shared} {run : QueueRun} {label : QueueStep}
    (reached : (queueRuns sh).Reachable run) (started : label.Started run)
    (givesUp : label.GivesUpShut run) : label.Unopened run := by
  cases label with
  | pop => trivial
  | call made =>
    rintro (rejects | gaveUp)
    · have verdict : made.isVerdict = true := by rw [QueueCall.isVerdict, rejects, Bool.or_true]
      exact awaitsVerdict_closed reached (started verdict)
    · exact givesUp gaveUp

/-- **Verdicts of handshakes that were begun keep to the windows.** Where each verdict answers its own
`startConnection`, messages stay in their window as long as no reconnect is given up on an open
connection. -/
theorem started_windowed {sh : Shared} {run : QueueRun}
    (reached : (queueRuns sh).ReachableUnder
      (fun run label _ => label.Proper ∧ label.Started run ∧ label.GivesUpShut run) run)
    (nothing : run.tally.refusedEvents = []) :
    Throughout (fun before block => Placed (before.flatMap Prod.snd) block.1 block.2) run.log := by
  have unopened : (queueRuns sh).ReachableUnder
      (fun run label _ => label.Proper ∧ label.Unopened run) run :=
    reached.mono_reached fun _ _ _ reaches ⟨proper, started, givesUp⟩ =>
      ⟨proper, started.unopened reaches givesUp⟩
  exact (QueueRun.reachable_windowed unopened nothing).1

instance (run : QueueRun) (label : QueueStep) : Decidable (label.Started run) :=
  match label with
  | .call made => inferInstanceAs (Decidable (made.isVerdict = true → awaitsVerdict run.log = true))
  | .pop => .isTrue trivial

/-- A reconnect is given up while a connection is open, and a message follows. -/
def gaveUpOpen : List QueueStep :=
  [.call .startConnection, .call (.authenticated .null []),
    .call (.reconnectFailed none 1 "gone" .network), .call (.pushMessage 0 { event := "data" })]

/-- **A reconnect given up on an open connection leaves it open.** -/
theorem gaveUpOpen_misplaces : ¬ ∀ run,
    (queueRuns oneMessageStream).ReachableUnder
        (fun run label _ => label.Proper ∧ label.Started run) run →
      run.tally.refusedEvents = [] →
      Throughout (fun before block => Placed (before.flatMap Prod.snd) block.1 block.2) run.log := by
  intro always
  have runs : ∃ run before,
      (queueRuns oneMessageStream).runUnder (fun run label => label.Proper ∧ label.Started run) {}
        gaveUpOpen = some run ∧ run.tally.refusedEvents = [] ∧
      run.log = before ++ [(.pushMessage 0 { event := "data" }, [.message { event := "data" }])] ∧
      messageWindow.isOpen (before.flatMap Prod.snd) = false :=
    ⟨_, [(.startConnection, []), (.authenticated .null [], [.event (.authenticated .null "")]),
      (.reconnectFailed none 1 "gone" .network, [.event (.reconnectFailed 1)])], rfl, rfl, rfl, rfl⟩
  obtain ⟨run, before, ran, nothing, log, shut⟩ := runs
  have reached := reachableUnder_of_run gaveUpOpen (.start rfl) ran
  have placed := always run reached nothing before _ [] log
  rcases placed.1 with ⟨frames, rejects, -⟩ | inside
  · cases rejects
  · have within := inside [] _ [] rfl rfl
    rw [List.append_nil, Window.inside_iff, shut] at within
    cases within

/-! ### Drop reports -/

/-- A block's drop reports lie inside the window, and behind it an open connection is inside its
window. -/
theorem Block.reports {client : Client} {call : QueueCall} {before new : List StreamItem}
    {opened : Bool} (block : Block client call new opened)
    (settled : call.claims client = true → client.stream.open_ = false →
      client.stream.dropReports.pending = 0)
    (inside : client.stream.open_ = true → reportWindow.Inside before) :
    Throughout (fun earlier item => item.isDropReport = true → reportWindow.Inside (before ++ earlier))
        new ∧
      (opened = true → reportWindow.Inside (before ++ new)) := by
  -- A block without drop reports and without a `Disconnected`.
  have plain {items : List StreamItem}
      (silent : ∀ item ∈ items, item.isDropReport = false ∧ item.isDisconnected = false) :
      Throughout (fun earlier item => item.isDropReport = true →
          reportWindow.Inside (before ++ earlier)) items ∧
        (client.stream.open_ = true → reportWindow.Inside (before ++ items)) := by
    refine ⟨.of_forall fun _ item member report => ?_, fun opened =>
      (inside opened).append fun item member => (silent item member).2⟩
    rw [(silent item member).1] at report
    cases report
  have message_plain {item : StreamItem} (message : item.isMessage = true) :
      item.isDropReport = false ∧ item.isDisconnected = false := by
    cases item with
    | message message => exact ⟨rfl, rfl⟩
    | event event => cases message
  cases block with
  | nothing => exact plain fun _ member => by cases member
  | restarts => exact ⟨.nil, fun opened => by cases opened⟩
  | passes event neutral =>
    refine plain fun item member => ?_
    rw [List.mem_singleton.mp member]
    have alone : (StreamItem.event event).isNeutral = true := neutral
    exact ⟨(neutral_other alone).2, (ordinary_stays (isOrdinary_of_isNeutral alone)).2⟩
  | delivers items opened ordinary =>
    have stays : ∀ item ∈ new, reportWindow.closes item = false := by
      intro item member
      rcases ordinary item member with message | report
      · exact (message_plain message).2
      · exact (ordinary_stays (isOrdinary_of_isDropReport report)).2
    exact ⟨((inside opened).throughout stays).mono fun _ _ _ within _ => within,
      fun _ => (inside opened).append stays⟩
  | accepts data frame frames accepted accepts sublist =>
    have within : reportWindow.Inside (before ++ [.event (.authenticated data frame)]) :=
      Window.inside_of_opens before rfl
    refine ⟨(plain fun item member => ?_).1, fun _ => ?_⟩
    · rcases List.mem_cons.mp member with rfl | member
      · exact ⟨rfl, rfl⟩
      · exact message_plain (isMessage_map member)
    · have stays : ∀ item ∈ accepted.map StreamItem.message, reportWindow.closes item = false :=
        fun item member => (message_plain (isMessage_map member)).2
      simpa using within.append stays
  | rejects message data frame frames accepted rejects sublist =>
    refine plain fun item member => ?_
    rcases List.mem_cons.mp member with rfl | member
    · exact ⟨rfl, rfl⟩
    · exact message_plain (isMessage_map member)
  | loses first reports disconnect claims neutral drops none =>
    refine ⟨?_, fun opened => by cases opened⟩
    cases opened : client.stream.open_ with
    | false =>
      rw [none (settled claims opened)]
      refine .of_forall fun _ item member report => ?_
      rcases List.mem_append.mp member with member | member
      · rw [(neutral_other (neutral item member)).2] at report
        cases report
      · rw [List.mem_singleton.mp member] at report
        cases report
    | true =>
      have stays : ∀ item ∈ first ++ reports, reportWindow.closes item = false := by
        intro item member
        rcases List.mem_append.mp member with member | member
        · exact (ordinary_stays (isOrdinary_of_isNeutral (neutral item member))).2
        · exact (ordinary_stays (isOrdinary_of_isDropReport (drops item member))).2
      rw [← List.append_assoc]
      refine .concat (((inside opened).throughout stays).mono fun _ _ _ within _ => within)
        fun report => ?_
      cases report
  | givesUp attempts gaveUp =>
    refine plain fun item member => ?_
    rw [List.mem_singleton.mp member]
    exact ⟨rfl, rfl⟩

/-- Where a run has come: its drop reports are inside their windows, and so is an open connection. -/
def QueueRun.Reporting (run : QueueRun) : Prop :=
  Throughout (fun earlier item => item.isDropReport = true → reportWindow.Inside earlier) run.stream ∧
    (run.client.stream.open_ = true → reportWindow.Inside run.stream)

theorem QueueRun.Reporting.step {sh : Shared} {run next : QueueRun} {label : QueueStep}
    (proper : label.Proper) (settled : label.Settled run)
    (reporting : run.tally.refusedEvents = [] → run.Reporting)
    (stepped : run.step sh label = some next) (nothing : next.tally.refusedEvents = []) :
    next.Reporting := by
  cases label with
  | call call =>
    obtain ⟨before, new, log, stream, -, block⟩ := step_block proper nothing stepped
    obtain ⟨reports, inside⟩ := reporting before
    obtain ⟨here, within⟩ := block.reports settled inside
    unfold Reporting
    rw [stream]
    exact ⟨reports.append here, within⟩
  | pop =>
    obtain ⟨tally, log, opened⟩ := step_pop stepped
    rw [tally] at nothing
    unfold Reporting QueueRun.stream
    rw [log, opened]
    exact reporting nothing

/-- **Drop reports stay in their connection's window.** In every run in which no event is refused, and
no `Disconnected` is claimed with drops unreported while no connection is open, a `MessagesDropped`
comes after an `Authenticated` and before the first `Disconnected` behind that. -/
theorem reports_windowed {sh : Shared} {run : QueueRun}
    (reached : (queueRuns sh).ReachableUnder
      (fun run label _ => label.Proper ∧ label.Settled run) run)
    (nothing : run.tally.refusedEvents = []) :
    run.popped ++ run.client.stream.items = run.stream ∧
      Throughout (fun earlier item => item.isDropReport = true → reportWindow.Inside earlier)
        run.stream := by
  have base (first : QueueRun) (starts : (queueRuns sh).start first) :
      first.tally.refusedEvents = [] → first.Reporting := by
    cases starts
    exact fun _ => ⟨.nil, fun opened => by cases opened⟩
  have keeps (before : QueueRun) (label : QueueStep) (after : QueueRun)
      (reporting : before.tally.refusedEvents = [] → before.Reporting)
      (stepped : (queueRuns sh).step before label = some after)
      (allows : label.Proper ∧ label.Settled before) :
      after.tally.refusedEvents = [] → after.Reporting :=
    QueueRun.Reporting.step allows.1 allows.2 reporting stepped
  have books := (QueueRun.reachable_accounted reached.reachable).items
  exact ⟨books.trans (List.append_nil _), (reached.invariant base keeps nothing).1⟩

theorem reports_windowed_oneDrop : ∃ run,
    (queueRuns oneMessageStream).runUnder (fun run label => label.Proper ∧ label.Settled run) {}
        oneDrop = some run ∧
      (run.stream.filter isDropReport).length = 1 ∧
      Throughout (fun earlier item => item.isDropReport = true → reportWindow.Inside earlier)
        run.stream := by
  have runs : ∃ run,
      (queueRuns oneMessageStream).runUnder (fun run label => label.Proper ∧ label.Settled run) {}
        oneDrop = some run ∧ run.tally.refusedEvents = [] ∧
      (run.stream.filter isDropReport).length = 1 :=
    ⟨_, rfl, rfl, rfl⟩
  obtain ⟨run, ran, nothing, count⟩ := runs
  have reached := reachableUnder_of_run oneDrop (.start rfl) ran
  exact ⟨run, ran, count, (reports_windowed reached nothing).2⟩

/-- A caller's login is rejected, the second frame it read does not fit, and the caller closes the
client. -/
def rejectedLogin : List QueueStep :=
  [.call (.setState .connecting), .call (.emit .connecting), .call (.emit .connected),
    .call (.setState .authenticating), .call .startConnection, .call (.setState .disconnected),
    .call (.unauthenticated "rejected" .null [{ event := "data" }, { event := "error" }]),
    .call (.clientClosed 0 1000 "bye")]

/-- **A rejected login's drops are reported at the close.** No connection was open, and the close
reports them before its `Disconnected`. -/
theorem rejectedLogin_reportsOutside : ¬ ∀ run,
    (queueRuns oneMessageStream).ReachableUnder (fun _ label _ => label.Proper) run →
      run.tally.refusedEvents = [] →
      Throughout (fun earlier item => item.isDropReport = true → reportWindow.Inside earlier)
        run.stream := by
  intro always
  have runs : ∃ run earlier later,
      (queueRuns oneMessageStream).runUnder (fun _ label => label.Proper) {} rejectedLogin = some run ∧
      run.tally.refusedEvents = [] ∧
      run.stream = earlier ++ .event (.messagesDropped 1 1) :: later ∧
      reportWindow.isOpen earlier = false :=
    ⟨_, [.event .connecting, .event .connected, .event (.unauthenticated "rejected" .null ""),
      .message { event := "data" }], _, rfl, rfl, rfl, rfl⟩
  obtain ⟨run, earlier, later, ran, nothing, stream, shut⟩ := runs
  have reached := reachableUnder_of_run rejectedLogin (.start rfl) ran
  have within := always run reached nothing earlier _ later stream rfl
  rw [Window.inside_iff, shut] at within
  cases within

end FugleMarketdata
