/-
**The hand-off to the iterators.** `py/src/handoff.rs`, the waits of `py/src/iterator.rs` and the stream
reader of `py/src/websocket.rs`.

One thread reads the client's stream and queues the messages no callback takes; any number of iterators
take them, blocking or on an event loop. Each critical section is one step, and so is each thing done
between two of them.

* `Handoff` — what the functions of the queue do under its lock;
* `Pusher`, `Reader` — the thread that fills the queue, and a call that takes from it;
* `handoffRuns` — the thread and any number of calls, in every order.

A wake-up that leaves `readable` is a mark of its holder, `woken`.
-/

import FugleMarketdata.Lib.Monitor
import FugleMarketdata.Lib.StepMachine
import FugleMarketdata.Websocket.Event

namespace FugleMarketdata

open StepMachines StepMachine

/-! ### The queue -/

/-- What the lock guards. -/
structure Handoff where
  items : List WebSocketMessage := []
  closed : Bool := false

namespace Handoff

/-- What `push` finds: room, or a queue that is full. -/
inductive Pushed where
  | queued (queue : Handoff)
  | waits
  | discarded

/-- `None` is unbounded. -/
def isFull (capacity : Option Nat) (queue : Handoff) : Bool :=
  capacity.any fun capacity => decide (queue.items.length ≥ capacity)

/-- One look of `push`: once `stop` is set a message that would wait is discarded. -/
def push (capacity : Option Nat) (message : WebSocketMessage) (stop : Bool) (queue : Handoff) : Pushed :=
  if queue.isFull capacity then
    if stop || queue.closed then .discarded else .waits
  else .queued { queue with items := queue.items ++ [message] }

def close (queue : Handoff) : Handoff := { queue with closed := true }

/-- The next message, without the notification of `writable`. -/
def take (queue : Handoff) : Option (WebSocketMessage × Handoff) :=
  match queue.items with
  | [] => none
  | message :: rest => some (message, { queue with items := rest })

/-- One look of `wait_readable`, whose time may have expired; `none` waits on. -/
def waitReadable (expired : Bool) (queue : Handoff) : Option (Except Unit Bool) :=
  if !queue.items.isEmpty then some (.ok true)
  else if queue.closed then some (.error ())
  else if expired then some (.ok false)
  else none

def isFinished (queue : Handoff) : Bool := queue.closed && queue.items.isEmpty

/-- One look of `receive`, whose deadline may have passed; `none` waits on. -/
def receive (expired : Bool) (queue : Handoff) :
    Option (Except Unit (Option (WebSocketMessage × Handoff))) :=
  match queue.take with
  | some taken => some (.ok (some taken))
  | none =>
    if queue.closed then some (.error ())
    else if expired then some (.ok none)
    else none

end Handoff

/-! ### The stream reader -/

/-- Where the stream reader is, and the message it has in hand. -/
inductive Pusher where
  | idle
  | pushing (message : WebSocketMessage)
  | waiting (message : WebSocketMessage)
  | notifying
  | closing
  | closed

namespace Pusher

/-- `writable.notify_one()`, or the end of the wait. -/
def wake : Pusher → Pusher
  | waiting message => pushing message
  | pusher => pusher

def inHand : Pusher → List WebSocketMessage
  | pushing message => [message]
  | waiting message => [message]
  | _ => []

/-- The wake-up a push has yet to give. -/
def credit : Pusher → Nat
  | notifying => 1
  | _ => 0

def isClosing : Pusher → Bool
  | closing => true
  | _ => false

/-- The queue has been closed. -/
def hasClosed : Pusher → Bool
  | closing => true
  | closed => true
  | _ => false

end Pusher

/-- What became of a message of the stream: given to the callbacks that wanted it, queued, or discarded
by a `push` that would have waited. -/
inductive Fate where
  | callbacks (raw dict : Bool)
  | queued
  | discarded
  deriving DecidableEq, Repr

/-- Messages are delivered between an `Authenticated` and the next rejection or disconnect. -/
def authenticatedAfter (event : ConnectionEvent) (authenticated : Bool) : Bool :=
  match event with
  | .authenticated _ _ => true
  | .unauthenticated _ _ _ => false
  | .disconnected _ _ _ _ => false
  | _ => authenticated

/-! ### The calls that take -/

/-- How often a wait asks whether its event loop is closed. -/
def LOOP_CHECK_EVERY : Nat := 10

/-- One delivery of `__anext__` in so many goes through the event loop. -/
def YIELD_EVERY : Nat := 32

/-- Which call of an iterator it is; `__anext__` is one of an iterator, on an event loop. -/
inductive ReadCall where
  | tryRecv
  | next
  | recvTimeout
  | anext (iterator loop : Nat)
  deriving DecidableEq, Repr

def ReadCall.isAnext : ReadCall → Bool
  | anext _ _ => true
  | _ => false

/-- What the call came to. For `__anext__` this is the awaitable. -/
inductive ReadOutcome where
  | pending
  | message (message : WebSocketMessage)
  | nothing
  | ended
  | raised
  | cancelled

namespace ReadOutcome

def isPending : ReadOutcome → Bool
  | pending => true
  | _ => false

def message? : ReadOutcome → Option WebSocketMessage
  | message found => some found
  | _ => none

end ReadOutcome

/-- Where a call is. `receiving`, `probing`, `waiting`, `passing` and `finishing` are about to take the
lock; `attaching` and `handing` are the two questions before `Deliver` is scheduled. -/
inductive ReadAt where
  | receiving (woken : Bool)
  | receiveParked
  | signals
  | probing (woken : Bool)
  | probeParked
  | checking
  | waiting (woken : Bool)
  | waitParked
  | idleCheck
  | attaching (woken : Bool)
  | handing (woken : Bool)
  | passing (woken : Bool)
  | notifying
  | scheduled (woken : Bool)
  | finishing
  | over
  deriving DecidableEq, Repr

namespace ReadAt

def isParked : ReadAt → Bool
  | receiveParked | probeParked | waitParked => true
  | _ => false

/-- Off the condition variable, with a wake-up or without. -/
def unpark (woken : Bool) : ReadAt → ReadAt
  | receiveParked => receiving woken
  | probeParked => probing woken
  | waitParked => waiting woken
  | pc => pc

/-- The wake-up a call holds. -/
def credit : ReadAt → Nat
  | receiving woken | probing woken | waiting woken | attaching woken | handing woken
  | passing woken | scheduled woken => woken.toNat
  | notifying => 1
  | _ => 0

/-- Within the call itself, or in `Deliver` past its first question: nothing can cancel the awaitable
meanwhile. -/
def isCalling : ReadAt → Bool
  | receiving _ | receiveParked | signals | probing _ | probeParked | finishing => true
  | _ => false

/-- A place of `__anext__`, its waiting thread or its `Deliver`. -/
def isAsync : ReadAt → Bool
  | receiving _ | receiveParked | signals | .over => false
  | _ => true

end ReadAt

/-- A call: its place, what it came to, and for `__anext__` the flag its done callback sets and the
idle wake-ups of its wait. -/
structure Reader where
  call : ReadCall
  pc : ReadAt
  outcome : ReadOutcome := .pending
  done : Bool := false
  idle : Nat := 0

namespace Reader

def isParked (reader : Reader) : Bool := reader.pc.isParked

def credit (reader : Reader) : Nat := reader.pc.credit

/-- `Deliver` is scheduled on this event loop. -/
def onLoop (loop : Nat) (reader : Reader) : Bool :=
  match reader.call, reader.pc with
  | .anext _ own, .scheduled _ => own == loop
  | _, _ => false

/-- A loop that closes drops what is scheduled on it. -/
def dropDelivery (loop : Nat) (reader : Reader) : Reader :=
  if reader.onLoop loop then { reader with pc := .over } else reader

end Reader

/-! ### The system -/

/-- How a wait of `receive` that found nothing goes on. -/
inductive AfterSignals where
  | again
  | interrupted
  | timedOut
  deriving DecidableEq, Repr

/-- One step of a party. -/
inductive HandoffLabel where
  | item (item : StreamItem) (wantsRaw wantsDict : Bool)
  | push
  | pushWake
  | pushNotify (target : Option Nat)
  | streamEnds
  | closeNotify
  | stop
  | call (call : ReadCall)
  | look (reader : Nat) (expired : Bool)
  | unpark (reader : Nat)
  | notify (reader : Nat) (target : Option Nat)
  | afterSignals (reader : Nat) (choice : AfterSignals)
  | thread (reader : Nat)
  | deliver (reader : Nat)
  | cancel (reader : Nat)
  | markDone (reader : Nat)
  | closeLoop (loop : Nat)
  | finalize

/-- The queue with its parties. `seen`, `delivered`, `takers` and `lost` are records no code reads: the
items of the stream so far, what became of its messages, who took which message, and the wake-ups that
went with deliveries dropped by a closing loop. -/
structure HandoffRun where
  queue : Handoff := {}
  pusher : Pusher := .idle
  stop : Bool := false
  authenticated : Bool := false
  readers : List Reader := []
  streaks : Nat → Nat := fun _ => 0
  loopClosed : Nat → Bool := fun _ => false
  finalizing : Bool := false
  seen : List StreamItem := []
  delivered : List (WebSocketMessage × Fate) := []
  takers : List (Nat × WebSocketMessage) := []
  lost : Nat := 0

namespace HandoffRun

/-- A call is at another place. -/
def put (run : HandoffRun) (position : Nat) (reader : Reader) : HandoffRun :=
  { run with readers := run.readers.set position reader }

/-- A call begins. -/
def join (run : HandoffRun) (reader : Reader) : HandoffRun :=
  { run with readers := run.readers ++ [reader] }

def setStreak (run : HandoffRun) (iterator streak : Nat) : HandoffRun :=
  { run with streaks := Function.update run.streaks iterator streak }

/-- A call takes a message: `take`, whose notification of `writable` reaches the stream reader, and the
call is over. -/
def took (run : HandoffRun) (position : Nat) (reader : Reader) (message : WebSocketMessage)
    (queue : Handoff) : HandoffRun :=
  { run with
    queue
    pusher := run.pusher.wake
    readers := run.readers.set position { reader with pc := .over, outcome := .message message }
    takers := run.takers ++ [(position, message)] }

/-- `readable.notify_one()`: one parked call is taken off the condition variable, if there is one. -/
def notifyOne (run : HandoffRun) (target : Option Nat) : Option HandoffRun :=
  match target with
  | some position =>
    match run.readers[position]? with
    | some reader =>
      if reader.isParked then some (run.put position { reader with pc := reader.pc.unpark true })
      else none
    | none => none
  | none => if run.readers.any Reader.isParked then none else some run

/-- `readable.notify_all()`. -/
def notifyAll (run : HandoffRun) : HandoffRun :=
  { run with readers := run.readers.map fun reader => { reader with pc := reader.pc.unpark true } }

/-- The stream reader forwards an item. Which callbacks are registered is looked up for each message. -/
def itemStep (run : HandoffRun) (item : StreamItem) (wantsRaw wantsDict : Bool) : Option HandoffRun :=
  match run.pusher, item with
  | .idle, .event event =>
    some { run with
      authenticated := authenticatedAfter event run.authenticated
      seen := run.seen ++ [item] }
  | .idle, .message message =>
    if !run.authenticated then some { run with seen := run.seen ++ [item] }
    else if !wantsRaw && !wantsDict then
      some { run with pusher := .pushing message, seen := run.seen ++ [item] }
    else
      some { run with
        delivered := run.delivered ++ [(message, .callbacks wantsRaw wantsDict)]
        seen := run.seen ++ [item] }
  | _, _ => none

variable (capacity : Option Nat)

/-- One look of `push`. -/
def pushStep (run : HandoffRun) : Option HandoffRun :=
  match run.pusher with
  | .pushing message =>
    match run.queue.push capacity message run.stop with
    | .queued queue =>
      some { run with
        queue
        pusher := .notifying
        delivered := run.delivered ++ [(message, .queued)] }
    | .waits => some { run with pusher := .waiting message }
    | .discarded =>
      some { run with pusher := .idle, delivered := run.delivered ++ [(message, .discarded)] }
  | _ => none

/-- A call begins. `try_recv` and a direct delivery of `__anext__` look once and are over. -/
def callStep (run : HandoffRun) (call : ReadCall) : Option HandoffRun :=
  match call with
  | .tryRecv =>
    let run' := run.join { call, pc := .over, outcome := .nothing }
    match run.queue.take with
    | some (message, queue) =>
      some (run'.took run.readers.length { call, pc := .over, outcome := .nothing } message queue)
    | none => some run'
  | .next | .recvTimeout => some (run.join { call, pc := .receiving false })
  | .anext iterator loop =>
    let streak := run.streaks iterator
    if run.loopClosed loop then none
    else if streak + 1 < YIELD_EVERY then
      match run.queue.take with
      | some (message, queue) =>
        some (((run.join { call, pc := .checking }).took run.readers.length { call, pc := .checking }
          message queue).setStreak iterator (streak + 1))
      | none => some ((run.join { call, pc := .checking }).setStreak iterator 0)
    else some ((run.join { call, pc := .probing false }).setStreak iterator 0)

/-- A call takes the lock and looks. -/
def lookStep (run : HandoffRun) (position : Nat) (reader : Reader) (expired : Bool) :
    Option HandoffRun :=
  match reader.pc with
  | .receiving _ =>
    match run.queue.receive expired with
    | some (.ok (some (message, queue))) => some (run.took position reader message queue)
    | some (.ok none) => some (run.put position { reader with pc := .signals })
    | some (.error ()) => some (run.put position { reader with pc := .over, outcome := .ended })
    | none => some (run.put position { reader with pc := .receiveParked })
  | .probing woken =>
    match reader.call, run.queue.waitReadable expired with
    | .anext _ loop, some answer =>
      match answer with
      | .ok false => some (run.put position { reader with pc := .checking, idle := 0 })
      | _ =>
        -- `call_soon` refuses on a loop that is closed, and the call raises.
        if run.loopClosed loop then
          some { run.put position { reader with pc := .over, outcome := .raised } with
            lost := run.lost + woken.toNat }
        else some (run.put position { reader with pc := .scheduled woken })
    | .anext _ _, none => some (run.put position { reader with pc := .probeParked })
    | _, _ => none
  | .waiting woken =>
    match run.queue.waitReadable expired with
    | some (.ok false) => some (run.put position { reader with pc := .idleCheck })
    | some _ => some (run.put position { reader with pc := .attaching woken })
    | none => some (run.put position { reader with pc := .waitParked })
  | .passing _ =>
    if run.queue.items.isEmpty then some (run.put position { reader with pc := .over })
    else some (run.put position { reader with pc := .notifying })
  | .finishing =>
    if run.queue.isFinished then
      some (run.put position { reader with pc := .over, outcome := .ended })
    else some (run.put position { reader with pc := .checking, idle := 0 })
  | _ => none

/-- A wait of `receive` that found nothing: signals are checked, and only `recv_timeout` gives up. -/
def signalsStep (run : HandoffRun) (position : Nat) (reader : Reader) (choice : AfterSignals) :
    Option HandoffRun :=
  if reader.pc = .signals then
    match choice with
    | .again => some (run.put position { reader with pc := .receiving false })
    | .interrupted => some (run.put position { reader with pc := .over, outcome := .raised })
    | .timedOut =>
      if reader.call = .recvTimeout then
        some (run.put position { reader with pc := .over, outcome := .nothing })
      else none
  else none

/-- What the waiting thread of `__anext__` does off the lock. -/
def threadStep (run : HandoffRun) (position : Nat) (reader : Reader) : Option HandoffRun :=
  match reader.call, reader.pc with
  | .anext _ _, .checking =>
    if reader.done then some (run.put position { reader with pc := .over })
    else some (run.put position { reader with pc := .waiting false })
  | .anext _ loop, .idleCheck =>
    let idle := reader.idle + 1
    if idle % LOOP_CHECK_EVERY = 0 && !reader.done && (run.loopClosed loop || run.finalizing) then
      some (run.put position { reader with pc := .over, idle })
    else some (run.put position { reader with pc := .checking, idle })
  | .anext _ _, .attaching woken =>
    if run.finalizing || !reader.outcome.isPending then
      some (run.put position { reader with pc := .passing woken })
    else some (run.put position { reader with pc := .handing woken })
  | .anext _ loop, .handing woken =>
    if run.loopClosed loop then some (run.put position { reader with pc := .passing woken })
    else some (run.put position { reader with pc := .scheduled woken })
  | _, _ => none

/-- `Deliver` on the event loop. A wait that finds nothing is spawned again, unless the queue is
finished. -/
def deliverStep (run : HandoffRun) (position : Nat) (reader : Reader) : Option HandoffRun :=
  match reader.call, reader.pc with
  | .anext _ loop, .scheduled woken =>
    if run.loopClosed loop then none
    else if !reader.outcome.isPending then
      some (run.put position { reader with pc := .passing woken })
    else
      match run.queue.take with
      | some (message, queue) => some (run.took position reader message queue)
      | none => some (run.put position { reader with pc := .finishing })
  | _, _ => none

/-- The awaitable is cancelled, on its event loop: not while `__anext__` or `Deliver` runs there. -/
def cancelStep (run : HandoffRun) (position : Nat) (reader : Reader) : Option HandoffRun :=
  if reader.outcome.isPending && !reader.pc.isCalling then
    some (run.put position { reader with outcome := .cancelled })
  else none

/-- A step of a call that is under way. -/
def onReader (run : HandoffRun) (position : Nat)
    (act : HandoffRun → Nat → Reader → Option HandoffRun) : Option HandoffRun :=
  match run.readers[position]? with
  | some reader => act run position reader
  | none => none

def step (run : HandoffRun) : HandoffLabel → Option HandoffRun
  | .item item wantsRaw wantsDict => run.itemStep item wantsRaw wantsDict
  | .push => run.pushStep capacity
  | .pushWake => some { run with pusher := run.pusher.wake }
  | .pushNotify target =>
    match run.pusher with
    | .notifying => ({ run with pusher := .idle } : HandoffRun).notifyOne target
    | _ => none
  | .streamEnds =>
    match run.pusher with
    | .idle => some { run with queue := run.queue.close, pusher := .closing }
    | _ => none
  | .closeNotify =>
    match run.pusher with
    | .closing => some ({ run with pusher := .closed } : HandoffRun).notifyAll
    | _ => none
  | .stop => some { run with stop := true }
  | .call call => run.callStep call
  | .look position expired =>
    run.onReader position fun run position reader => run.lookStep position reader expired
  | .unpark position =>
    run.onReader position fun run position reader =>
      some (run.put position { reader with pc := reader.pc.unpark false })
  | .notify position target =>
    run.onReader position fun run position reader =>
      if reader.pc = .notifying then (run.put position { reader with pc := .over }).notifyOne target
      else none
  | .afterSignals position choice =>
    run.onReader position fun run position reader => run.signalsStep position reader choice
  | .thread position => run.onReader position threadStep
  | .deliver position => run.onReader position deliverStep
  | .cancel position => run.onReader position cancelStep
  | .markDone position =>
    run.onReader position fun run position reader =>
      if reader.outcome.isPending then none else some (run.put position { reader with done := true })
  | .closeLoop loop =>
    some { run with
      loopClosed := Function.update run.loopClosed loop true
      readers := run.readers.map (Reader.dropDelivery loop)
      lost := run.lost + Monitors.wakeups
        (fun reader => reader.credit - (reader.dropDelivery loop).credit) run.readers }
  | .finalize => some { run with finalizing := true }

end HandoffRun

/-- The queue of a connection, from its construction. -/
def handoffRuns (capacity : Option Nat) : StepMachine HandoffRun HandoffLabel where
  start := fun run => run = {}
  step := HandoffRun.step capacity

end FugleMarketdata
