/-
**Pending latency calls.** `LatencyWaiters` of `core/src/websocket/liveness.rs`.

A waiter is known by the `state` of its ping; that it was answered, and with which instant, is kept
beside the two lists (`answered`).
-/

import FugleMarketdata.Models.Message

namespace FugleMarketdata

def WebSocketMessage.isPong (msg : WebSocketMessage) : Bool := msg.event == "pong"

/-- `state` of the health check's probe. -/
def PROBE_STATE : String := "fugle-sdk:probe"

/-- Prefix of the `state` of each `measure_latency()` ping, followed by a per-client counter. -/
def LATENCY_STATE_PREFIX : String := "fugle-sdk:latency:"

/-- Most `measure_latency()` states remembered after their call gave up. -/
def EXPIRED_STATES_KEPT : Nat := 64

/-- The `state` of the ping of a `measure_latency()` call with its number. -/
def latencyState (id : Nat) : String := LATENCY_STATE_PREFIX ++ Nat.repr id

/-- `Vec::swap_remove`: the last element takes the place of the removed one. -/
def swapRemove {α : Type} (list : List α) (position : Nat) : List α :=
  match list.getLast? with
  | some last => (list.set position last).dropLast
  | none => []

/-- Pending `measure_latency()` calls, keyed by the `state` of their ping, and those that gave up, oldest
first. -/
structure LatencyWaiters where
  waiting : List String := []
  expired : List String := []
  answered : List (String × Nat) := []
  deriving DecidableEq, Repr

namespace LatencyWaiters

/-- The lock section of `register`: a waiter joins. -/
def push (waiters : LatencyWaiters) (state : String) : LatencyWaiters :=
  { waiters with waiting := waiters.waiting ++ [state] }

/-- Forget a waiter that gave up. Its state is remembered for a while, as its pong may still arrive. -/
def cancel (waiters : LatencyWaiters) (state : String) : LatencyWaiters :=
  let expired :=
    if waiters.expired.length = EXPIRED_STATES_KEPT then waiters.expired.tail else waiters.expired
  { waiters with waiting := waiters.waiting.filter (· ≠ state), expired := expired ++ [state] }

/-- Drop every waiter: the connection they were sent on is gone. -/
def failAll (waiters : LatencyWaiters) : LatencyWaiters := { waiters with waiting := [], expired := [] }

/-- Take `msg` if it is the pong of a ping the SDK sent, answering its waiter; `true` if it is. -/
def interceptPong (waiters : LatencyWaiters) (msg : WebSocketMessage) (arrived : Nat) :
    Bool × LatencyWaiters :=
  if !msg.isPong then (false, waiters)
  else
    match (msg.data.bind (·.get "state")).bind Value.asStr with
    | none => (false, waiters)
    | some state =>
      if state = PROBE_STATE then (true, waiters)
      else
        match waiters.waiting.findIdx? (· = state) with
        | some position =>
          (true, { waiters with
            waiting := swapRemove waiters.waiting position
            answered := waiters.answered ++ [(state, arrived)] })
        | none =>
          match waiters.expired.findIdx? (· = state) with
          | some position => (true, { waiters with expired := waiters.expired.eraseIdx position })
          | none => (false, waiters)

end LatencyWaiters

end FugleMarketdata
