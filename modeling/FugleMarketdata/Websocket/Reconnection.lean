/-
**The reconnect policy.** `core/src/websocket/reconnection.rs`, `core/src/jitter.rs` and
`will_reconnect_after` of `connection_event.rs`.

`ReconnectionManager` decides whether a lost connection is retried (`shouldReconnect`), hands out
the wait before each attempt (`nextDelay`) and counts the attempts. The counter is a `u32` that
stops at its largest value.
-/

import Mathlib.Algebra.Ring.Nat
import FugleMarketdata.Websocket.Event

namespace FugleMarketdata

/-- `u32::MAX`. -/
def U32_MAX : Nat := 2 ^ 32 - 1

/-- `u64::MAX`. -/
def U64_MAX : Nat := 2 ^ 64 - 1

/-- `Duration::MAX`, in nanoseconds. -/
def DURATION_MAX : Nat := U64_MAX * 1000000000 + 999999999

/-- `error` code of rejected credentials. -/
def AUTH_REJECTED_CODE : Int := 1000

/-- Upper bound (exclusive) of the jitter taken off a wait, in millionths of the base. -/
def JITTER_PPM_CEILING : Nat := 500000

/-- `jitter::jitter` for a hash of the clock: a number of nanoseconds below `ceiling`. -/
def jitter (hash ceiling : Nat) : Nat :=
  let nanosCeil := min ceiling U64_MAX
  if nanosCeil = 0 then 0 else hash % nanosCeil

/-- Reconnection configuration; `maxAttempts = 0` means unlimited. -/
structure ReconnectionConfig where
  enabled : Bool
  maxAttempts : Nat
  initialDelay : Nat
  maxDelay : Nat
  maxAttempts_le : maxAttempts ≤ U32_MAX

/-- `ReconnectionConfig::default`: unlimited attempts, a second apart at first and a minute at most. -/
def ReconnectionConfig.default : ReconnectionConfig where
  enabled := true
  maxAttempts := 0
  initialDelay := 1000000000
  maxDelay := 60000000000
  maxAttempts_le := Nat.zero_le _

/-- The attempts of the current run, and its jitter. -/
structure ReconnectionManager where
  config : ReconnectionConfig
  currentAttempt : Nat := 0
  jitterPpm : Nat := 0

namespace ReconnectionManager

/-- A manager with no attempt made. -/
def new (config : ReconnectionConfig) : ReconnectionManager := { config }

/-- Whether to reconnect after a connection that ended with `closeCode` and delivered
`lastErrorCode` last: not reconnecting is the enumerated case. -/
def shouldReconnect (mgr : ReconnectionManager) (closeCode : Option Nat)
    (lastErrorCode : Option Int) : Bool :=
  if !mgr.config.enabled then false
  else if closeCode = some 1000 then false
  else if lastErrorCode = some AUTH_REJECTED_CODE then false
  else true

/-- Backoff before jitter for `attempt`, counted from one. -/
def baseDelay (mgr : ReconnectionManager) (attempt : Nat) : Nat :=
  let exponent := min (attempt - 1) 10
  min (min (mgr.config.initialDelay * 2 ^ exponent) DURATION_MAX) mgr.config.maxDelay

/-- The wait before the next attempt, which is counted; none once the attempts are used up. `hash`
is the hash a first attempt draws the run's jitter from. -/
def nextDelay (mgr : ReconnectionManager) (hash : Nat) : Option Nat × ReconnectionManager :=
  if mgr.config.maxAttempts ≠ 0 ∧ mgr.config.maxAttempts ≤ mgr.currentAttempt then (none, mgr)
  else
    let jitterPpm := if mgr.currentAttempt = 0 then jitter hash JITTER_PPM_CEILING else mgr.jitterPpm
    let attempt := min (mgr.currentAttempt + 1) U32_MAX
    let base := mgr.baseDelay attempt
    let cut := min (base * jitterPpm / 1000000) U64_MAX
    (some (base - cut), { mgr with currentAttempt := attempt, jitterPpm })

/-- Forget the attempts made; the next run draws a new jitter. -/
def reset (mgr : ReconnectionManager) : ReconnectionManager := { mgr with currentAttempt := 0 }

@[simp] theorem reset_config (mgr : ReconnectionManager) : mgr.reset.config = mgr.config := rfl

@[simp] theorem reset_currentAttempt (mgr : ReconnectionManager) : mgr.reset.currentAttempt = 0 := rfl

@[simp] theorem nextDelay_config (mgr : ReconnectionManager) (hash : Nat) :
    (mgr.nextDelay hash).2.config = mgr.config := by
  unfold nextDelay
  split <;> rfl

/-- **No wait is handed out exactly when a limit is set and used up**, and then nothing changes. -/
theorem nextDelay_none {mgr : ReconnectionManager} {hash : Nat} (ended : (mgr.nextDelay hash).1 = none) :
    mgr.config.maxAttempts ≠ 0 ∧ mgr.config.maxAttempts ≤ mgr.currentAttempt ∧
      (mgr.nextDelay hash).2 = mgr := by
  unfold nextDelay at ended ⊢
  split at ended
  · rename_i used
    rw [if_pos used]
    exact ⟨used.1, used.2, rfl⟩
  · cases ended

/-- A wait handed out counts one attempt, up to `u32::MAX`, and stays within the limit. -/
theorem nextDelay_some {mgr : ReconnectionManager} {hash delay : Nat}
    (given : (mgr.nextDelay hash).1 = some delay) :
    (mgr.config.maxAttempts ≠ 0 → mgr.currentAttempt < mgr.config.maxAttempts) ∧
      (mgr.nextDelay hash).2.currentAttempt = min (mgr.currentAttempt + 1) U32_MAX := by
  unfold nextDelay at given ⊢
  split at given
  · cases given
  · rename_i free
    rw [if_neg free]
    exact ⟨fun limited => Nat.lt_of_not_le fun reached => free ⟨limited, reached⟩, rfl⟩

end ReconnectionManager

/-- The `will_reconnect` a `Disconnected` should carry: never for the caller's own close or after
shutdown was requested, otherwise what the policy says. -/
def willReconnectAfter (mgr : ReconnectionManager) (intent : DisconnectIntent)
    (close : ConnectionClose) (shutdownRequested : Bool) : Bool :=
  if intent = .client ∨ shutdownRequested = true then false
  else mgr.shouldReconnect close.code close.lastErrorCode

end FugleMarketdata
