/-
**Silence tracking.** `HealthCheckConfig` of `core/src/websocket/health_check.rs` and `Liveness` of
`core/src/websocket/liveness.rs`. Instants and durations are in nanoseconds.

* `Liveness.poll` — what the read site does next;
* `Liveness.deadline` — until when a poll waits, with what each poll and each frame do to it;
* `HealthCheckConfig.window` — no wait lasts longer than the detection window.
-/

import Mathlib.Tactic.Common

namespace FugleMarketdata

def milliseconds (count : Nat) : Nat := count * 1000000

/-- Default silence before a passive client declares the connection dead. -/
def DEFAULT_HEARTBEAT_TIMEOUT_MS : Nat := 35000

/-- Default silence before a probe is sent. -/
def DEFAULT_IDLE_PROBE_AFTER_MS : Nat := 30000

/-- Default wait for any inbound frame after a probe is sent. -/
def DEFAULT_PROBE_TIMEOUT_MS : Nat := 5000

/-- Configuration of the liveness detection. -/
structure HealthCheckConfig where
  enabled : Bool := true
  heartbeatTimeout : Nat := milliseconds DEFAULT_HEARTBEAT_TIMEOUT_MS
  probeEnabled : Bool := false
  idleProbeAfter : Option Nat := none
  probeTimeout : Option Nat := none
  deriving DecidableEq, Repr

namespace HealthCheckConfig

def idleProbeAfterOrDefault (config : HealthCheckConfig) : Nat :=
  config.idleProbeAfter.getD (milliseconds DEFAULT_IDLE_PROBE_AFTER_MS)

def probeTimeoutOrDefault (config : HealthCheckConfig) : Nat :=
  config.probeTimeout.getD (milliseconds DEFAULT_PROBE_TIMEOUT_MS)

end HealthCheckConfig

/-- What the read site does next: read until an instant, send a probe, or declare the connection dead
after a detection window. -/
inductive LivenessAction where
  | wait (deadline : Nat)
  | sendProbe
  | dead (elapsed : Nat)
  deriving DecidableEq, Repr

/-- How a connection is found dead. -/
inductive Plan where
  | passive (timeout : Nat)
  | probe (idle timeout : Nat)
  deriving DecidableEq, Repr

/-- The plan of a configuration. -/
def HealthCheckConfig.plan (config : HealthCheckConfig) : Plan :=
  if config.probeEnabled then
    .probe config.idleProbeAfterOrDefault config.probeTimeoutOrDefault
  else .passive config.heartbeatTimeout

/-- The detection window: how much silence declares the connection dead. -/
def Plan.window : Plan → Nat
  | passive timeout => timeout
  | probe idle timeout => idle + timeout

/-- Silence tracking for one connection. -/
structure Liveness where
  plan : Plan
  lastInbound : Nat
  probeSentAt : Option Nat := none
  deriving DecidableEq, Repr

namespace Liveness

/-- `none` when liveness detection is disabled. -/
def new (config : HealthCheckConfig) (now : Nat) : Option Liveness :=
  if config.enabled then some { plan := config.plan, lastInbound := now } else none

/-- Any inbound frame proves the connection alive. -/
def onInbound (liveness : Liveness) (now : Nat) : Liveness :=
  { liveness with lastInbound := now, probeSentAt := none }

/-- Until `deadline`, or dead from there on. -/
def verdict (liveness : Liveness) (now deadline : Nat) : LivenessAction :=
  if now < deadline then .wait deadline else .dead liveness.plan.window

def poll (liveness : Liveness) (now : Nat) : LivenessAction × Liveness :=
  match liveness.plan with
  | .passive timeout => (liveness.verdict now (liveness.lastInbound + timeout), liveness)
  | .probe idle timeout =>
    match liveness.probeSentAt with
    | some sent => (liveness.verdict now (sent + timeout), liveness)
    | none =>
      let probeAt := liveness.lastInbound + idle
      if now < probeAt then (.wait probeAt, liveness)
      else (.sendProbe, { liveness with probeSentAt := some now })

/-- The instant a poll waits for. -/
def deadline (liveness : Liveness) : Nat :=
  match liveness.plan, liveness.probeSentAt with
  | .passive timeout, _ => liveness.lastInbound + timeout
  | .probe idle _, none => liveness.lastInbound + idle
  | .probe _ timeout, some sent => sent + timeout

/-- Whether a probe may still be sent in the present silence. -/
def mayProbe (liveness : Liveness) : Bool :=
  match liveness.plan, liveness.probeSentAt with
  | .probe _ _, none => true
  | _, _ => false

/-- Nothing recorded is still to come. -/
structure Past (liveness : Liveness) (now : Nat) : Prop where
  inbound : liveness.lastInbound ≤ now
  probe : ∀ sent, liveness.probeSentAt = some sent → sent ≤ now

theorem Past.mono {liveness : Liveness} {now later : Nat} (past : liveness.Past now)
    (passed : now ≤ later) : liveness.Past later :=
  ⟨Nat.le_trans past.inbound passed, fun sent at_ => Nat.le_trans (past.probe sent at_) passed⟩

variable {liveness : Liveness} {now : Nat}

/-- **A poll.** Ahead of the deadline it waits for it; past it a probe is sent, once in a silence, or the
connection is dead. -/
theorem poll_cases (liveness : Liveness) (now : Nat) :
    liveness.poll now = (.wait liveness.deadline, liveness) ∧ now < liveness.deadline ∨
      liveness.poll now = (.sendProbe, { liveness with probeSentAt := some now }) ∧
        liveness.deadline ≤ now ∧ liveness.mayProbe = true ∨
      liveness.poll now = (.dead liveness.plan.window, liveness) ∧ liveness.deadline ≤ now := by
  obtain ⟨plan, last, sent⟩ := liveness
  have judged (deadline : Nat) :
      (Liveness.verdict ⟨plan, last, sent⟩ now deadline = .wait deadline ∧ now < deadline) ∨
        Liveness.verdict ⟨plan, last, sent⟩ now deadline = .dead plan.window ∧ deadline ≤ now := by
    unfold verdict
    by_cases early : now < deadline
    · exact Or.inl ⟨if_pos early, early⟩
    · exact Or.inr ⟨if_neg early, Nat.le_of_not_lt early⟩
  rcases plan with timeout | ⟨idle, timeout⟩
  · rcases judged (last + timeout) with ⟨waits, early⟩ | ⟨dead, late⟩
    · exact Or.inl ⟨by simp only [poll, waits]; rfl, early⟩
    · exact Or.inr (Or.inr ⟨by simp only [poll, dead], late⟩)
  · cases sent with
    | some sent =>
      rcases judged (sent + timeout) with ⟨waits, early⟩ | ⟨dead, late⟩
      · exact Or.inl ⟨by simp only [poll, waits]; rfl, early⟩
      · exact Or.inr (Or.inr ⟨by simp only [poll, dead], late⟩)
    | none =>
      by_cases early : now < last + idle
      · exact Or.inl ⟨by simp only [poll, early, if_true]; rfl, early⟩
      · exact Or.inr (Or.inl ⟨by simp only [poll, early, if_false], Nat.le_of_not_lt early, rfl⟩)

/-- No wait lasts longer than the detection window. -/
theorem deadline_le (past : liveness.Past now) : liveness.deadline ≤ now + liveness.plan.window := by
  obtain ⟨plan, last, sent⟩ := liveness
  have inbound : last ≤ now := past.inbound
  rcases plan with timeout | ⟨idle, timeout⟩
  · exact Nat.add_le_add_right inbound timeout
  · cases sent with
    | none =>
      show last + idle ≤ now + (idle + timeout)
      omega
    | some sent =>
      have probe : sent ≤ now := past.probe sent rfl
      show sent + timeout ≤ now + (idle + timeout)
      omega

end Liveness

end FugleMarketdata
