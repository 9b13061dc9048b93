/-
**The waits of a reconnect.** `ReconnectionConfig::new` and what a run of `next_delay` hands out, from a
new or reset manager until the next reset.

* `ReconnectionConfig.new` — the configurations that are accepted;
* `ReconnectionManager.delayAt` — what the calls of a run return;
* `nextDelay_bounded` — as many waits as configured, each between half the backoff and the backoff, none
  shorter than the one before, and no number on the way out of its type.
-/

import FugleMarketdata.Errors
import FugleMarketdata.Lib.Backoff
import FugleMarketdata.Websocket.Reconnection

namespace FugleMarketdata

/-- Minimum allowed initial delay, in milliseconds. -/
def MIN_INITIAL_DELAY_MS : Nat := 100

/-- `as_millis` of a duration in nanoseconds. -/
def asMillis (duration : Nat) : Nat := duration / 1000000

/-- `ReconnectionConfig::new`: a configuration, with validation. -/
def ReconnectionConfig.new (maxAttempts initialDelay maxDelay : Nat)
    (maxAttempts_le : maxAttempts ≤ U32_MAX) : Except Errors.MarketDataError ReconnectionConfig :=
  if initialDelay < MIN_INITIAL_DELAY_MS * 1000000 then
    .error (.configError
      s!"initial_delay must be >= {MIN_INITIAL_DELAY_MS}ms (got {asMillis initialDelay}ms)")
  else if maxDelay < initialDelay then
    .error (.configError
      s!"max_delay ({asMillis maxDelay}ms) must be >= initial_delay ({asMillis initialDelay}ms)")
  else .ok { enabled := true, maxAttempts, initialDelay, maxDelay, maxAttempts_le }

/-- What an accepted configuration has. -/
theorem ReconnectionConfig.new_ok {maxAttempts initialDelay maxDelay : Nat}
    {maxAttempts_le : maxAttempts ≤ U32_MAX} {config : ReconnectionConfig}
    (accepted : ReconnectionConfig.new maxAttempts initialDelay maxDelay maxAttempts_le = .ok config) :
    (config.maxAttempts = maxAttempts ∧ config.initialDelay = initialDelay ∧
      config.maxDelay = maxDelay) ∧ 0 < initialDelay ∧ initialDelay ≤ maxDelay := by
  simp only [ReconnectionConfig.new] at accepted
  split at accepted
  · cases accepted
  · rename_i long
    split at accepted
    · cases accepted
    · rename_i ordered
      cases accepted
      have shortest : 0 < MIN_INITIAL_DELAY_MS * 1000000 := by decide
      exact ⟨⟨rfl, rfl, rfl⟩, by omega, by omega⟩

namespace ReconnectionManager

/-- The manager after so many calls of `next_delay`; `hash` gives what the clock hashes to at each. -/
def afterCalls (mgr : ReconnectionManager) (hash : Nat → Nat) : Nat → ReconnectionManager
  | 0 => mgr
  | calls + 1 => ((mgr.afterCalls hash calls).nextDelay (hash calls)).2

/-- What a call of `next_delay` returns, the calls counted from zero. -/
def delayAt (mgr : ReconnectionManager) (hash : Nat → Nat) (call : Nat) : Option Nat :=
  ((mgr.afterCalls hash call).nextDelay (hash call)).1

/-- The backoff before the jitter, as documented: the initial delay doubled before each further attempt,
ten times at most, and at most the longest delay. -/
def documentedBase (mgr : ReconnectionManager) (call : Nat) : Nat :=
  min (min (mgr.config.initialDelay * 2 ^ min call 10) DURATION_MAX) mgr.config.maxDelay

/-- The run's jitter. -/
def runJitter (hash : Nat → Nat) : Nat := jitter (hash 0) JITTER_PPM_CEILING

theorem runJitter_lt (hash : Nat → Nat) : runJitter hash < JITTER_PPM_CEILING := by
  have small : min JITTER_PPM_CEILING U64_MAX = JITTER_PPM_CEILING := by decide
  have positive : 0 < JITTER_PPM_CEILING := by decide
  simp only [runJitter, jitter, small, if_neg (Nat.ne_of_gt positive)]
  exact Nat.mod_lt _ positive

/-- The attempts counted after so many calls. -/
def attemptsAfter (mgr : ReconnectionManager) (calls : Nat) : Nat :=
  if mgr.config.maxAttempts = 0 then min calls U32_MAX else min calls mgr.config.maxAttempts

variable {mgr : ReconnectionManager} (hash : Nat → Nat)

/-- A call hands out no wait once the attempts are used up, and otherwise the wait of its attempt. -/
theorem nextDelay_of_run {manager : ReconnectionManager} {calls : Nat}
    (config : manager.config = mgr.config)
    (counted : manager.currentAttempt = mgr.attemptsAfter calls)
    (drawn : 0 < calls → manager.jitterPpm = runJitter hash) :
    manager.nextDelay (hash calls) =
      if mgr.config.maxAttempts ≠ 0 ∧ mgr.config.maxAttempts ≤ calls then (none, manager)
      else (some (Backoff.spread (runJitter hash) 1000000 U64_MAX (mgr.documentedBase calls)),
        { manager with
          currentAttempt := mgr.attemptsAfter (calls + 1), jitterPpm := runJitter hash }) := by
  have most := mgr.config.maxAttempts_le
  have used : (mgr.config.maxAttempts ≠ 0 ∧ mgr.config.maxAttempts ≤ mgr.attemptsAfter calls) ↔
      mgr.config.maxAttempts ≠ 0 ∧ mgr.config.maxAttempts ≤ calls := by
    unfold attemptsAfter
    refine and_congr_right fun limited => ?_
    rw [if_neg limited]
    omega
  simp only [nextDelay, config, counted, used]
  by_cases spent : mgr.config.maxAttempts ≠ 0 ∧ mgr.config.maxAttempts ≤ calls
  · rw [if_pos spent, if_pos spent]
  · rw [if_neg spent, if_neg spent]
    have next : min (mgr.attemptsAfter calls + 1) U32_MAX = mgr.attemptsAfter (calls + 1) := by
      unfold attemptsAfter
      split <;> omega
    have doublings : min (mgr.attemptsAfter (calls + 1) - 1) 10 = min calls 10 := by
      have large : 11 ≤ U32_MAX := by decide
      unfold attemptsAfter
      generalize U32_MAX = top at large most
      split <;> omega
    have same : (if mgr.attemptsAfter calls = 0 then jitter (hash calls) JITTER_PPM_CEILING
        else manager.jitterPpm) = runJitter hash := by
      cases calls with
      | zero => simp [attemptsAfter, runJitter]
      | succ calls =>
        have counts : mgr.attemptsAfter (calls + 1) ≠ 0 := by
          have large : 1 ≤ U32_MAX := by decide
          unfold attemptsAfter
          generalize U32_MAX = top at large
          split <;> omega
        rw [if_neg counts]
        exact drawn (Nat.succ_pos calls)
    rw [next, same]
    simp only [baseDelay, config, doublings, Backoff.spread, documentedBase]

/-- The manager after so many calls of a run. -/
theorem afterCalls_spec (fresh : mgr.currentAttempt = 0) (calls : Nat) :
    (mgr.afterCalls hash calls).config = mgr.config ∧
      (mgr.afterCalls hash calls).currentAttempt = mgr.attemptsAfter calls ∧
      (0 < calls → (mgr.afterCalls hash calls).jitterPpm = runJitter hash) := by
  induction calls with
  | zero => exact ⟨rfl, by simp [afterCalls, attemptsAfter, fresh], nofun⟩
  | succ calls ih =>
    obtain ⟨config, counted, drawn⟩ := ih
    unfold afterCalls
    rw [nextDelay_of_run hash config counted drawn]
    split
    · rename_i spent
      refine ⟨config, counted.trans ?_, fun _ => drawn (by omega)⟩
      unfold attemptsAfter
      rw [if_neg spent.1, if_neg spent.1]
      omega
    · exact ⟨config, rfl, fun _ => rfl⟩

theorem delayAt_eq (fresh : mgr.currentAttempt = 0) (call : Nat) :
    mgr.delayAt hash call =
      if mgr.config.maxAttempts ≠ 0 ∧ mgr.config.maxAttempts ≤ call then none
      else some (Backoff.spread (runJitter hash) 1000000 U64_MAX (mgr.documentedBase call)) := by
  obtain ⟨config, counted, drawn⟩ := afterCalls_spec hash fresh call
  rw [delayAt, nextDelay_of_run hash config counted drawn]
  split <;> rfl

theorem documentedBase_eq_wait (call : Nat) : mgr.documentedBase call =
    Backoff.wait mgr.config.initialDelay (min DURATION_MAX mgr.config.maxDelay) (min call 10) :=
  Nat.min_assoc _ _ _

theorem documentedBase_mono (call : Nat) : mgr.documentedBase call ≤ mgr.documentedBase (call + 1) := by
  rw [documentedBase_eq_wait, documentedBase_eq_wait]
  exact Backoff.wait_mono _ _ (by omega)

theorem attemptsAfter_le (calls : Nat) : mgr.attemptsAfter calls ≤ U32_MAX := by
  have most := mgr.config.maxAttempts_le
  unfold attemptsAfter
  split <;> omega

theorem documentedBase_pos (initial : 0 < mgr.config.initialDelay)
    (ordered : mgr.config.initialDelay ≤ mgr.config.maxDelay) (call : Nat) :
    0 < mgr.documentedBase call := by
  have product : 0 < mgr.config.initialDelay * 2 ^ min call 10 :=
    Nat.mul_pos initial (Nat.two_pow_pos _)
  have most : 0 < DURATION_MAX := by decide
  exact lt_min (lt_min product most) (initial.trans_le ordered)

/-- The numbers on the way to a wait, at the call of a run with so many calls before it: the power is a
`u32`, the backoff a duration, its product with the jitter a `u128`, the counter a `u32`, and what is
taken off the backoff is no more than the backoff. -/
def Fits (mgr : ReconnectionManager) (hash : Nat → Nat) (call : Nat) : Prop :=
  2 ^ min call 10 ≤ U32_MAX ∧ mgr.documentedBase call ≤ DURATION_MAX ∧
    mgr.documentedBase call * runJitter hash < 2 ^ 128 ∧
    (mgr.afterCalls hash call).currentAttempt ≤ U32_MAX ∧
    min (mgr.documentedBase call * runJitter hash / 1000000) U64_MAX ≤ mgr.documentedBase call

theorem fits_of_run (fresh : mgr.currentAttempt = 0) (call : Nat) : mgr.Fits hash call := by
  have base : mgr.documentedBase call ≤ DURATION_MAX :=
    (Nat.min_le_left _ _).trans (Nat.min_le_right _ _)
  have drawn := runJitter_lt hash
  have power : 2 ^ min call 10 ≤ 2 ^ 10 := Nat.pow_le_pow_right (by omega) (Nat.min_le_right _ _)
  refine ⟨power.trans (by decide), base, ?_, ?_, (Nat.min_le_left _ _).trans ?_⟩
  · calc mgr.documentedBase call * runJitter hash ≤ DURATION_MAX * JITTER_PPM_CEILING :=
          Nat.mul_le_mul base (Nat.le_of_lt drawn)
      _ < 2 ^ 128 := by decide
  · rw [(afterCalls_spec hash fresh call).2.1]
    exact attemptsAfter_le call
  · refine Nat.div_le_of_le_mul ?_
    rw [Nat.mul_comm]
    exact Nat.mul_le_mul_right _ ((Nat.le_of_lt drawn).trans (by decide))

end ReconnectionManager

open ReconnectionManager in
/-- **The waits of a reconnect.** Under a configuration that was accepted, a run of `next_delay` from a
new or reset manager hands out as many waits as configured and then none; each is more than half the
backoff, at most the backoff and at most the longest delay; none is shorter than the one before; and
every number on the way fits its type. -/
theorem nextDelay_bounded {maxAttempts initialDelay maxDelay : Nat}
    {maxAttempts_le : maxAttempts ≤ U32_MAX} {config : ReconnectionConfig}
    (accepted : ReconnectionConfig.new maxAttempts initialDelay maxDelay maxAttempts_le = .ok config)
    {mgr : ReconnectionManager} (configured : mgr.config = config) (fresh : mgr.currentAttempt = 0)
    (hash : Nat → Nat) :
    (∀ call, mgr.delayAt hash call = none ↔ maxAttempts ≠ 0 ∧ maxAttempts ≤ call) ∧
      (∀ call delay, mgr.delayAt hash call = some delay →
        mgr.documentedBase call < 2 * delay ∧ delay ≤ mgr.documentedBase call ∧ delay ≤ maxDelay) ∧
      (∀ call delay next, mgr.delayAt hash call = some delay →
        mgr.delayAt hash (call + 1) = some next → delay ≤ next) ∧
      ∀ call, mgr.Fits hash call := by
  obtain ⟨⟨attempts, initial, longest⟩, positive, ordered⟩ := ReconnectionConfig.new_ok accepted
  rw [← configured] at attempts initial longest
  have given {call delay : Nat} (some_ : mgr.delayAt hash call = some delay) :
      delay = Backoff.spread (runJitter hash) 1000000 U64_MAX (mgr.documentedBase call) := by
    rw [delayAt_eq hash fresh] at some_
    split at some_
    · cases some_
    · exact (Option.some.inj some_).symm
  have drawn := runJitter_lt hash
  have half : 2 * runJitter hash < 1000000 := by
    have ceiling : JITTER_PPM_CEILING = 500000 := rfl
    omega
  refine ⟨fun call => ?_, fun call delay some_ => ?_, fun call delay next some_ after => ?_,
    fits_of_run hash fresh⟩
  · rw [delayAt_eq hash fresh, attempts]
    split <;> simp_all
  · rw [given some_]
    have backoff := documentedBase_pos (initial.symm ▸ positive) (by omega) call
    have least : mgr.documentedBase call ≤ maxDelay := longest ▸ Nat.min_le_right _ _
    exact ⟨Backoff.lt_two_mul_spread half backoff, Backoff.spread_le _,
      (Backoff.spread_le _).trans least⟩
  · rw [given some_, given after]
    exact Backoff.spread_mono (by omega) (documentedBase_mono call)

theorem nextDelay_bounded_twoAttempts :
    ∃ config, ReconnectionConfig.new 2 1000000000 60000000000 (by decide) = .ok config ∧
      (ReconnectionManager.new config).delayAt (fun _ => 0) 1 = some 2000000000 ∧
      (ReconnectionManager.new config).delayAt (fun _ => 0) 2 = none := by
  obtain ⟨config, accepted⟩ : ∃ config,
      ReconnectionConfig.new 2 1000000000 60000000000 (by decide) = .ok config := ⟨_, rfl⟩
  have bounded := nextDelay_bounded accepted (show (ReconnectionManager.new config).config = config from rfl) rfl
    fun _ => 0
  refine ⟨config, accepted, ?_, (bounded.1 2).mpr ⟨by decide, by decide⟩⟩
  cases accepted
  rfl

end FugleMarketdata
