/-
**Retrying REST requests.** `RetryPolicy` and `run` of `core/src/rest/retry.rs`.

* `RetryPolicy.delayForAttempt` — the wait before an attempt;
* `run` — the attempts, each with the wait before it;
* `run_documented_iff` — `run` calls the operation as its doc has it exactly when the policy has an
  attempt to make;
* `keepsSchedule_iff` — the waits are the documented ones exactly when the backoff has nothing to double.
-/

import FugleMarketdata.Errors
import FugleMarketdata.Lib.Backoff
import FugleMarketdata.Websocket.Reconnection

namespace FugleMarketdata.Rest

/-- `u128::MAX`. -/
def U128_MAX : Nat := 2 ^ 128 - 1

/-- Configuration for transparent retry of REST requests; durations are nanoseconds. -/
structure RetryPolicy where
  maxAttempts : Nat
  initialBackoff : Nat
  maxBackoff : Nat
  maxAttempts_le : maxAttempts ≤ U32_MAX
  initialBackoff_le : initialBackoff ≤ DURATION_MAX
  maxBackoff_le : maxBackoff ≤ DURATION_MAX

namespace RetryPolicy

/-- Conservative preset: 3 attempts, 100 ms initial backoff, 2 s ceiling. -/
def conservative : RetryPolicy where
  maxAttempts := 3
  initialBackoff := 100000000
  maxBackoff := 2000000000
  maxAttempts_le := by decide
  initialBackoff_le := by decide
  maxBackoff_le := by decide

/-- Aggressive preset: 5 attempts, 250 ms initial backoff, 10 s ceiling. -/
def aggressive : RetryPolicy where
  maxAttempts := 5
  initialBackoff := 250000000
  maxBackoff := 10000000000
  maxAttempts_le := by decide
  initialBackoff_le := by decide
  maxBackoff_le := by decide

variable (policy : RetryPolicy)

/-- The exponent of the wait before an attempt. -/
def exponent (attempt : Nat) : Nat := min (attempt - 1) 31

/-- The wait before an attempt, without the jitter. -/
def base (attempt : Nat) : Nat :=
  let multiplier := 2 ^ exponent attempt
  let rawNanos := min (policy.initialBackoff * multiplier) U128_MAX
  let capped := min rawNanos policy.maxBackoff
  min capped U64_MAX

/-- `delay_for_attempt`: the wait before an attempt, counted from one, for a hash of the clock. -/
def delayForAttempt (attempt hash : Nat) : Nat :=
  if attempt ≤ 1 then 0 else policy.base attempt + jitter hash policy.initialBackoff

end RetryPolicy

/-! ### The attempts -/

/-- What `run` did: the wait before each call of the operation and what the call gave, and what was
returned. -/
structure Ran (T : Type) where
  calls : List (Nat × Except Errors.MarketDataError T)
  result : Except Errors.MarketDataError T

variable {T : Type} (policy : RetryPolicy) (hash : Nat → Nat) (op : Nat → Except Errors.MarketDataError T)

/-- The loop of `run` with so many attempts remaining. `hash` and `op` give what the clock and the
operation give at each attempt. -/
def runLoop : Nat → Option Errors.MarketDataError → Ran T
  | 0, lastErr =>
    { calls := []
      result := .error (lastErr.getD (.runtimeError "retry loop exited without error or success")) }
  | remaining + 1, _ =>
    let attempt := policy.maxAttempts - remaining
    let call := (policy.delayForAttempt attempt (hash attempt), op attempt)
    match op attempt with
    | .ok value => { calls := [call], result := .ok value }
    | .error err =>
      if !err.isRetryable || attempt = policy.maxAttempts then { calls := [call], result := .error err }
      else
        let rest := runLoop remaining (some err)
        { rest with calls := call :: rest.calls }

/-- `run`. -/
def run : Ran T := runLoop policy hash op policy.maxAttempts none

/-- The calls of some attempts in a row. -/
def callsFrom (first count : Nat) : List (Nat × Except Errors.MarketDataError T) :=
  (List.range' first count).map fun attempt =>
    (policy.delayForAttempt attempt (hash attempt), op attempt)

/-- What the loop does from an attempt on: it calls the operation up to some attempt, each one but the
last ending in a retryable error, and returns what the last gave. -/
theorem runLoop_spec {first remaining : Nat} (last : first + remaining = policy.maxAttempts)
    (lastErr : Option Errors.MarketDataError) :
    ∃ more ≤ remaining,
      (runLoop policy hash op (remaining + 1) lastErr).calls =
        callsFrom policy hash op first (more + 1) ∧
      (runLoop policy hash op (remaining + 1) lastErr).result = op (first + more) ∧
      (∀ attempt, first ≤ attempt → attempt < first + more →
        ∃ err, op attempt = .error err ∧ err.isRetryable = true) ∧
      (more < remaining → ∀ err, op (first + more) = .error err → err.isRetryable = false) := by
  have here : policy.maxAttempts - remaining = first := by omega
  have none_between (attempt : Nat) (since : first ≤ attempt) (below : attempt < first + 0) :
      ∃ err, op attempt = .error err ∧ err.isRetryable = true := by
    omega
  unfold runLoop
  simp only [here]
  cases outcome : op first with
  | ok value =>
    refine ⟨0, Nat.zero_le _, by simp [callsFrom, outcome], outcome.symm, none_between, ?_⟩
    intro _ err failed
    rw [Nat.add_zero, outcome] at failed
    cases failed
  | error err =>
    by_cases again : err.isRetryable = true
    · cases remaining with
      | zero =>
        have final : first = policy.maxAttempts := by omega
        simp only [final, decide_true, Bool.or_true, if_true]
        rw [← final]
        exact ⟨0, Nat.le_refl 0, by simp [callsFrom, outcome], outcome.symm, none_between,
          fun early => absurd early (Nat.lt_irrefl 0)⟩
      | succ remaining =>
        have early : decide (first = policy.maxAttempts) = false := decide_eq_false (by omega)
        simp only [again, early, Bool.not_true, Bool.or_false, Bool.false_eq_true, if_false]
        have next : first + 1 + remaining = policy.maxAttempts := by omega
        obtain ⟨more, bound, calls, result, retried, stops⟩ := runLoop_spec next (some err)
        have shift : first + 1 + more = first + (more + 1) := by omega
        refine ⟨more + 1, Nat.succ_le_succ bound, ?_, ?_, ?_, ?_⟩
        · rw [calls, callsFrom, callsFrom, List.range'_succ (n := more + 1), List.map_cons, outcome]
        · rw [result, shift]
        · intro attempt since below
          rcases Nat.eq_or_lt_of_le since with rfl | later
          · exact ⟨err, outcome, again⟩
          · exact retried attempt later (shift ▸ below)
        · intro left
          rw [← shift]
          exact stops (Nat.lt_of_succ_lt_succ left)
    · have stops : err.isRetryable = false := Bool.eq_false_iff.mpr again
      simp only [stops, Bool.not_false, Bool.true_or, if_true]
      refine ⟨0, Nat.zero_le _, by simp [callsFrom, outcome], outcome.symm, none_between, ?_⟩
      intro _ other failed
      rw [Nat.add_zero, outcome] at failed
      cases failed
      exact stops

theorem callsFrom_length (first count : Nat) :
    (callsFrom policy hash op first count).length = count := by
  simp [callsFrom]

/-- What `run` does under a policy that has an attempt to make. -/
theorem run_spec (attempts : 1 ≤ policy.maxAttempts) :
    ∃ count, 1 ≤ count ∧ count ≤ policy.maxAttempts ∧
      (run policy hash op).calls = callsFrom policy hash op 1 count ∧
      (run policy hash op).result = op count ∧
      (∀ attempt, 1 ≤ attempt → attempt < count →
        ∃ err, op attempt = .error err ∧ err.isRetryable = true) ∧
      (count < policy.maxAttempts → ∀ err, op count = .error err → err.isRetryable = false) := by
  obtain ⟨remaining, all⟩ : ∃ remaining, policy.maxAttempts = 1 + remaining :=
    Nat.exists_eq_add_of_le attempts
  obtain ⟨more, bound, calls, result, retried, stops⟩ :=
    runLoop_spec policy hash op all.symm none
  have same : run policy hash op = runLoop policy hash op (remaining + 1) none := by
    rw [run, all, Nat.add_comm]
  rw [same]
  rw [Nat.add_comm 1 more] at result retried stops
  refine ⟨more + 1, Nat.le_add_left 1 more, by omega, calls, result, retried, fun early => ?_⟩
  exact stops (by omega)

/-! ### The calls -/

/-- What the doc of `run` says: the operation is called once at least and as often as the policy has it
at most, each call gets what the operation gives next, there is another call only after a retryable error
and always after one while attempts are left, and what the last call gave is returned. -/
structure Documented (policy : RetryPolicy) (hash : Nat → Nat)
    (op : Nat → Except Errors.MarketDataError T) : Prop where
  called : 1 ≤ (run policy hash op).calls.length
  limited : (run policy hash op).calls.length ≤ max 1 policy.maxAttempts
  given : (run policy hash op).calls.map Prod.snd =
    (List.range' 1 (run policy hash op).calls.length).map op
  retried : ∀ attempt, 1 ≤ attempt → attempt < (run policy hash op).calls.length →
    ∃ err, op attempt = .error err ∧ err.isRetryable = true
  stopped : (run policy hash op).calls.length < max 1 policy.maxAttempts →
    ∀ err, op (run policy hash op).calls.length = .error err → err.isRetryable = false
  returned : (run policy hash op).result = op (run policy hash op).calls.length

/-- **`run` is as documented exactly when the policy has an attempt to make**, whatever the operation
gives. -/
theorem run_documented_iff : Documented policy hash op ↔ 1 ≤ policy.maxAttempts := by
  constructor
  · intro documented
    by_contra without
    have none_left : policy.maxAttempts = 0 := by omega
    have called := documented.called
    rw [run, none_left] at called
    exact absurd called (by simp [runLoop])
  · intro attempts
    obtain ⟨count, positive, bound, calls, result, retried, stops⟩ := run_spec policy hash op attempts
    have length : (run policy hash op).calls.length = count := by
      rw [calls, callsFrom_length]
    have most : max 1 policy.maxAttempts = policy.maxAttempts := max_eq_right attempts
    refine ⟨?_, ?_, ?_, ?_, ?_, ?_⟩ <;> rw [length]
    · exact positive
    · rw [most]
      exact bound
    · rw [calls, callsFrom, List.map_map]
      rfl
    · exact retried
    · rw [most]
      exact stops
    · exact result

/-- A policy with no attempts. -/
def noAttempts : RetryPolicy := { RetryPolicy.conservative with maxAttempts := 0, maxAttempts_le := by decide }

/-- Under a policy with no attempts an operation that would succeed is never called, and an error of
`run`'s own is returned. -/
theorem run_never_calls :
    (run noAttempts (fun _ => 0) fun _ => .ok ()).calls = [] ∧
      ¬ ∀ (policy : RetryPolicy) (hash : Nat → Nat) (op : Nat → Except Errors.MarketDataError Unit),
        Documented policy hash op := by
  refine ⟨rfl, fun always => ?_⟩
  exact absurd (always noAttempts (fun _ => 0) fun _ => .ok ()).called (by decide)

/-! ### The waits -/

namespace RetryPolicy

variable {policy : RetryPolicy}

/-- The documented wait before an attempt, without the jitter: `initial_backoff` before the second, then
twice that, and so on. -/
def documented (policy : RetryPolicy) (attempt : Nat) : Nat :=
  Backoff.wait policy.initialBackoff policy.maxBackoff (attempt - 2)

/-- The wait of the code, on durations below 2^64 nanoseconds: a doubling ahead of the documented one. -/
theorem base_eq_wait (initial : policy.initialBackoff < 2 ^ 64) (longest : policy.maxBackoff < 2 ^ 64)
    (attempt : Nat) :
    policy.base attempt = Backoff.wait policy.initialBackoff policy.maxBackoff (exponent attempt) := by
  have power : 2 ^ exponent attempt ≤ 2 ^ 31 := Nat.pow_le_pow_right (by omega) (Nat.min_le_right _ _)
  have product : policy.initialBackoff * 2 ^ exponent attempt ≤ 2 ^ 64 * 2 ^ 31 :=
    Nat.mul_le_mul (Nat.le_of_lt initial) power
  have fits : policy.initialBackoff * 2 ^ exponent attempt ≤ U128_MAX :=
    product.trans (by decide)
  have short : min (policy.initialBackoff * 2 ^ exponent attempt) policy.maxBackoff ≤ U64_MAX :=
    (Nat.min_le_right _ _).trans (Nat.le_pred_of_lt longest)
  simp only [base, Backoff.wait, min_eq_left fits, min_eq_left short]

theorem delay_zero_hash (policy : RetryPolicy) {attempt : Nat} (later : 2 ≤ attempt) :
    policy.delayForAttempt attempt 0 = policy.base attempt := by
  have notFirst : ¬ attempt ≤ 1 := by omega
  simp [delayForAttempt, if_neg notFirst, jitter]

end RetryPolicy

theorem jitter_le (hash ceiling : Nat) : jitter hash ceiling ≤ U64_MAX := by
  simp only [jitter]
  split
  · exact Nat.zero_le _
  · rename_i positive
    have below : hash % min ceiling U64_MAX < min ceiling U64_MAX :=
      Nat.mod_lt _ (Nat.pos_of_ne_zero positive)
    omega

/-- The call of an attempt has the wait before that attempt. -/
theorem call_of_run {position : Nat} {call : Nat × Except Errors.MarketDataError T}
    (called : (run policy hash op).calls[position]? = some call) :
    position < policy.maxAttempts ∧
      call = (policy.delayForAttempt (position + 1) (hash (position + 1)), op (position + 1)) := by
  by_cases attempts : 1 ≤ policy.maxAttempts
  · obtain ⟨count, -, bound, calls, -⟩ := run_spec policy hash op attempts
    rw [calls, callsFrom, List.getElem?_map] at called
    obtain ⟨attempt, there, rfl⟩ := Option.map_eq_some_iff.mp called
    obtain ⟨within, rfl⟩ := List.getElem?_eq_some_iff.mp there
    rw [List.length_range'] at within
    refine ⟨Nat.lt_of_lt_of_le within bound, ?_⟩
    simp [List.getElem_range', Nat.add_comm]
  · have without : policy.maxAttempts = 0 := by omega
    rw [run, without] at called
    simp [runLoop] at called

/-- The waits the docs promise: none before the first attempt, `initial_backoff` before the second and
twice the one before from then on, up to `max_backoff`, and the jitter on top; and nothing on the way
leaves its type. -/
structure KeepsSchedule (policy : RetryPolicy) : Prop where
  first : ∀ {T : Type} (hash : Nat → Nat) (op : Nat → Except Errors.MarketDataError T) call,
    (run policy hash op).calls[0]? = some call → call.1 = 0
  later : ∀ {T : Type} (hash : Nat → Nat) (op : Nat → Except Errors.MarketDataError T) attempt call,
    2 ≤ attempt → attempt ≤ 32 → (run policy hash op).calls[attempt - 1]? = some call →
      call.1 = policy.documented attempt + jitter (hash attempt) policy.initialBackoff
  rising : ∀ few many, few ≤ many → many ≤ U32_MAX →
    policy.delayForAttempt few 0 ≤ policy.delayForAttempt many 0
  capped : ∀ attempt ≤ U32_MAX, policy.delayForAttempt attempt 0 ≤ policy.maxBackoff
  fits : ∀ attempt hash, 2 ^ RetryPolicy.exponent attempt ≤ U64_MAX ∧
    policy.initialBackoff * 2 ^ RetryPolicy.exponent attempt ≤ U128_MAX ∧
    min (policy.initialBackoff * 2 ^ RetryPolicy.exponent attempt) policy.maxBackoff ≤ U64_MAX ∧
    policy.delayForAttempt attempt hash ≤ DURATION_MAX

namespace RetryPolicy

variable {policy : RetryPolicy} (initial : policy.initialBackoff < 2 ^ 64)
  (longest : policy.maxBackoff < 2 ^ 64)
include initial longest

theorem delay_mono {few many : Nat} (fewer : few ≤ many) :
    policy.delayForAttempt few 0 ≤ policy.delayForAttempt many 0 := by
  by_cases first : few ≤ 1
  · simp [delayForAttempt, first]
  · rw [delay_zero_hash policy (by omega), delay_zero_hash policy (by omega),
      base_eq_wait initial longest, base_eq_wait initial longest]
    refine Backoff.wait_mono _ _ ?_
    unfold exponent
    omega

theorem delay_le (attempt : Nat) : policy.delayForAttempt attempt 0 ≤ policy.maxBackoff := by
  by_cases first : attempt ≤ 1
  · simp [delayForAttempt, first]
  · rw [delay_zero_hash policy (by omega), base_eq_wait initial longest]
    exact Backoff.wait_le _ _ _

theorem delay_fits (attempt hash : Nat) : 2 ^ exponent attempt ≤ U64_MAX ∧
    policy.initialBackoff * 2 ^ exponent attempt ≤ U128_MAX ∧
    min (policy.initialBackoff * 2 ^ exponent attempt) policy.maxBackoff ≤ U64_MAX ∧
    policy.delayForAttempt attempt hash ≤ DURATION_MAX := by
  have power : 2 ^ exponent attempt ≤ 2 ^ 31 := Nat.pow_le_pow_right (by omega) (Nat.min_le_right _ _)
  have product : policy.initialBackoff * 2 ^ exponent attempt ≤ 2 ^ 64 * 2 ^ 31 :=
    Nat.mul_le_mul (Nat.le_of_lt initial) power
  refine ⟨power.trans (by decide), product.trans (by decide),
    (Nat.min_le_right _ _).trans (Nat.le_pred_of_lt longest), ?_⟩
  have base : policy.base attempt ≤ U64_MAX := Nat.min_le_right _ _
  have drawn := jitter_le hash policy.initialBackoff
  have twice : U64_MAX + U64_MAX ≤ DURATION_MAX := by decide
  unfold delayForAttempt
  split <;> omega

/-- Where nothing is left to double, the waits are the documented ones. -/
theorem delay_documented (stopped : policy.initialBackoff = 0 ∨ policy.maxBackoff ≤ policy.initialBackoff)
    {attempt : Nat} (later : 2 ≤ attempt) (hash : Nat) :
    policy.delayForAttempt attempt hash =
      policy.documented attempt + jitter hash policy.initialBackoff := by
  have notFirst : ¬ attempt ≤ 1 := by omega
  rw [delayForAttempt, if_neg notFirst, base_eq_wait initial longest, documented,
    Backoff.wait_of_stopped stopped, Backoff.wait_of_stopped stopped]

end RetryPolicy

/-- The wait before the second attempt, which a policy with two attempts makes when the operation keeps
failing. -/
theorem second_call (attempts : 2 ≤ policy.maxAttempts) :
    ∃ call, (run policy (fun _ => 0) fun _ => (.error (.timeoutError "") :
        Except Errors.MarketDataError Unit)).calls[1]? = some call ∧
      call.1 = policy.base 2 := by
  obtain ⟨count, positive, bound, calls, -, -, stops⟩ := run_spec policy (fun _ => 0)
    (fun _ => (.error (.timeoutError "") : Except Errors.MarketDataError Unit)) (by omega)
  have every : count = policy.maxAttempts := by
    by_contra fewer
    cases stops (by omega) _ rfl
  refine ⟨(policy.delayForAttempt 2 0, .error (.timeoutError "")), ?_,
    RetryPolicy.delay_zero_hash policy (Nat.le_refl 2)⟩
  rw [calls, callsFrom, List.getElem?_map, List.getElem?_range' (by omega)]
  rfl

/-- **The waits are the documented ones exactly when the backoff has nothing to double** or there is no
second attempt: `delay_for_attempt` doubles once more than documented. -/
theorem keepsSchedule_iff (initial : policy.initialBackoff < 2 ^ 64)
    (longest : policy.maxBackoff < 2 ^ 64) :
    KeepsSchedule policy ↔
      policy.maxAttempts ≤ 1 ∨ policy.initialBackoff = 0 ∨ policy.maxBackoff ≤ policy.initialBackoff := by
  constructor
  · intro keeps
    by_cases attempts : policy.maxAttempts ≤ 1
    · exact .inl attempts
    · right
      obtain ⟨call, called, wait⟩ := second_call policy (by omega)
      have promised := keeps.later _ _ 2 call (Nat.le_refl 2) (by omega) called
      rw [wait, RetryPolicy.base_eq_wait initial longest] at promised
      refine Backoff.wait_one_eq_iff.mp ?_
      simpa [RetryPolicy.exponent, RetryPolicy.documented, jitter] using promised
  · intro holds
    refine ⟨fun hash op call called => ?_, fun hash op attempt call later _ called => ?_,
      fun _ _ fewer _ => RetryPolicy.delay_mono initial longest fewer,
      fun attempt _ => RetryPolicy.delay_le initial longest attempt,
      RetryPolicy.delay_fits initial longest⟩
    · rw [(call_of_run policy hash op called).2]
      rfl
    · obtain ⟨within, rfl⟩ := call_of_run policy hash op called
      have stopped := holds.resolve_left (by omega)
      have same : attempt - 1 + 1 = attempt := by omega
      simp only [same]
      exact RetryPolicy.delay_documented initial longest stopped later _

theorem keepsSchedule_iff_conservative :
    ¬ KeepsSchedule .conservative ∧ RetryPolicy.conservative.initialBackoff < 2 ^ 64 := by
  have initial : RetryPolicy.conservative.initialBackoff < 2 ^ 64 := by decide
  refine ⟨fun keeps => ?_, initial⟩
  have stopped := (keepsSchedule_iff .conservative initial (by decide)).mp keeps
  exact absurd stopped (by decide)

/-- The conservative preset waits 200 ms before the second attempt, twice its `initial_backoff`. -/
theorem conservative_waits_twice :
    RetryPolicy.conservative.delayForAttempt 2 0 = 2 * RetryPolicy.conservative.initialBackoff ∧
      ¬ ∀ policy : RetryPolicy, policy.initialBackoff < 2 ^ 64 → policy.maxBackoff < 2 ^ 64 →
        KeepsSchedule policy := by
  refine ⟨by decide, fun always => ?_⟩
  have keeps := always .conservative (by decide) (by decide)
  obtain ⟨call, called, wait⟩ := second_call .conservative (by decide)
  have promised := keeps.later _ _ 2 call (Nat.le_refl 2) (by omega) called
  rw [wait] at promised
  exact absurd promised (by decide)

end FugleMarketdata.Rest
