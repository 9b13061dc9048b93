/-
**Waits between attempts.** A wait that starts at some length, doubles after each attempt and stops at a
cap, and a share of it taken off so that those who wait do not come back together.

* `wait` — the wait before a step: `wait_mono`, `wait_le`, and `wait_succ_eq_iff` — when one more doubling
  changes nothing;
* `spread` — a wait with a share taken off: `spread_mono`, `spread_le`, and `lt_two_mul_spread` — at least
  half of it is left.
-/

import Mathlib.Algebra.Order.Ring.Nat

namespace Backoff

variable {initial cap num den limit : ℕ}

/-! ### Doubling -/

/-- The wait after so many doublings. -/
def wait (initial cap doublings : ℕ) : ℕ := min (initial * 2 ^ doublings) cap

theorem wait_le (initial cap doublings : ℕ) : wait initial cap doublings ≤ cap := Nat.min_le_right _ _

theorem wait_mono (initial cap : ℕ) {few many : ℕ} (fewer : few ≤ many) :
    wait initial cap few ≤ wait initial cap many := by
  have powers : 2 ^ few ≤ 2 ^ many := Nat.pow_le_pow_right (by omega) fewer
  exact min_le_min_right cap (Nat.mul_le_mul_left initial powers)

/-- A wait that nothing is left to double, or that has reached the cap, stays. -/
theorem wait_of_stopped (stopped : initial = 0 ∨ cap ≤ initial) (doublings : ℕ) :
    wait initial cap doublings = min initial cap := by
  rcases stopped with rfl | reached
  · simp [wait]
  · have more : initial ≤ initial * 2 ^ doublings := Nat.le_mul_of_pos_right _ (Nat.two_pow_pos _)
    rw [wait, min_eq_right reached, min_eq_right (reached.trans more)]

/-- The first doubling changes nothing exactly when nothing is there to double or the cap is reached. -/
theorem wait_one_eq_iff : wait initial cap 1 = wait initial cap 0 ↔ initial = 0 ∨ cap ≤ initial := by
  constructor
  · intro same
    by_contra going
    simp only [wait, pow_one, pow_zero, mul_one] at same
    omega
  · intro stopped
    rw [wait_of_stopped stopped, wait_of_stopped stopped]

/-! ### Spreading -/

/-- A wait with the share `num / den` of it taken off, rounded down and at most `limit`. -/
def spread (num den limit base : ℕ) : ℕ := base - min (base * num / den) limit

theorem spread_le (base : ℕ) : spread num den limit base ≤ base := Nat.sub_le _ _

/-- What is taken off a longer wait is more by no more than the wait is. -/
theorem spread_mono (part : num ≤ den) {short long : ℕ} (longer : short ≤ long) :
    spread num den limit short ≤ spread num den limit long := by
  obtain ⟨extra, rfl⟩ := Nat.exists_eq_add_of_le longer
  have taken : (short + extra) * num / den ≤ short * num / den + extra := by
    rcases Nat.eq_zero_or_pos den with rfl | positive
    · simp
    · calc (short + extra) * num / den ≤ (short * num + den * extra) / den := by
            refine Nat.div_le_div_right ?_
            rw [Nat.add_mul, Nat.mul_comm extra]
            exact Nat.add_le_add_left (Nat.mul_le_mul_right extra part) _
        _ = short * num / den + extra := Nat.add_mul_div_left _ _ positive
  unfold spread
  omega

/-- With less than half of it taken off, more than half of a wait is left. -/
theorem lt_two_mul_spread (half : 2 * num < den) {base : ℕ} (positive : 0 < base) :
    base < 2 * spread num den limit base := by
  have taken : 2 * (base * num / den) < base := by
    have below : base * num / den * den ≤ base * num := Nat.div_mul_le_self _ _
    have less : base * (2 * num) < base * den := Nat.mul_lt_mul_of_pos_left half positive
    by_contra more
    have least : base * den ≤ 2 * (base * num / den) * den := Nat.mul_le_mul_right den (Nat.not_lt.mp more)
    have same : 2 * (base * num / den) * den = 2 * (base * num / den * den) := Nat.mul_assoc _ _ _
    have twice : base * (2 * num) = 2 * (base * num) := by rw [Nat.mul_left_comm]
    omega
  unfold spread
  omega

end Backoff
