/-
**Gates.** A flag that parties take with a compare-and-swap and clear when they are done.

* `Gated` — the flag is set exactly while some party holds it, and no two parties do;
* `Gated.claim`, `Gated.release`, `Gated.congr` — a party takes the free gate, gives it back, or does
  something else.
-/

import Mathlib.Logic.Function.Basic

namespace Gates

variable {ι : Type}

/-- One party at most holds the gate, and the flag says whether one does. -/
structure Gated (busy : Bool) (holds : ι → Bool) : Prop where
  unique : ∀ i j, holds i = true → holds j = true → i = j
  busy_iff : busy = true ↔ ∃ i, holds i = true

namespace Gated

variable {busy : Bool} {holds after : ι → Bool}

theorem free : Gated false (fun _ : ι => false) where
  unique := fun _ _ held => absurd held Bool.false_ne_true
  busy_iff := ⟨fun busy => absurd busy Bool.false_ne_true,
    fun ⟨_, held⟩ => absurd held Bool.false_ne_true⟩

theorem congr (gated : Gated busy holds) (same : ∀ i, after i = holds i) : Gated busy after := by
  obtain rfl : after = holds := funext same
  exact gated

/-- No party holds a gate that is free. -/
theorem not_held (gated : Gated false holds) (i : ι) : holds i = false := by
  by_contra held
  have busy := gated.busy_iff.mpr ⟨i, Bool.of_not_eq_false held⟩
  exact Bool.false_ne_true busy

/-- A party takes the free gate. -/
theorem claim (gated : Gated false holds) (i : ι) (taken : after i = true)
    (others : ∀ j, j ≠ i → after j = holds j) : Gated true after where
  unique := by
    have only (j : ι) (held : after j = true) : j = i := by
      by_contra other
      rw [others j other, gated.not_held j] at held
      exact Bool.false_ne_true held
    exact fun j k first second => (only j first).trans (only k second).symm
  busy_iff := ⟨fun _ => ⟨i, taken⟩, fun _ => rfl⟩

/-- The party that holds the gate gives it back. -/
theorem release (gated : Gated busy holds) {i : ι} (held : holds i = true) (given : after i = false)
    (others : ∀ j, j ≠ i → after j = holds j) : Gated false after := by
  have none (j : ι) : after j = false := by
    by_cases same : j = i
    · rw [same]
      exact given
    · rw [others j same]
      by_contra still
      exact same (gated.unique j i (Bool.of_not_eq_false still) held)
  exact free.congr none

/-- Where the gate is taken and this party does not hold it, another does. -/
theorem other (gated : Gated true holds) {i : ι} (free : holds i = false) :
    ∃ j, j ≠ i ∧ holds j = true := by
  obtain ⟨j, held⟩ := gated.busy_iff.mp rfl
  refine ⟨j, fun same => ?_, held⟩
  rw [same, free] at held
  exact Bool.false_ne_true held

end Gated

end Gates
