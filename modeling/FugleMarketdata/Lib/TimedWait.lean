/-
**Waits on timed input.** Items that arrive one after the other, each some time after the one before,
and a wait for the first that decides.

* `first` — the first deciding item: when the item before it arrived, and how long after that it comes;
* `perRead` — a wait whose deadline is checked between reads that each take up to the whole limit;
* `whole` — a wait under one limit;
* `perRead_eq`, `whole_eq` — what each ends in, and `Agreed` — the inputs on which both do the same.
-/

import Mathlib.Data.Nat.Basic

namespace TimedWaits

variable {σ ι ω : Type} (onItem : σ → ι → σ × Option ω)

/-- The deciding item of an input: the time before the last item ahead of it, its own delay, and what it
decides. -/
def first : σ → List (ℕ × ι) → Option (ℕ × ℕ × ω)
  | _, [] => none
  | state, (delay, item) :: rest =>
    match onItem state item with
    | (_, some outcome) => some (0, delay, outcome)
    | (next, none) =>
      (first next rest).map fun (lead, last, outcome) => (delay + lead, last, outcome)

/-- Waits that go on alike and decide the same, as far as `project` tells, find the same item first. -/
theorem first_project {γ υ : Type} {other : σ → ι → σ × Option υ} (project : ω → γ)
    (projectOther : υ → γ) (next : ∀ state item, (onItem state item).1 = (other state item).1)
    (same : ∀ state item, (onItem state item).2.map project = (other state item).2.map projectOther)
    (state : σ) (input : List (ℕ × ι)) :
    (first onItem state input).map (fun (lead, delay, outcome) => (lead, delay, project outcome)) =
      (first other state input).map fun (lead, delay, outcome) =>
        (lead, delay, projectOther outcome) := by
  induction input generalizing state with
  | nil => rfl
  | cons entry rest ih =>
    obtain ⟨delay, item⟩ := entry
    have goesOn := next state item
    have decides := same state item
    unfold first
    rcases here : onItem state item with ⟨after, _ | outcome⟩ <;>
      rcases there : other state item with ⟨afterOther, _ | outcomeOther⟩ <;>
      rw [here, there] at goesOn decides
    · simp only at goesOn
      subst goesOn
      have later := congrArg (Option.map fun (lead, last, decided) => (delay + lead, last, decided))
        (ih after)
      simpa only [Option.map_map, Function.comp_def] using later
    · cases decides
    · cases decides
    · simpa using decides

variable (limit : ℕ)

/-- Reads of up to `limit` each, until `limit` has passed when a read would start. -/
def perRead : ℕ → σ → List (ℕ × ι) → Option (ω × ℕ)
  | _, _, [] => none
  | elapsed, state, (delay, item) :: rest =>
    if limit ≤ elapsed then none
    else if limit < delay then none
    else match onItem state item with
      | (_, some outcome) => some (outcome, elapsed + delay)
      | (next, none) => perRead (elapsed + delay) next rest

/-- Whatever arrives within `limit`. -/
def whole : ℕ → σ → List (ℕ × ι) → Option (ω × ℕ)
  | _, _, [] => none
  | elapsed, state, (delay, item) :: rest =>
    if limit < elapsed + delay then none
    else match onItem state item with
      | (_, some outcome) => some (outcome, elapsed + delay)
      | (next, none) => whole (elapsed + delay) next rest

/-- The deciding item counts if the one before it came before the limit, and it within the limit of
that. -/
theorem perRead_eq (elapsed : ℕ) (state : σ) (input : List (ℕ × ι)) :
    perRead onItem limit elapsed state input =
      (first onItem state input).bind fun (lead, delay, outcome) =>
        if elapsed + lead < limit ∧ delay ≤ limit then some (outcome, elapsed + lead + delay)
        else none := by
  induction input generalizing elapsed state with
  | nil => rfl
  | cons entry rest ih =>
    obtain ⟨delay, item⟩ := entry
    unfold perRead first
    rcases decided : onItem state item with ⟨next, _ | outcome⟩
    · simp only [ih, Option.bind_map, Function.comp_def]
      cases first onItem next rest with
      | none => simp
      | some found =>
        obtain ⟨lead, last, outcome⟩ := found
        simp only [Option.bind_some]
        rw [← Nat.add_assoc]
        by_cases late : limit ≤ elapsed
        · rw [if_pos late, if_neg (by omega)]
        by_cases slow : limit < delay
        · rw [if_neg late, if_pos slow, if_neg (by omega)]
        · rw [if_neg late, if_neg slow]
    · simp only [Option.bind_some, Nat.add_zero]
      by_cases late : limit ≤ elapsed
      · rw [if_pos late, if_neg (by omega)]
      by_cases slow : limit < delay
      · rw [if_neg late, if_pos slow, if_neg (by omega)]
      · rw [if_neg late, if_neg slow, if_pos (by omega)]

/-- The deciding item counts if it comes within the limit. -/
theorem whole_eq (elapsed : ℕ) (state : σ) (input : List (ℕ × ι)) :
    whole onItem limit elapsed state input =
      (first onItem state input).bind fun (lead, delay, outcome) =>
        if elapsed + lead + delay ≤ limit then some (outcome, elapsed + lead + delay)
        else none := by
  induction input generalizing elapsed state with
  | nil => rfl
  | cons entry rest ih =>
    obtain ⟨delay, item⟩ := entry
    unfold whole first
    rcases decided : onItem state item with ⟨next, _ | outcome⟩
    · simp only [ih, Option.bind_map, Function.comp_def]
      cases first onItem next rest with
      | none => simp
      | some found =>
        obtain ⟨lead, last, outcome⟩ := found
        simp only [Option.bind_some]
        rw [← Nat.add_assoc]
        by_cases late : limit < elapsed + delay
        · rw [if_pos late, if_neg (by omega)]
        · rw [if_neg late]
    · simp only [Option.bind_some, Nat.add_zero]
      by_cases late : limit < elapsed + delay
      · rw [if_pos late, if_neg (by omega)]
      · rw [if_neg late, if_pos (by omega)]

/-- An input on which both waits do the same: its deciding item, if it has one, comes in time for both
or for neither. -/
def Agreed (state : σ) (input : List (ℕ × ι)) : Prop :=
  ∀ lead delay outcome, first onItem state input = some (lead, delay, outcome) →
    ¬ (lead < limit ∧ limit < lead + delay ∧ delay ≤ limit) ∧ ¬ (lead = limit ∧ delay = 0)

end TimedWaits
