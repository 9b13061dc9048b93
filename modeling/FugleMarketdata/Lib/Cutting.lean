/-
**Cutting lists.** Parts of a given size, and cuts at a separator.

* `chunks` — parts of `size` entries, the last as long as what is left;
* `splitOnce` — what stands before the first separator and behind it;
* `rfind` — where the last separator stands.
-/

import Mathlib.Data.List.Basic

namespace Cutting

variable {α : Type}

/-! ### Parts of a given size -/

/-- Parts of `size` entries each, in order; a size of zero counts as one. -/
def chunks (size : Nat) : List α → List (List α)
  | [] => []
  | first :: rest => (first :: rest.take (size - 1)) :: chunks size (rest.drop (size - 1))
termination_by entries => entries.length
decreasing_by
  simp only [List.length_drop, List.length_cons]
  omega

theorem chunks_nil (size : Nat) : chunks size ([] : List α) = [] := by rw [chunks]

theorem chunks_cons (size : Nat) (first : α) (rest : List α) : chunks size (first :: rest) =
    (first :: rest.take (size - 1)) :: chunks size (rest.drop (size - 1)) := by rw [chunks]

theorem chunks_eq_nil {size : Nat} {entries : List α} : chunks size entries = [] ↔ entries = [] := by
  cases entries with
  | nil => simp [chunks_nil]
  | cons first rest => simp [chunks_cons]

/-- Nothing is lost and nothing moves. -/
theorem flatten_chunks (size : Nat) (entries : List α) : (chunks size entries).flatten = entries := by
  fun_induction chunks size entries with
  | case1 => rfl
  | case2 first rest ih => rw [List.flatten_cons, ih, List.cons_append, List.take_append_drop]

/-- A part has an entry and at most `size` of them. -/
theorem length_of_mem_chunks {size : Nat} (positive : 0 < size) {entries part : List α}
    (member : part ∈ chunks size entries) : 0 < part.length ∧ part.length ≤ size := by
  fun_induction chunks size entries with
  | case1 => cases member
  | case2 first rest ih =>
    rcases List.mem_cons.mp member with rfl | later
    · simp only [List.length_cons, List.length_take]
      omega
    · exact ih later

/-- Every part but the last is full. -/
theorem length_of_mem_dropLast_chunks {size : Nat} (positive : 0 < size) {entries part : List α}
    (member : part ∈ (chunks size entries).dropLast) : part.length = size := by
  fun_induction chunks size entries with
  | case1 => cases member
  | case2 first rest ih =>
    by_cases last : chunks size (rest.drop (size - 1)) = []
    · rw [last] at member
      cases member
    · rw [List.dropLast_cons_of_ne_nil last] at member
      rcases List.mem_cons.mp member with rfl | later
      · -- another part follows, so the rest was longer than what this one took
        have more : size - 1 < rest.length := by
          rw [chunks_eq_nil, List.drop_eq_nil_iff] at last
          exact Nat.lt_of_not_le last
        simp only [List.length_cons, List.length_take]
        omega
      · exact ih later

/-! ### Cuts at a separator -/

/-- Joining is putting the separator before each part but the first. -/
theorem intercalate_cons (separator first : List α) (parts : List (List α)) :
    separator.intercalate (first :: parts) = first ++ parts.flatMap (separator ++ ·) := by
  induction parts generalizing first with
  | nil => rw [List.intercalate_singleton, List.flatMap_nil, List.append_nil]
  | cons second rest ih =>
    rw [List.intercalate_cons_cons, ih, List.flatMap_cons, List.append_assoc, List.append_assoc]

variable [DecidableEq α]

/-- What stands before the first separator, and what behind it. -/
def splitOnce (separator : α) : List α → Option (List α × List α)
  | [] => none
  | first :: rest =>
    if first = separator then some ([], rest)
    else (splitOnce separator rest).map fun cut => (first :: cut.1, cut.2)

theorem splitOnce_append {separator : α} {before : List α} (clean : separator ∉ before)
    (behind : List α) : splitOnce separator (before ++ separator :: behind) = some (before, behind) := by
  induction before with
  | nil => exact if_pos rfl
  | cons first rest ih =>
    have other : first ≠ separator := fun same => clean (same ▸ List.mem_cons_self)
    rw [List.cons_append, splitOnce, if_neg other, ih fun member => clean (List.mem_cons_of_mem _ member)]
    rfl

theorem splitOnce_eq_none {separator : α} {entries : List α} :
    splitOnce separator entries = none ↔ separator ∉ entries := by
  induction entries with
  | nil => simp [splitOnce]
  | cons first rest ih =>
    rw [splitOnce]
    by_cases same : first = separator
    · simp [same]
    · simp [same, Ne.symm same, ih]

theorem splitOnce_eq_some {separator : α} {entries before behind : List α} :
    splitOnce separator entries = some (before, behind) ↔
      entries = before ++ separator :: behind ∧ separator ∉ before := by
  refine ⟨fun cut => ?_, fun ⟨whole, clean⟩ => whole ▸ splitOnce_append clean behind⟩
  induction entries generalizing before with
  | nil => cases cut
  | cons first rest ih =>
    rw [splitOnce] at cut
    split at cut
    · rename_i same
      cases cut
      exact ⟨by rw [same, List.nil_append], List.not_mem_nil⟩
    · rename_i other
      obtain ⟨⟨start, stop⟩, found, same⟩ := Option.map_eq_some_iff.mp cut
      cases same
      obtain ⟨whole, clean⟩ := ih found
      refine ⟨by rw [whole, List.cons_append], fun member => ?_⟩
      rcases List.mem_cons.mp member with same | later
      · exact other same.symm
      · exact clean later

/-- Where the last separator stands. -/
def rfind (separator : α) : List α → Option Nat
  | [] => none
  | first :: rest =>
    match rfind separator rest with
    | some position => some (position + 1)
    | none => if first = separator then some 0 else none

theorem rfind_eq_none {separator : α} {entries : List α} :
    rfind separator entries = none ↔ separator ∉ entries := by
  induction entries with
  | nil => simp [rfind]
  | cons first rest ih =>
    rw [rfind]
    cases later : rfind separator rest with
    | some position =>
      have member : separator ∈ rest := by
        by_contra absent
        rw [ih.mpr absent] at later
        cases later
      simp [member]
    | none => simp [ih.mp later, eq_comm]

theorem rfind_append {separator : α} (before : List α) {behind : List α} (clean : separator ∉ behind) :
    rfind separator (before ++ separator :: behind) = some before.length := by
  induction before with
  | nil =>
    rw [List.nil_append, rfind, rfind_eq_none.mpr clean]
    exact if_pos rfl
  | cons first rest ih =>
    rw [List.cons_append, rfind, ih]
    rfl

end Cutting
