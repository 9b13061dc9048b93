/-
**Shared registers.** Values that several holders share and any of them may replace, and the history of
the writes.

A register is known by a name; a history is the writes in order, each with the register it went to.

* `held` — what a register holds after a history;
* `held_eq_some` — that is the value of the last write to it;
* `heldAt` — what it held at some moment of a longer history, which no later write changes;
* `Agrees` — a list of cells that holds what the history says, kept by a new cell and by a write.
-/

import Mathlib.Data.List.Induction

namespace Registers

variable {ρ ν : Type} [DecidableEq ρ]

/-! ### Histories -/

/-- What a register holds after the writes of a history. -/
def held (writes : List (ρ × ν)) (register : ρ) : Option ν :=
  ((writes.filter fun write => write.1 = register).getLast?).map Prod.snd

@[simp] theorem held_nil (register : ρ) : held ([] : List (ρ × ν)) register = none := rfl

/-- A write is what its register holds from then on. -/
theorem held_concat_self (writes : List (ρ × ν)) (register : ρ) (value : ν) :
    held (writes ++ [(register, value)]) register = some value := by
  simp [held, List.filter_append]

/-- A write to another register changes nothing. -/
theorem held_concat_other (writes : List (ρ × ν)) {register other : ρ} (apart : other ≠ register)
    (value : ν) : held (writes ++ [(other, value)]) register = held writes register := by
  simp [held, List.filter_append, apart]

theorem held_append_of_fresh (writes more : List (ρ × ν)) {register : ρ}
    (fresh : ∀ write ∈ more, write.1 ≠ register) :
    held (writes ++ more) register = held writes register := by
  have none_of_it : more.filter (fun write => write.1 = register) = [] := by
    refine List.filter_eq_nil_iff.mpr fun write member => ?_
    simpa using fresh write member
  rw [held, List.filter_append, none_of_it, List.append_nil, held]

/-- **A register holds the value of the last write to it.** -/
theorem held_eq_some {writes : List (ρ × ν)} {register : ρ} {value : ν} :
    held writes register = some value ↔ ∃ before behind,
      writes = before ++ (register, value) :: behind ∧ ∀ write ∈ behind, write.1 ≠ register := by
  constructor
  · intro holds
    induction writes using List.reverseRecOn with
    | nil => cases holds
    | append_singleton writes write ih =>
      by_cases same : write.1 = register
      · obtain ⟨_, written⟩ := write
        subst same
        rw [held_concat_self] at holds
        cases holds
        exact ⟨writes, [], rfl, fun _ member => absurd member List.not_mem_nil⟩
      · rw [held_concat_other writes same write.2] at holds
        obtain ⟨before, behind, rfl, others⟩ := ih holds
        refine ⟨before, behind ++ [write], by simp, fun other member => ?_⟩
        rcases List.mem_append.mp member with earlier | last
        · exact others other earlier
        · rw [List.mem_singleton.mp last]
          exact same
  · rintro ⟨before, behind, rfl, others⟩
    have split : before ++ (register, value) :: behind = (before ++ [(register, value)]) ++ behind := by
      simp
    rw [split, held_append_of_fresh _ _ others, held_concat_self]

theorem mem_of_held {writes : List (ρ × ν)} {register : ρ} {value : ν}
    (holds : held writes register = some value) : (register, value) ∈ writes := by
  obtain ⟨before, behind, rfl, -⟩ := held_eq_some.mp holds
  exact List.mem_append_right _ List.mem_cons_self

/-- A register that was written holds something. -/
theorem exists_held_of_mem {writes : List (ρ × ν)} {register : ρ} {value : ν}
    (written : (register, value) ∈ writes) : ∃ last, held writes register = some last := by
  have there : (register, value) ∈ writes.filter fun write => write.1 = register :=
    List.mem_filter.mpr ⟨written, by simp⟩
  rw [held, List.getLast?_eq_some_getLast (List.ne_nil_of_mem there)]
  exact ⟨_, rfl⟩

/-! ### Moments -/

/-- What a register held when so many writes had been made. -/
def heldAt (writes : List (ρ × ν)) (moment : Nat) (register : ρ) : Option ν :=
  held (writes.take moment) register

theorem heldAt_length (writes : List (ρ × ν)) (register : ρ) :
    heldAt writes writes.length register = held writes register := by
  rw [heldAt, List.take_length]

/-- What was read is not changed by what is written later. -/
theorem heldAt_append {writes more : List (ρ × ν)} {moment : Nat} (past : moment ≤ writes.length)
    (register : ρ) : heldAt (writes ++ more) moment register = heldAt writes moment register := by
  rw [heldAt, List.take_append_of_le_length past, heldAt]

/-! ### Cells -/

/-- A list of cells holds what a history says, each cell under its position. -/
def Agrees (cells : List ν) (writes : List (Nat × ν)) : Prop :=
  ∀ position, cells[position]? = held writes position

namespace Agrees

variable {cells : List ν} {writes : List (Nat × ν)}

theorem nil : Agrees ([] : List ν) [] := fun _ => rfl

/-- One more cell, with its first value. -/
theorem push (agrees : Agrees cells writes) (value : ν) :
    Agrees (cells ++ [value]) (writes ++ [(cells.length, value)]) := by
  intro position
  by_cases last : position = cells.length
  · subst last
    rw [held_concat_self, List.getElem?_concat_length]
  · rw [held_concat_other writes (Ne.symm last), ← agrees position]
    by_cases within : position < cells.length
    · rw [List.getElem?_append_left within]
    · have past : (cells ++ [value]).length ≤ position := by
        simp only [List.length_append, List.length_singleton]
        omega
      rw [List.getElem?_eq_none past, List.getElem?_eq_none (by omega)]

/-- A cell is written. -/
theorem set (agrees : Agrees cells writes) {place : Nat} (inside : place < cells.length) (value : ν) :
    Agrees (cells.set place value) (writes ++ [(place, value)]) := by
  intro position
  rw [List.getElem?_set]
  by_cases same : place = position
  · subst same
    rw [if_pos rfl, if_pos inside, held_concat_self]
  · rw [if_neg same, held_concat_other writes same, agrees position]

end Agrees

end Registers
