/-
**Monitors.** Parties that wait on a condition variable until there is something to take.

A wake-up is a notification that has left the variable and whose holder has not yet looked: the notifier
about to give it, the party it took off the variable, or whoever that party hands it to.

* `Covered` — one wake-up for each item: whoever is parked, as many wake-ups are on their way as there
  are items. `Covered.move` is the one rule for a party that moves;
* `Covered.holder` — and so somebody who is not parked holds one;
* `Announced` — one notification for all: whoever is parked while there is something to see, that
  notification is still to come.
-/

import Mathlib.Data.List.Basic

namespace Monitors

variable {π : Type}

/-! ### The wake-ups a list of parties holds -/

/-- The wake-ups the parties hold between them. -/
def wakeups (credit : π → ℕ) : List π → ℕ
  | [] => 0
  | party :: rest => credit party + wakeups credit rest

section Wakeups

variable (credit : π → ℕ) {parties : List π}

@[simp] theorem wakeups_nil : wakeups credit [] = 0 := rfl

@[simp] theorem wakeups_cons (party : π) (rest : List π) :
    wakeups credit (party :: rest) = credit party + wakeups credit rest := rfl

theorem wakeups_append (first second : List π) :
    wakeups credit (first ++ second) = wakeups credit first + wakeups credit second := by
  induction first with
  | nil => exact (Nat.zero_add _).symm
  | cons party rest ih =>
    rw [List.cons_append, wakeups_cons, wakeups_cons, ih, Nat.add_assoc]

/-- One party moves: its wake-ups change and no other's. -/
theorem wakeups_set {position : ℕ} {before : π} (after : π)
    (there : parties[position]? = some before) :
    wakeups credit (parties.set position after) + credit before =
      wakeups credit parties + credit after := by
  induction parties generalizing position with
  | nil => cases there
  | cons party rest ih =>
    cases position with
    | zero =>
      obtain rfl : party = before := Option.some.inj there
      rw [List.set_cons_zero, wakeups_cons, wakeups_cons]
      omega
    | succ position =>
      have moved := ih there
      rw [List.set_cons_succ, wakeups_cons, wakeups_cons]
      omega

/-- Every party moves at once, none gaining: what they hold and what they lost is what they held. -/
theorem wakeups_map (parties : List π) (move : π → π)
    (falls : ∀ party, credit (move party) ≤ credit party) :
    wakeups credit (parties.map move) +
      wakeups (fun party => credit party - credit (move party)) parties = wakeups credit parties := by
  induction parties with
  | nil => rfl
  | cons party rest ih =>
    have less := falls party
    rw [List.map_cons, wakeups_cons, wakeups_cons, wakeups_cons]
    omega

/-- Where the parties hold wake-ups, one of them holds some. -/
theorem exists_of_wakeups_pos (holds : 0 < wakeups credit parties) :
    ∃ party ∈ parties, 0 < credit party := by
  induction parties with
  | nil => cases holds
  | cons party rest ih =>
    rw [wakeups_cons] at holds
    by_cases here : 0 < credit party
    · exact ⟨party, List.mem_cons_self, here⟩
    · obtain ⟨other, member, there⟩ := ih (by omega)
      exact ⟨other, List.mem_cons_of_mem _ member, there⟩

end Wakeups

/-! ### One wake-up for each item -/

/-- Whoever is parked, the parties hold as many wake-ups as there are items, up to `spare` held
elsewhere. -/
def Covered (parked : π → Bool) (credit : π → ℕ) (parties : List π) (items spare : ℕ) : Prop :=
  (∃ party ∈ parties, parked party = true) → items ≤ wakeups credit parties + spare

namespace Covered

variable {parked : π → Bool} {credit : π → ℕ} {parties : List π} {items spare : ℕ}

/-- Nothing to take. -/
theorem empty : Covered parked credit parties 0 spare := fun _ => Nat.zero_le _

/-- Nobody waits. -/
theorem vacant (nobody : ∀ party ∈ parties, parked party = false) :
    Covered parked credit parties items spare := by
  rintro ⟨party, member, waits⟩
  rw [nobody party member] at waits
  exact absurd waits Bool.false_ne_true

/-- Wake-ups held elsewhere grow with the items: a push that has yet to notify. -/
theorem pay (covered : Covered parked credit parties items spare) {items' spare' : ℕ}
    (pays : items' + spare ≤ items + spare') : Covered parked credit parties items' spare' := by
  intro waits
  have enough := covered waits
  omega

/-- **The rule for a move.** A party parks only where it was parked, or where nothing is left to take,
and what the items gain or the party gives up is made up for. -/
theorem move (covered : Covered parked credit parties items spare) {position : ℕ} {before after : π}
    {items' spare' : ℕ} (there : parties[position]? = some before)
    (parks : parked after = true → parked before = true ∨ items' = 0)
    (pays : items' + credit before + spare ≤ items + credit after + spare') :
    Covered parked credit (parties.set position after) items' spare' := by
  rintro ⟨party, member, waits⟩
  by_cases nothing : items' = 0
  · omega
  have waited : ∃ other ∈ parties, parked other = true := by
    rcases List.mem_or_eq_of_mem_set member with old | rfl
    · exact ⟨party, old, waits⟩
    · rcases parks waits with was | none
      · exact ⟨before, List.mem_of_getElem? there, was⟩
      · exact absurd none nothing
  have enough := covered waited
  have sum := wakeups_set credit after there
  omega

/-- A party joins, and does not begin parked. -/
theorem join (covered : Covered parked credit parties items spare) {party : π}
    (moving : parked party = false) : Covered parked credit (parties ++ [party]) items spare := by
  rintro ⟨other, member, waits⟩
  have old : other ∈ parties := by
    rcases List.mem_append.mp member with old | new
    · exact old
    · rw [List.mem_singleton.mp new, moving] at waits
      exact absurd waits Bool.false_ne_true
  have enough := covered ⟨other, old, waits⟩
  rw [wakeups_append]
  omega

/-- Every party moves at once: none parks, and what they give up is held elsewhere. -/
theorem map (covered : Covered parked credit parties items spare) (move : π → π)
    (parks : ∀ party, parked (move party) = true → parked party = true)
    (falls : ∀ party, credit (move party) ≤ credit party) :
    Covered parked credit (parties.map move) items
      (spare + wakeups (fun party => credit party - credit (move party)) parties) := by
  rintro ⟨party, member, waits⟩
  obtain ⟨old, was, rfl⟩ := List.mem_map.mp member
  have enough := covered ⟨old, was, parks old waits⟩
  have sum := wakeups_map credit parties move falls
  omega

/-- **No item is stranded.** Where somebody is parked while there are items, and nothing is held
elsewhere, a party that is not parked holds a wake-up. -/
theorem holder (covered : Covered parked credit parties items 0) (some_ : 0 < items)
    (waits : ∃ party ∈ parties, parked party = true)
    (idle : ∀ party, parked party = true → credit party = 0) :
    ∃ party ∈ parties, parked party = false ∧ 0 < credit party := by
  have enough := covered waits
  have holding : 0 < wakeups credit parties := by omega
  obtain ⟨party, member, holds⟩ := exists_of_wakeups_pos credit holding
  refine ⟨party, member, ?_, holds⟩
  by_contra still
  have none := idle party (Bool.of_not_eq_false still)
  omega

end Covered

/-! ### One notification for all -/

/-- Whoever is parked while there is something to see, the notification of all is still to come. -/
def Announced (parked : π → Bool) (parties : List π) (ready coming : Prop) : Prop :=
  (∃ party ∈ parties, parked party = true) → ready → coming

namespace Announced

variable {parked : π → Bool} {parties : List π} {ready coming : Prop}

theorem vacant (nobody : ∀ party ∈ parties, parked party = false) :
    Announced parked parties ready coming := by
  rintro ⟨party, member, waits⟩
  rw [nobody party member] at waits
  exact absurd waits Bool.false_ne_true

/-- What is to see becomes less, or the notification is under way. -/
theorem mono (announced : Announced parked parties ready coming) {ready' coming' : Prop}
    (still : ready' → coming' ∨ ready ∧ (coming → coming')) :
    Announced parked parties ready' coming' := by
  intro waits sees
  rcases still sees with comes | ⟨saw, keeps⟩
  · exact comes
  · exact keeps (announced waits saw)

/-- A party moves, and parks only where it was parked or where there is nothing to see. -/
theorem move (announced : Announced parked parties ready coming) {position : ℕ} {before after : π}
    (there : parties[position]? = some before)
    (parks : parked after = true → parked before = true ∨ ¬ ready) :
    Announced parked (parties.set position after) ready coming := by
  rintro ⟨party, member, waits⟩ sees
  rcases List.mem_or_eq_of_mem_set member with old | rfl
  · exact announced ⟨party, old, waits⟩ sees
  · rcases parks waits with was | blind
    · exact announced ⟨before, List.mem_of_getElem? there, was⟩ sees
    · exact absurd sees blind

theorem join (announced : Announced parked parties ready coming) {party : π}
    (moving : parked party = false) : Announced parked (parties ++ [party]) ready coming := by
  rintro ⟨other, member, waits⟩ sees
  rcases List.mem_append.mp member with old | new
  · exact announced ⟨other, old, waits⟩ sees
  · rw [List.mem_singleton.mp new, moving] at waits
    exact absurd waits Bool.false_ne_true

theorem map (announced : Announced parked parties ready coming) (move : π → π)
    (parks : ∀ party, parked (move party) = true → parked party = true) :
    Announced parked (parties.map move) ready coming := by
  rintro ⟨party, member, waits⟩ sees
  obtain ⟨old, was, rfl⟩ := List.mem_map.mp member
  exact announced ⟨old, was, parks old waits⟩ sees

end Announced

end Monitors
