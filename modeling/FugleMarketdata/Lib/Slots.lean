/-
**Slots taken one after the other.**

A loop goes through entries. An entry wants a slot, which no earlier one may have, leaves a note in it and
hands in items; the loop stops at the first entry that wants none, wants one that is gone or may not hand in
what it has.

* `Plan.Fits` — the entries a loop gets through (`Loop.exists_ok_iff`);
* `Loop.ends` — the notes in the slots and the items handed in;
* `Plan.Fits.items_of_slot` — where an item bears its slot, the items of a slot are one entry's.
-/

import Mathlib.Data.List.Nodup

namespace Slots

variable {α σ ρ ι τ ε : Type}

/-- What an entry wants, what it leaves there and what it hands in. -/
structure Plan (α σ ρ ι : Type) where
  slot : α → Option σ
  note : α → ρ
  items : α → Option (List ι)

namespace Plan

variable (plan : Plan α σ ρ ι)

/-- Every entry has a slot of its own and something it may hand in. -/
structure Fits (entries : List α) : Prop where
  each : ∀ entry ∈ entries, (plan.slot entry).isSome ∧ (plan.items entry).isSome
  apart : (entries.filterMap plan.slot).Nodup

/-- What the entries hand in, in order. -/
def all (entries : List α) : List ι := entries.flatMap fun entry => (plan.items entry).getD []

variable {plan}

/-- Entries that want different slots fit. -/
theorem Fits.of_eq_of_slot {entries : List α}
    (each : ∀ entry ∈ entries, (plan.slot entry).isSome ∧ (plan.items entry).isSome) (distinct : entries.Nodup)
    (only : ∀ first ∈ entries, ∀ second ∈ entries, plan.slot first = plan.slot second → first = second) :
    plan.Fits entries where
  each := each
  apart := by
    refine List.pairwise_filterMap.mpr (distinct.imp_of_mem ?_)
    intro first second one other different slot wants shared wanted same
    exact different (only first one second other (by rw [wants, wanted, same]))

/-- Two entries that want one slot are one entry. -/
theorem Fits.eq_of_slot {entries : List α} (fits : plan.Fits entries) {first second : α}
    (one : first ∈ entries) (other : second ∈ entries) (same : plan.slot first = plan.slot second) :
    first = second := by
  obtain ⟨slot, wants⟩ := Option.isSome_iff_exists.mp (fits.each first one).1
  have apart := fits.apart
  clear fits
  induction entries with
  | nil => cases one
  | cons entry rest ih =>
    have absent (there : α) (member : there ∈ rest) (wanted : plan.slot there = some slot)
        (here : plan.slot entry = some slot) : False := by
      rw [List.filterMap_cons_some here] at apart
      exact (List.nodup_cons.mp apart).1 (List.mem_filterMap.mpr ⟨there, member, wanted⟩)
    rcases List.mem_cons.mp one with rfl | behind <;> rcases List.mem_cons.mp other with rfl | after
    · rfl
    · exact (absent second after (same ▸ wants) wants).elim
    · exact (absent first behind wants (same ▸ wants)).elim
    · refine ih behind after (apart.sublist ?_)
      exact (List.sublist_cons_self entry rest).filterMap plan.slot

/-- **A slot's items.** Where an item bears the slot of its entry, the items of a slot are those of the entry
that has it. -/
theorem Fits.items_of_slot [DecidableEq σ] {entries : List α} (fits : plan.Fits entries) {label : ι → σ}
    (marked : ∀ entry items, plan.items entry = some items →
      ∀ item ∈ items, plan.slot entry = some (label item))
    {entry : α} (member : entry ∈ entries) {slot : σ} (wants : plan.slot entry = some slot) :
    ((plan.all entries).filter fun item => label item = slot) = (plan.items entry).getD [] := by
  have bears {there : α} {item : ι} (handed : item ∈ (plan.items there).getD []) :
      plan.slot there = some (label item) := by
    cases gives : plan.items there with
    | none =>
      rw [gives] at handed
      cases handed
    | some items =>
      rw [gives] at handed
      exact marked there items gives item handed
  have own : (((plan.items entry).getD []).filter fun item => label item = slot) =
      (plan.items entry).getD [] := by
    refine List.filter_eq_self.mpr fun item handed => decide_eq_true ?_
    exact Option.some.inj ((bears handed).symm.trans wants)
  have others {there : α} (apart : plan.slot there ≠ some slot) :
      (((plan.items there).getD []).filter fun item => label item = slot) = [] := by
    refine List.filter_eq_nil_iff.mpr fun item handed same => apart ?_
    rw [bears handed, of_decide_eq_true same]
  have none_of (rest : List α) (apart : ∀ there ∈ rest, plan.slot there ≠ some slot) :
      ((plan.all rest).filter fun item => label item = slot) = [] := by
    rw [all, List.filter_flatMap, List.flatMap_eq_nil_iff]
    exact fun there behind => others (apart there behind)
  obtain ⟨before, behind, rfl⟩ := List.append_of_mem member
  have split := fits.apart
  rw [List.filterMap_append, List.filterMap_cons_some wants] at split
  have gone := (List.nodup_middle.mp split)
  have clear (there : α) (elsewhere : there ∈ before ++ behind) : plan.slot there ≠ some slot := by
    intro wanted
    refine (List.nodup_cons.mp gone).1 ?_
    rw [← List.filterMap_append]
    exact List.mem_filterMap.mpr ⟨there, elsewhere, wanted⟩
  have ahead := none_of before fun there front => clear there (List.mem_append_left _ front)
  have rear := none_of behind fun there back => clear there (List.mem_append_right _ back)
  rw [all] at ahead rear ⊢
  rw [List.flatMap_append, List.flatMap_cons, List.filter_append, List.filter_append, ahead, rear, own,
    List.nil_append, List.append_nil]

end Plan

/-! ### The loop -/

/-- A loop that stopped was stopped by one of its entries. -/
theorem exists_of_foldlM_error {step : τ → α → Except ε τ} {entries : List α} {so : τ} {err : ε}
    (stopped : entries.foldlM step so = .error err) :
    ∃ entry ∈ entries, ∃ before, step before entry = .error err := by
  induction entries generalizing so with
  | nil => cases stopped
  | cons entry rest ih =>
    rw [List.foldlM_cons] at stopped
    cases result : step so entry with
    | error other =>
      rw [result] at stopped
      cases stopped
      exact ⟨entry, List.mem_cons_self, so, result⟩
    | ok next =>
      rw [result] at stopped
      obtain ⟨later, member, before, here⟩ := ih stopped
      exact ⟨later, List.mem_cons_of_mem _ member, before, here⟩

/-- A step that follows a plan: the state tells the note in a slot and the items so far. -/
structure Loop [DecidableEq σ] (plan : Plan α σ ρ ι) (step : τ → α → Except ε τ)
    (note : τ → σ → Option ρ) (items : τ → List ι) : Prop where
  takes : ∀ {so entry next}, step so entry = .ok next → ∃ slot more, plan.slot entry = some slot ∧
    note so slot = none ∧ plan.items entry = some more ∧
    (∀ other, note next other = if other = slot then some (plan.note entry) else note so other) ∧
    items next = items so ++ more
  goes : ∀ {so entry slot more}, plan.slot entry = some slot → note so slot = none →
    plan.items entry = some more → ∃ next, step so entry = .ok next

/-- A loop that got through, from one state to another. -/
structure Through (plan : Plan α σ ρ ι) (note : τ → σ → Option ρ) (items : τ → List ι) (entries : List α)
    (so last : τ) : Prop where
  fits : plan.Fits entries
  free : ∀ slot ∈ entries.filterMap plan.slot, note so slot = none
  noted : ∀ entry ∈ entries, ∀ slot, plan.slot entry = some slot → note last slot = some (plan.note entry)
  kept : ∀ slot ∉ entries.filterMap plan.slot, note last slot = note so slot
  items : items last = items so ++ plan.all entries

namespace Loop

variable [DecidableEq σ] {plan : Plan α σ ρ ι} {step : τ → α → Except ε τ} {note : τ → σ → Option ρ}
  {items : τ → List ι} (loop : Loop plan step note items)

include loop

/-- What a loop that got through has done. -/
theorem ends {entries : List α} {so last : τ} (through : entries.foldlM step so = .ok last) :
    Through plan note items entries so last := by
  induction entries generalizing so with
  | nil =>
    rw [List.foldlM_nil] at through
    cases through
    refine ⟨⟨?_, List.nodup_nil⟩, ?_, ?_, fun _ _ => rfl, by simp [Plan.all]⟩ <;> intro entry member <;>
      cases member
  | cons entry rest ih =>
    rw [List.foldlM_cons] at through
    obtain ⟨next, stepped⟩ : ∃ next, step so entry = .ok next := by
      cases result : step so entry with
      | error err => rw [result] at through; cases through
      | ok next => exact ⟨next, rfl⟩
    rw [stepped] at through
    obtain ⟨slot, more, wants, free, gives, notes, itemsNext⟩ := loop.takes stepped
    obtain ⟨⟨each, apart⟩, freeNext, noted, kept, itemsLast⟩ := ih through
    have fresh : slot ∉ rest.filterMap plan.slot := by
      intro later
      have none_ := freeNext slot later
      rw [notes, if_pos rfl] at none_
      cases none_
    have slots : (entry :: rest).filterMap plan.slot = slot :: rest.filterMap plan.slot :=
      List.filterMap_cons_some wants
    refine ⟨⟨fun other member => ?_, ?_⟩, fun other member => ?_, fun other member wanted same => ?_,
      fun other absent => ?_, ?_⟩
    · rcases List.mem_cons.mp member with rfl | member
      · simp [wants, gives]
      · exact each other member
    · rw [slots]
      exact List.nodup_cons.mpr ⟨fresh, apart⟩
    · rw [slots] at member
      rcases List.mem_cons.mp member with rfl | member
      · exact free
      · have none_ := freeNext other member
        rwa [notes, if_neg (ne_of_mem_of_not_mem member fresh)] at none_
    · rcases List.mem_cons.mp member with rfl | member
      · obtain rfl := Option.some.inj (wants.symm.trans same)
        rw [kept slot fresh, notes, if_pos rfl]
      · exact noted other member wanted same
    · rw [slots] at absent
      rw [List.mem_cons, not_or] at absent
      rw [kept other absent.2, notes, if_neg absent.1]
    · rw [itemsLast, itemsNext, Plan.all, Plan.all, List.flatMap_cons, gives, Option.getD_some,
        List.append_assoc]

/-- Entries that fit get through where their slots are free. -/
theorem exists_ok {entries : List α} {so : τ} (fits : plan.Fits entries)
    (free : ∀ slot ∈ entries.filterMap plan.slot, note so slot = none) :
    ∃ last, entries.foldlM step so = .ok last := by
  induction entries generalizing so with
  | nil => exact ⟨so, rfl⟩
  | cons entry rest ih =>
    obtain ⟨each, apart⟩ := fits
    obtain ⟨wanted, given⟩ := each entry List.mem_cons_self
    obtain ⟨slot, wants⟩ := Option.isSome_iff_exists.mp wanted
    obtain ⟨more, gives⟩ := Option.isSome_iff_exists.mp given
    rw [List.filterMap_cons_some wants] at apart free
    obtain ⟨fresh, apart⟩ := List.nodup_cons.mp apart
    obtain ⟨next, stepped⟩ := loop.goes wants (free slot List.mem_cons_self) gives
    obtain ⟨_, _, alike, -, -, notes, -⟩ := loop.takes stepped
    rw [← Option.some.inj (wants.symm.trans alike)] at notes
    have rest_ : ∃ last, rest.foldlM step next = .ok last := by
      refine ih ⟨fun other member => each other (List.mem_cons_of_mem _ member), apart⟩ fun other member => ?_
      rw [notes, if_neg (ne_of_mem_of_not_mem member fresh)]
      exact free other (List.mem_cons_of_mem _ member)
    obtain ⟨last, through⟩ := rest_
    refine ⟨last, ?_⟩
    rw [List.foldlM_cons, stepped]
    exact through

/-- **The entries a loop gets through.** -/
theorem exists_ok_iff {start : τ} (fresh : ∀ slot, note start slot = none) {entries : List α} :
    (∃ last, entries.foldlM step start = .ok last) ↔ plan.Fits entries := by
  constructor
  · rintro ⟨last, through⟩
    exact (loop.ends through).fits
  · exact fun fits => loop.exists_ok fits fun slot _ => fresh slot

end Loop

end Slots
