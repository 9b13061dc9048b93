/-
**Traces.** Lists of what happened, first to last, and what they say about each entry.

* `Throughout P` — each entry meets `P` with the entries before it;
* `Since P Q` — some entry met `P` with the entries before it, and all since meet `Q`;
* `Window.Inside` — some entry opened the window and none since has closed it; `Window.isOpen` computes
  it.
-/

import Mathlib.Data.List.Induction

namespace Traces

variable {α : Type}

/-! ### Every entry with its past -/

/-- Each entry meets `P`, which reads the entries before it too. -/
def Throughout (P : List α → α → Prop) (trace : List α) : Prop :=
  ∀ earlier entry later, trace = earlier ++ entry :: later → P earlier entry

namespace Throughout

variable {P Q : List α → α → Prop}

theorem nil : Throughout P [] := by
  intro earlier entry later empty
  cases List.append_ne_nil_of_right_ne_nil earlier (List.cons_ne_nil entry later) empty.symm

/-- The entries of a continuation are judged with those before it. -/
theorem append {first second : List α} (left : Throughout P first)
    (right : Throughout (fun earlier => P (first ++ earlier)) second) :
    Throughout P (first ++ second) := by
  intro earlier entry later split
  rcases List.append_eq_append_iff.mp split with ⟨middle, rfl, rest⟩ | ⟨middle, rfl, rest⟩
  · exact right middle entry later rest
  · cases middle with
    | nil =>
      have whole := right [] entry later rest.symm
      simpa using whole
    | cons head tail =>
      obtain ⟨rfl, -⟩ := List.cons.inj rest
      exact left earlier entry tail rfl

theorem concat {trace : List α} {entry : α} (before : Throughout P trace) (last : P trace entry) :
    Throughout P (trace ++ [entry]) := by
  refine before.append fun earlier found later split => ?_
  cases earlier with
  | nil =>
    obtain ⟨rfl, -⟩ := List.cons.inj split
    rwa [List.append_nil]
  | cons head tail =>
    obtain ⟨-, rest⟩ := List.cons.inj split
    cases List.append_ne_nil_of_right_ne_nil tail (List.cons_ne_nil found later) rest.symm

theorem cons {trace : List α} {entry : α} (first : P [] entry)
    (rest : Throughout (fun earlier => P (entry :: earlier)) trace) :
    Throughout P (entry :: trace) :=
  (nil.concat first).append rest

theorem mono {trace : List α} (holds : Throughout P trace)
    (implied : ∀ earlier, ∀ entry ∈ trace, P earlier entry → Q earlier entry) :
    Throughout Q trace := by
  intro earlier entry later split
  refine implied earlier entry ?_ (holds earlier entry later split)
  rw [split]
  exact List.mem_append_right earlier List.mem_cons_self

/-- What needs no past. -/
theorem of_forall {trace : List α} (each : ∀ earlier, ∀ entry ∈ trace, P earlier entry) :
    Throughout P trace := by
  intro earlier entry later split
  refine each earlier entry ?_
  rw [split]
  exact List.mem_append_right earlier List.mem_cons_self

/-- Of the entries a test picks, each with none of them before it, there is one at most. -/
theorem countP_le_one {picked : α → Bool} {trace : List α}
    (first : Throughout (fun earlier entry => picked entry = true → ∀ before ∈ earlier, picked before = false)
      trace) : trace.countP picked ≤ 1 := by
  induction trace using List.reverseRecOn with
  | nil => exact Nat.zero_le 1
  | append_singleton trace entry ih =>
    have earlier := ih fun earlier found later split => first earlier found (later ++ [entry]) (by simp [split])
    rw [List.countP_append, List.countP_singleton]
    cases picks : picked entry with
    | false => simpa using earlier
    | true =>
      have none : trace.countP picked = 0 := List.countP_eq_zero.mpr fun before member => by
        rw [first trace entry [] rfl picks before member]
        exact Bool.false_ne_true
      simp [none]

end Throughout

/-! ### Since -/

/-- An entry met `P`, which reads the entries before it too, and every entry since meets `Q`. -/
def Since (P : List α → α → Prop) (Q : α → Prop) (trace : List α) : Prop :=
  ∃ earlier entry later, trace = earlier ++ entry :: later ∧ P earlier entry ∧ ∀ after ∈ later, Q after

theorem not_since_nil {P : List α → α → Prop} {Q : α → Prop} : ¬ Since P Q [] := by
  rintro ⟨earlier, entry, later, empty, -⟩
  exact List.append_ne_nil_of_right_ne_nil earlier (List.cons_ne_nil entry later) empty.symm

/-- The last entry is the one, or it meets `Q` and the one is before it. -/
theorem since_concat {P : List α → α → Prop} {Q : α → Prop} (trace : List α) (last : α) :
    Since P Q (trace ++ [last]) ↔ P trace last ∨ Since P Q trace ∧ Q last := by
  constructor
  · rintro ⟨earlier, entry, later, split, holds, since⟩
    induction later using List.reverseRecOn with
    | nil =>
      obtain ⟨rfl, same⟩ := List.append_inj' split rfl
      cases same
      exact Or.inl holds
    | append_singleton between after _ =>
      have reassociated : trace ++ [last] = (earlier ++ entry :: between) ++ [after] := by
        simpa using split
      obtain ⟨rfl, same⟩ := List.append_inj' reassociated rfl
      cases same
      refine Or.inr ⟨⟨earlier, entry, between, rfl, holds, fun found member => ?_⟩, ?_⟩
      · exact since found (List.mem_append_left _ member)
      · exact since last (List.mem_append_right _ List.mem_cons_self)
  · rintro (holds | ⟨⟨earlier, entry, later, rfl, holds, since⟩, stays⟩)
    · exact ⟨trace, last, [], rfl, holds, fun _ member => by cases member⟩
    · refine ⟨earlier, entry, later ++ [last], by simp, holds, fun found member => ?_⟩
      rcases List.mem_append.mp member with member | member
      · exact since found member
      · rw [List.mem_singleton.mp member]
        exact stays

/-! ### Windows -/

/-- The entries that open a window and those that close it. -/
structure Window (α : Type) where
  opens : α → Bool
  closes : α → Bool

namespace Window

variable (w : Window α)

/-- An entry opened the window and none since has closed it. -/
def Inside (trace : List α) : Prop :=
  ∃ earlier opener later, trace = earlier ++ opener :: later ∧ w.opens opener = true ∧
    ∀ entry ∈ later, w.closes entry = false

variable {w}

theorem Inside.append {trace more : List α} (inside : w.Inside trace)
    (quiet : ∀ entry ∈ more, w.closes entry = false) : w.Inside (trace ++ more) := by
  obtain ⟨earlier, opener, later, rfl, opens, since⟩ := inside
  refine ⟨earlier, opener, later ++ more, by simp, opens, fun entry member => ?_⟩
  rcases List.mem_append.mp member with member | member
  · exact since entry member
  · exact quiet entry member

theorem inside_of_opens (trace : List α) {entry : α} (opens : w.opens entry = true) :
    w.Inside (trace ++ [entry]) :=
  ⟨trace, entry, [], rfl, opens, fun _ member => by cases member⟩

/-- What the last entry does decides, and where it does nothing the entries before it. -/
theorem inside_concat (trace : List α) (entry : α) : w.Inside (trace ++ [entry]) ↔
    w.opens entry = true ∨ w.Inside trace ∧ w.closes entry = false := by
  exact since_concat (P := fun _ opener => w.opens opener = true) trace entry

variable (w) in
/-- `Inside`, read off the entries one by one. -/
def isOpen (trace : List α) : Bool :=
  trace.foldl (fun inside entry => w.opens entry || (inside && !w.closes entry)) false

theorem inside_iff (trace : List α) : w.Inside trace ↔ w.isOpen trace = true := by
  induction trace using List.reverseRecOn with
  | nil =>
    refine ⟨fun ⟨earlier, opener, later, split, _⟩ => ?_, fun opened => by cases opened⟩
    cases List.append_ne_nil_of_right_ne_nil earlier (List.cons_ne_nil opener later) split.symm
  | append_singleton trace entry ih =>
    rw [inside_concat, ih]
    simp [isOpen, List.foldl_append]

/-- Inside a window, the entries that follow are inside it until one closes it. -/
theorem Inside.throughout {trace more : List α} (inside : w.Inside trace)
    (quiet : ∀ entry ∈ more, w.closes entry = false) :
    Throughout (fun earlier _ => w.Inside (trace ++ earlier)) more := by
  intro earlier entry later split
  refine inside.append fun before member => quiet before ?_
  rw [split]
  exact List.mem_append_left _ member

end Window

end Traces
