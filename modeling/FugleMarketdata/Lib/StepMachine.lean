/-
**Step machines.** Systems that move by labelled steps, each of which may be refused.

A machine has a set of starting states and one step function; `none` is a step that is not enabled
where it is tried. A party that runs beside others is a set of labels, and an interleaving of the
parties is a list of labels in any order, so "for every interleaving" is "for every reachable state".

* `Reachable` — the states some list of labels leads to;
* `ReachableUnder allowed` — the same, along steps that all meet a condition on the state before
  the step, the label and the state after it;
* `ReachableUnder.invariant`, `ReachableUnder.invariant_with` — the induction, packaged once;
* `Refines` — one machine's steps are runs of another's, so the other's invariants transfer;
* `run`, `reachable_of_run` — a concrete list of labels evaluates to a reachable state;
* `runUnder`, `reachableUnder_of_run`, `run_of_runUnder` — the same along steps that meet a condition;
* `countP_le_rank` — how many steps of a kind a run can have, where each of them lowers a rank;
* `recorded` — the machine beside the steps it has taken, `recorded_invariant` its induction;
* `getElem?_set_cases`, `getElem?_concat_cases` — parties kept in a list: one moves, one joins.
-/

import Mathlib.Data.List.Basic

namespace StepMachines

/-- A system that moves by labelled steps; `none` is a step that is not enabled. -/
structure StepMachine (σ α : Type) where
  start : σ → Prop
  step : σ → α → Option σ

namespace StepMachine

variable {σ α : Type} (m : StepMachine σ α)

/-! ### Reachable states -/

/-- The states reached from a start along steps that all meet `allowed`, which reads the state
before the step, its label and the state after it. -/
inductive ReachableUnder (allowed : σ → α → σ → Prop) : σ → Prop
  | start {s : σ} : m.start s → ReachableUnder allowed s
  | step {s t : σ} {a : α} : ReachableUnder allowed s → m.step s a = some t → allowed s a t →
      ReachableUnder allowed t

/-- The states reached from a start along any steps. -/
def Reachable (s : σ) : Prop := m.ReachableUnder (fun _ _ _ => True) s

theorem Reachable.init {s : σ} (starts : m.start s) : m.Reachable s := .start starts

theorem Reachable.next {s t : σ} {a : α} (reached : m.Reachable s) (stepped : m.step s a = some t) :
    m.Reachable t :=
  .step reached stepped trivial

variable {m} {allowed : σ → α → σ → Prop}

/-- Fewer conditions, more states. -/
theorem ReachableUnder.mono {weaker : σ → α → σ → Prop}
    (implied : ∀ s a t, allowed s a t → weaker s a t) {s : σ} (reached : m.ReachableUnder allowed s) :
    m.ReachableUnder weaker s := by
  induction reached with
  | start starts => exact .start starts
  | step _ stepped allows ih => exact .step ih stepped (implied _ _ _ allows)

/-- The same, where the condition need hold only in states some steps reach. -/
theorem ReachableUnder.mono_reached {weaker : σ → α → σ → Prop}
    (implied : ∀ s a t, m.Reachable s → allowed s a t → weaker s a t) {s : σ}
    (reached : m.ReachableUnder allowed s) : m.ReachableUnder weaker s := by
  induction reached with
  | start starts => exact .start starts
  | step before stepped allows ih =>
    exact .step ih stepped (implied _ _ _ (before.mono fun _ _ _ _ => trivial) allows)

theorem ReachableUnder.reachable {s : σ} (reached : m.ReachableUnder allowed s) : m.Reachable s :=
  reached.mono fun _ _ _ _ => trivial

/-- **The invariant rule.** What holds at every start and is kept by every allowed step holds of
every state reached. -/
theorem ReachableUnder.invariant {Inv : σ → Prop} (base : ∀ s, m.start s → Inv s)
    (keeps : ∀ s a t, Inv s → m.step s a = some t → allowed s a t → Inv t) {s : σ}
    (reached : m.ReachableUnder allowed s) : Inv s := by
  induction reached with
  | start starts => exact base _ starts
  | step _ stepped allows ih => exact keeps _ _ _ ih stepped allows

/-- The invariant rule with facts already known to hold of every state reached. -/
theorem ReachableUnder.invariant_with {Known Inv : σ → Prop}
    (known : ∀ s, m.ReachableUnder allowed s → Known s) (base : ∀ s, m.start s → Inv s)
    (keeps : ∀ s a t, Known s → Inv s → m.step s a = some t → allowed s a t → Inv t) {s : σ}
    (reached : m.ReachableUnder allowed s) : Inv s := by
  induction reached with
  | start starts => exact base _ starts
  | step before stepped allows ih => exact keeps _ _ _ (known _ before) ih stepped allows

/-- The invariant rule over all steps. -/
theorem Reachable.invariant {Inv : σ → Prop} (base : ∀ s, m.start s → Inv s)
    (keeps : ∀ s a t, Inv s → m.step s a = some t → Inv t) {s : σ} (reached : m.Reachable s) :
    Inv s :=
  ReachableUnder.invariant base (fun s a t inv stepped _ => keeps s a t inv stepped) reached

/-! ### Refinement -/

/-- Every allowed step of `m` is a run of `n` along steps `n` allows, under the mapping `view`. -/
structure Refines {τ β : Type} (m : StepMachine σ α) (allowed : σ → α → σ → Prop)
    (n : StepMachine τ β) (permitted : τ → β → τ → Prop) (view : σ → τ) : Prop where
  start : ∀ s, m.start s → n.start (view s)
  step : ∀ s a t, m.ReachableUnder allowed s → m.step s a = some t → allowed s a t →
    n.ReachableUnder permitted (view s) → n.ReachableUnder permitted (view t)

/-- What every state of the refined machine satisfies, every state of the refining one does. -/
theorem Refines.reachable {τ β : Type} {n : StepMachine τ β} {permitted : τ → β → τ → Prop}
    {view : σ → τ} (refines : Refines m allowed n permitted view) {s : σ}
    (reached : m.ReachableUnder allowed s) : n.ReachableUnder permitted (view s) := by
  induction reached with
  | start starts => exact .start (refines.start _ starts)
  | step before stepped allows ih => exact refines.step _ _ _ before stepped allows ih

/-! ### Concrete runs -/

variable (m)

/-- The state after the steps of a list, in order, if each is enabled. -/
def run (s : σ) : List α → Option σ
  | [] => some s
  | a :: rest => (m.step s a).bind fun t => run t rest

variable {m}

theorem reachable_of_run {s t : σ} (labels : List α) (reached : m.Reachable s)
    (ran : m.run s labels = some t) : m.Reachable t := by
  induction labels generalizing s with
  | nil =>
    simp only [run, Option.some.injEq] at ran
    exact ran ▸ reached
  | cons a rest ih =>
    obtain ⟨middle, stepped, remaining⟩ := Option.bind_eq_some_iff.mp ran
    exact ih (Reachable.next m reached stepped) remaining

variable (m) in
/-- The state after the steps of a list, in order, if each is enabled and meets a condition. -/
def runUnder (met : σ → α → Prop) [∀ s a, Decidable (met s a)] (s : σ) : List α → Option σ
  | [] => some s
  | a :: rest => if met s a then (m.step s a).bind fun t => runUnder met t rest else none

theorem reachableUnder_of_run {met : σ → α → Prop} [∀ s a, Decidable (met s a)] {s t : σ}
    (labels : List α) (reached : m.ReachableUnder (fun s a _ => met s a) s)
    (ran : m.runUnder met s labels = some t) : m.ReachableUnder (fun s a _ => met s a) t := by
  induction labels generalizing s with
  | nil =>
    simp only [runUnder, Option.some.injEq] at ran
    exact ran ▸ reached
  | cons a rest ih =>
    simp only [runUnder, Option.ite_none_right_eq_some] at ran
    obtain ⟨meets, ran⟩ := ran
    obtain ⟨middle, stepped, remaining⟩ := Option.bind_eq_some_iff.mp ran
    exact ih (reached.step stepped meets) remaining

/-- A run whose steps all meet a condition is a run. -/
theorem run_of_runUnder {met : σ → α → Prop} [∀ s a, Decidable (met s a)] {s t : σ}
    (labels : List α) (ran : m.runUnder met s labels = some t) : m.run s labels = some t := by
  induction labels generalizing s with
  | nil => exact ran
  | cons a rest ih =>
    simp only [runUnder, Option.ite_none_right_eq_some] at ran
    obtain ⟨middle, stepped, remaining⟩ := Option.bind_eq_some_iff.mp ran.2
    exact Option.bind_eq_some_iff.mpr ⟨middle, stepped, ih remaining⟩

/-- **The rank rule.** Where a step of a kind lowers a rank and no other raises it, a run has no more
steps of that kind than the rank it starts with; `Inv` holds along the run. -/
theorem countP_le_rank {met : σ → α → Prop} [∀ s a, Decidable (met s a)] (Inv : σ → Prop)
    (rank : σ → ℕ) (busy : α → Bool)
    (keeps : ∀ s a t, Inv s → met s a → m.step s a = some t → Inv t)
    (falls : ∀ s a t, Inv s → met s a → m.step s a = some t → busy a = true → rank t < rank s)
    (stays : ∀ s a t, Inv s → met s a → m.step s a = some t → busy a = false → rank t ≤ rank s)
    {s t : σ} (labels : List α) (inv : Inv s) (ran : m.runUnder met s labels = some t) :
    Inv t ∧ labels.countP busy + rank t ≤ rank s := by
  induction labels generalizing s with
  | nil =>
    simp only [runUnder, Option.some.injEq] at ran
    subst ran
    exact ⟨inv, by simp⟩
  | cons a rest ih =>
    simp only [runUnder, Option.ite_none_right_eq_some] at ran
    obtain ⟨meets, ran⟩ := ran
    obtain ⟨middle, stepped, remaining⟩ := Option.bind_eq_some_iff.mp ran
    obtain ⟨kept, bounded⟩ := ih (keeps _ _ _ inv meets stepped) remaining
    refine ⟨kept, ?_⟩
    cases kind : busy a with
    | true =>
      have lower := falls _ _ _ inv meets stepped kind
      rw [List.countP_cons_of_pos (by exact kind)]
      omega
    | false =>
      have level := stays _ _ _ inv meets stepped kind
      rw [List.countP_cons_of_neg (by simp [kind])]
      omega

/-- A property that some concrete run breaks does not hold of every reachable state. -/
theorem not_forall_reachable {P : σ → Prop} {s : σ} (labels : List α) (starts : m.start s)
    (breaks : ∃ t, m.run s labels = some t ∧ ¬ P t) : ¬ ∀ t, m.Reachable t → P t := by
  intro always
  obtain ⟨t, ran, broken⟩ := breaks
  exact broken (always t (reachable_of_run labels (Reachable.init m starts) ran))

end StepMachine

/-! ### The steps taken -/

/-- A step that was taken: the state before it, its label and the state after it. -/
structure Taken (σ α : Type) where
  before : σ
  label : α
  after : σ

namespace StepMachine

variable {σ α : Type}

/-- The machine beside the steps it has taken, first to last. -/
def recorded (m : StepMachine σ α) : StepMachine (σ × List (Taken σ α)) α where
  start := fun s => m.start s.1 ∧ s.2 = []
  step := fun s a => (m.step s.1 a).map fun t => (t, s.2 ++ [{ before := s.1, label := a, after := t }])

variable {m : StepMachine σ α}

/-- What the recorded machine reaches, the machine reaches. -/
theorem Reachable.of_recorded {s : σ × List (Taken σ α)} (reached : m.recorded.Reachable s) :
    m.Reachable s.1 := by
  have base (first : σ × List (Taken σ α)) (starts : m.recorded.start first) : m.Reachable first.1 :=
    Reachable.init m starts.1
  refine reached.invariant base ?_
  intro before a after reaches stepped
  obtain ⟨next, moved, rfl⟩ := Option.map_eq_some_iff.mp stepped
  exact Reachable.next m reaches moved

/-- **The invariant rule for a state and the steps that led to it.** -/
theorem recorded_invariant {Inv : σ → List (Taken σ α) → Prop} (base : ∀ s, m.start s → Inv s [])
    (keeps : ∀ s a t taken, m.Reachable s → Inv s taken → m.step s a = some t →
      Inv t (taken ++ [{ before := s, label := a, after := t }]))
    {s : σ} {taken : List (Taken σ α)} (reached : m.recorded.Reachable (s, taken)) : Inv s taken := by
  have start (first : σ × List (Taken σ α)) (starts : m.recorded.start first) :
      m.Reachable first.1 ∧ Inv first.1 first.2 := by
    obtain ⟨starts, none⟩ := starts
    exact ⟨Reachable.init m starts, none ▸ base _ starts⟩
  have step (first : σ × List (Taken σ α)) (a : α) (next : σ × List (Taken σ α))
      (known : m.Reachable first.1 ∧ Inv first.1 first.2)
      (stepped : m.recorded.step first a = some next) : m.Reachable next.1 ∧ Inv next.1 next.2 := by
    obtain ⟨after, moved, rfl⟩ := Option.map_eq_some_iff.mp stepped
    exact ⟨Reachable.next m known.1 moved, keeps _ _ _ _ known.1 known.2 moved⟩
  exact (reached.invariant start step).2

end StepMachine

/-! ### Parties in a list -/

/-- The parties after one of them moved: that one, and the others as they were. -/
theorem getElem?_set_cases {π : Type} {parties : List π} {position other : Nat} {party found : π}
    (there : (parties.set position party)[other]? = some found) :
    other = position ∧ found = party ∨ other ≠ position ∧ parties[other]? = some found := by
  rw [List.getElem?_set] at there
  by_cases same : position = other
  · rw [if_pos same] at there
    split at there
    · exact Or.inl ⟨same.symm, (Option.some.inj there).symm⟩
    · cases there
  · rw [if_neg same] at there
    exact Or.inr ⟨fun equal => same equal.symm, there⟩

/-- The parties after one more has joined. -/
theorem getElem?_concat_cases {π : Type} {parties : List π} {position : Nat} {party found : π}
    (there : (parties ++ [party])[position]? = some found) :
    parties[position]? = some found ∨ position = parties.length ∧ found = party := by
  rw [List.getElem?_append] at there
  split at there
  · exact Or.inl there
  · rename_i past
    obtain ⟨first, same⟩ := List.getElem?_eq_some_iff.mp there
    have last : position = parties.length := by
      simp only [List.length_singleton] at first
      omega
    subst last
    refine Or.inr ⟨rfl, ?_⟩
    simpa using same.symm

end StepMachines
