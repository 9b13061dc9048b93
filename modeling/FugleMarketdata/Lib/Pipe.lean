/-
**A pipe that is closed.** Items are accepted at one end and written at the other, in order, until
the pipe is closed; what is still inside then can only be lost.

* `pipeRuns` — accepting, writing, closing and losing, in every order;
* `Pipe.closed_iff` — closing a pipe leaves everything written exactly when nothing was inside;
* `Pipe.delivered` — in a run that closes the pipe only when it is empty, nothing is lost.
-/

import FugleMarketdata.Lib.StepMachine

namespace StepMachines

open StepMachine

/-- What went in, what is inside, what came out, and whether the pipe is closed. -/
structure Pipe (α : Type) where
  accepted : List α
  inside : List α
  written : List α
  closed : Bool

/-- One step of a pipe. -/
inductive PipeStep (α : Type) where
  | accept (item : α)
  | write
  | lose
  | close
  deriving DecidableEq

namespace Pipe

variable {α : Type}

/-- Items leave in the order they came; after the close they are lost. -/
def step (pipe : Pipe α) : PipeStep α → Option (Pipe α)
  | .accept item =>
    if pipe.closed then none
    else some { pipe with accepted := pipe.accepted ++ [item], inside := pipe.inside ++ [item] }
  | .write =>
    match pipe.inside with
    | item :: rest =>
      if pipe.closed then none
      else some { pipe with inside := rest, written := pipe.written ++ [item] }
    | [] => none
  | .lose =>
    match pipe.inside with
    | _ :: rest => if pipe.closed then some { pipe with inside := rest } else none
    | [] => none
  | .close => some { pipe with closed := true }

/-- The step does not close the pipe while something is inside. -/
def ClosesEmpty (pipe : Pipe α) (step : PipeStep α) : Prop := step = .close → pipe.inside = []

end Pipe

/-- A pipe nothing has entered, in every order of steps. -/
def pipeRuns (α : Type) : StepMachine (Pipe α) (PipeStep α) where
  start := fun pipe => pipe = { accepted := [], inside := [], written := [], closed := false }
  step := Pipe.step

namespace Pipe

variable {α : Type} {pipe next : Pipe α}

/-! ### Any run -/

/-- An open pipe has lost nothing. -/
def Ordered (pipe : Pipe α) : Prop :=
  pipe.closed = false → pipe.accepted = pipe.written ++ pipe.inside

theorem step_ordered (ordered : pipe.Ordered) {call : PipeStep α}
    (stepped : pipe.step call = some next) : next.Ordered := by
  intro stillOpen
  cases call with
  | accept item =>
    simp only [step, Option.ite_none_left_eq_some, Bool.not_eq_true, Option.some.injEq] at stepped
    obtain ⟨before, rfl⟩ := stepped
    show pipe.accepted ++ [item] = pipe.written ++ (pipe.inside ++ [item])
    rw [ordered before, List.append_assoc]
  | write =>
    simp only [step] at stepped
    split at stepped
    · rename_i item rest held
      simp only [Option.ite_none_left_eq_some, Bool.not_eq_true, Option.some.injEq] at stepped
      obtain ⟨before, rfl⟩ := stepped
      show pipe.accepted = (pipe.written ++ [item]) ++ rest
      rw [ordered before, held, List.append_assoc, List.singleton_append]
    · cases stepped
  | lose =>
    simp only [step] at stepped
    split at stepped
    · simp only [Option.ite_none_right_eq_some, Option.some.injEq] at stepped
      obtain ⟨done, rfl⟩ := stepped
      have both : true = false := done.symm.trans stillOpen
      cases both
    · cases stepped
  | close =>
    cases stepped
    cases stillOpen

theorem ordered {allowed : Pipe α → PipeStep α → Pipe α → Prop}
    (reached : (pipeRuns α).ReachableUnder allowed pipe) : pipe.Ordered := by
  have base (first : Pipe α) (starts : (pipeRuns α).start first) : first.Ordered := by
    cases starts
    exact fun _ => rfl
  exact reached.invariant base fun _ _ _ ordered stepped _ => step_ordered ordered stepped

/-- Closing an open pipe leaves everything accepted written exactly when it was empty. -/
theorem closed_iff (reached : (pipeRuns α).Reachable pipe) (stillOpen : pipe.closed = false)
    (stepped : pipe.step .close = some next) : next.written = next.accepted ↔ pipe.inside = [] := by
  cases stepped
  show pipe.written = pipe.accepted ↔ pipe.inside = []
  rw [ordered reached stillOpen]
  exact List.self_eq_append_right

/-! ### Runs that close an empty pipe -/

/-- A closed pipe is empty and has written everything. -/
def Delivered (pipe : Pipe α) : Prop :=
  pipe.closed = true → pipe.written = pipe.accepted ∧ pipe.inside = []

theorem step_delivered (ordered : pipe.Ordered) (delivered : pipe.Delivered) {call : PipeStep α}
    (stepped : pipe.step call = some next) (closesEmpty : pipe.ClosesEmpty call) :
    next.Delivered := by
  intro done
  cases call with
  | accept item =>
    simp only [step, Option.ite_none_left_eq_some, Option.some.injEq] at stepped
    obtain ⟨stillOpen, rfl⟩ := stepped
    exact absurd done stillOpen
  | write =>
    simp only [step] at stepped
    split at stepped
    · simp only [Option.ite_none_left_eq_some, Option.some.injEq] at stepped
      obtain ⟨stillOpen, rfl⟩ := stepped
      exact absurd done stillOpen
    · cases stepped
  | lose =>
    simp only [step] at stepped
    split at stepped
    · rename_i item rest held
      simp only [Option.ite_none_right_eq_some, Option.some.injEq] at stepped
      have emptied := (delivered stepped.1).2
      rw [held] at emptied
      cases emptied
    · cases stepped
  | close =>
    cases stepped
    have empty : pipe.inside = [] := closesEmpty rfl
    refine ⟨?_, empty⟩
    show pipe.written = pipe.accepted
    cases before : pipe.closed with
    | true => exact (delivered before).1
    | false => rw [ordered before, empty, List.append_nil]

/-- **Nothing is lost** in a run that closes the pipe only when it is empty. -/
theorem delivered
    (reached : (pipeRuns α).ReachableUnder (fun pipe step _ => pipe.ClosesEmpty step) pipe)
    (done : pipe.closed = true) : pipe.written = pipe.accepted := by
  have base (first : Pipe α) (starts : (pipeRuns α).start first) : first.Delivered := by
    cases starts
    exact nofun
  have inv : pipe.Delivered :=
    reached.invariant_with (fun _ before => ordered before) base
      fun _ _ _ ordered inv stepped closesEmpty => step_delivered ordered inv stepped closesEmpty
  exact (inv done).1

end Pipe

end StepMachines
