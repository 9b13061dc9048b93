/-
**What a `connect()` does with the stored connection.** `core/src/websocket/aio/admission.rs` and
`connect_gate.rs`, with any number of tasks in `admit_with` on one gate.

A task's reads of the stored connection, of its client's state and of its record are steps of their
own, so that the stored connection may be replaced, closed or handed over between any two of them.
What a task has read is read off the steps taken (`notesOf`): what was there when it looked.

* `AdmitTask.step` — one step of `admit_with`;
* `admission` — the tasks, and everything else that moves, in any order;
* `admission_exclusive` — one claim at a time, none kept by a task that does not open, and every
  decision on what was there.
-/

import FugleMarketdata.Lib.Gate
import FugleMarketdata.Lib.StepMachine
import FugleMarketdata.Websocket.Event

namespace FugleMarketdata

open StepMachines StepMachine Gates

/-! ### What is stored -/

/-- `Delivered`: how the caller's callbacks were last handed the connection. -/
inductive Delivered where
  | pending
  | authenticated
  | lost
  deriving DecidableEq, Repr

namespace Delivered

/-- Record an event about to be handed to the callbacks. -/
def observe (delivered : Delivered) : ConnectionEvent → Delivered
  | .authenticated _ _ => authenticated
  | .unauthenticated _ _ _ => lost
  | .disconnected _ _ _ _ => lost
  | _ => delivered

/-- The connect that opened the connection succeeded. -/
def connectSucceeded : Delivered → Delivered
  | pending => authenticated
  | delivered => delivered

/-- The connection was last handed over as up. -/
def isAuthenticated (delivered : Delivered) : Bool := delivered == authenticated

end Delivered

/-- The stored connection: its client and its record, each by identity (`Arc::ptr_eq`). -/
structure StoredConnection where
  client : Nat
  delivered : Nat
  deriving DecidableEq, Repr

/-- What the stored connection means for a `connect()`. -/
inductive Stored where
  | replace
  | refuse
  | join (client : Nat)
  deriving DecidableEq, Repr

/-- The errors a wait ends in: nothing is left to wait for (`ClientClosed`, `ConnectionError`), or the
reconnect was stopped, gave up or was refused. -/
inductive WaitError where
  | clientClosed
  | connectionError
  | connectionAborted
  | reconnectFailed (attempts : Nat)
  | authError (msg : String)
  deriving DecidableEq, Repr

/-- The errors of `admit_with`. -/
inductive AdmitError where
  | alreadyConnected
  | wait (error : WaitError)
  deriving DecidableEq, Repr

/-- What `admit_with` decided; the claim `Open` carries is the task's. -/
inductive Admission where
  | opens
  | joined
  deriving DecidableEq, Repr

/-- The end of a join: `true` once the reconnect is up, `false` where nothing is left to wait for. -/
def joinEnded : Except WaitError Unit → Except AdmitError Bool
  | .ok () => .ok true
  | .error .clientClosed => .ok false
  | .error .connectionError => .ok false
  | .error error => .error (.wait error)

/-! ### The tasks -/

/-- Where a task is: before a read of `classify`, before `try_claim`, about to leave with what it read
(dropping its claim, if it has one), in a wait, or returned. -/
inductive AdmitPc where
  | current
  | isClosed (found : StoredConnection)
  | isAuthenticated (found : StoredConnection)
  | tryClaim
  | join (client : Nat)
  | refuse
  | waiting (client : Nat)
  | returned (result : Except AdmitError Admission)
  | released

/-- A task: where it is, the client it gave up waiting on, and whether it holds a claim. -/
structure AdmitTask where
  pc : AdmitPc := .current
  gaveUp : Option Nat := none
  claim : Bool := false

/-- What the tasks share and read. -/
structure Surroundings where
  gate : Bool
  stored : Option StoredConnection
  closed : Nat → Bool
  delivered : Nat → Delivered

namespace AdmitTask

/-- A look has ended: `Replace` needs the claim, and opens under it. -/
def classified (task : AdmitTask) : Stored → AdmitTask
  | .replace =>
    if task.claim then { task with pc := .returned (.ok .opens) } else { task with pc := .tryClaim }
  | .refuse => { task with pc := .refuse }
  | .join client => { task with pc := .join client }

/-- `drop(claim)`: the gate afterwards and the task. -/
def dropClaim (task : AdmitTask) (gate : Bool) : Bool × AdmitTask :=
  if task.claim then (false, { task with claim := false }) else (gate, task)

/-- The task's next step, if it is not waiting or done: the gate afterwards and the task. -/
def step (around : Surroundings) (task : AdmitTask) : Option (Bool × AdmitTask) :=
  match task.pc with
  | .current =>
    match around.stored with
    | none => some (around.gate, task.classified .replace)
    | some found => some (around.gate, { task with pc := .isClosed found })
  | .isClosed found =>
    if around.closed found.client then some (around.gate, task.classified .replace)
    else if task.gaveUp = some found.client then some (around.gate, task.classified .replace)
    else some (around.gate, { task with pc := .isAuthenticated found })
  | .isAuthenticated found =>
    if (around.delivered found.delivered).isAuthenticated then some (around.gate, task.classified .refuse)
    else some (around.gate, task.classified (.join found.client))
  | .tryClaim =>
    if around.gate then
      some (around.gate, { task with pc := .returned (.error .alreadyConnected) })
    else some (true, { task with pc := .current, claim := true })
  | .join client =>
    let (gate, free) := task.dropClaim around.gate
    some (gate, { free with pc := .waiting client })
  | .refuse =>
    let (gate, free) := task.dropClaim around.gate
    some (gate, { free with pc := .returned (.error .alreadyConnected) })
  | .waiting _ => none
  | .returned _ => none
  | .released => none

/-- The wait ends. -/
def ends (result : Except WaitError Unit) (task : AdmitTask) : Option AdmitTask :=
  match task.pc with
  | .waiting client =>
    match joinEnded result with
    | .ok true => some { task with pc := .returned (.ok .joined) }
    | .ok false => some { task with pc := .current, gaveUp := some client }
    | .error error => some { task with pc := .returned (.error error) }
  | _ => none

end AdmitTask

/-! ### The system -/

/-- The tasks, by call, and what they share. -/
structure AdmitWorld where
  around : Surroundings
  tasks : Nat → AdmitTask

/-- A task's step, the end of its wait, the caller dropping the claim of an `Open`; another task
storing a connection, a client's state changing, an event delivered, a connect succeeding. -/
inductive AdmitStep where
  | task (i : Nat)
  | ends (i : Nat) (result : Except WaitError Unit)
  | dropClaim (i : Nat)
  | store (connection : Option StoredConnection)
  | setClosed (client : Nat) (closed : Bool)
  | observe (record : Nat) (event : ConnectionEvent)
  | connectSucceeded (record : Nat)

namespace AdmitWorld

/-- A task has moved. -/
def moved (world : AdmitWorld) (i : Nat) (gate : Bool) (task : AdmitTask) : AdmitWorld where
  around := { world.around with gate }
  tasks := Function.update world.tasks i task

def step (world : AdmitWorld) : AdmitStep → Option AdmitWorld
  | .task i => ((world.tasks i).step world.around).map fun (gate, task) => world.moved i gate task
  | .ends i result => ((world.tasks i).ends result).map (world.moved i world.around.gate)
  | .dropClaim i =>
    match (world.tasks i).pc with
    | .returned (.ok .opens) =>
      let (gate, task) := (world.tasks i).dropClaim world.around.gate
      some (world.moved i gate { task with pc := .released })
    | _ => none
  | .store connection => some { world with around := { world.around with stored := connection } }
  | .setClosed client closed =>
    some { world with
      around := { world.around with closed := Function.update world.around.closed client closed } }
  | .observe record event =>
    some { world with
      around := { world.around with
        delivered := Function.update world.around.delivered record
          ((world.around.delivered record).observe event) } }
  | .connectSucceeded record =>
    some { world with
      around := { world.around with
        delivered := Function.update world.around.delivered record
          (world.around.delivered record).connectSucceeded } }

end AdmitWorld

/-- A free gate and no call under way, whatever is stored. -/
def admission : StepMachine AdmitWorld AdmitStep where
  start := fun world => world.around.gate = false ∧ ∀ i, world.tasks i = {}
  step := AdmitWorld.step

/-! ### What a task has read -/

/-- What was there at a step of a task that looks, and how its wait on a client ended. -/
inductive Note where
  | stored (found : Option StoredConnection)
  | isClosed (client : Nat) (closed : Bool)
  | isAuthenticated (record : Nat) (up : Bool)
  | ended (client : Nat) (result : Except WaitError Unit)

/-- What is there to be read at a task's next step. -/
def AdmitTask.looksAt (around : Surroundings) (task : AdmitTask) : List Note :=
  match task.pc with
  | .current => [.stored around.stored]
  | .isClosed found => [.isClosed found.client (around.closed found.client)]
  | .isAuthenticated found =>
    [.isAuthenticated found.delivered (around.delivered found.delivered).isAuthenticated]
  | _ => []

/-- What a task reads at a step taken. -/
def notesAt (i : Nat) (taken : Taken AdmitWorld AdmitStep) : List Note :=
  match taken.label with
  | .task j => if j = i then (taken.before.tasks i).looksAt taken.before.around else []
  | .ends j result =>
    match (taken.before.tasks i).pc with
    | .waiting client => if j = i then [.ended client result] else []
    | _ => []
  | _ => []

/-- What a task has read. -/
def notesOf (i : Nat) (taken : List (Taken AdmitWorld AdmitStep)) : List Note := taken.flatMap (notesAt i)

/-- The client given up on: the last whose wait ended with nothing left to wait for. -/
def Note.gives (last : Option Nat) : Note → Option Nat
  | ended client result => if joinEnded result = .ok false then some client else last
  | _ => last

def givenUp (notes : List Note) : Option Nat := notes.foldl Note.gives none

/-- A look at the stored connection and what `classify` makes of it, for a task that gave up on
`gaveUp`: absent, closed, or the very client given up on; handed over as up; or neither. -/
inductive Look (gaveUp : Option Nat) : List Note → Stored → Prop
  | absent : Look gaveUp [.stored none] .replace
  | closed (found : StoredConnection) :
      Look gaveUp [.stored (some found), .isClosed found.client true] .replace
  | gaveUp (found : StoredConnection) : gaveUp = some found.client →
      Look gaveUp [.stored (some found), .isClosed found.client false] .replace
  | up (found : StoredConnection) :
      Look gaveUp [.stored (some found), .isClosed found.client false,
        .isAuthenticated found.delivered true] .refuse
  | reconnecting (found : StoredConnection) : gaveUp ≠ some found.client →
      Look gaveUp [.stored (some found), .isClosed found.client false,
        .isAuthenticated found.delivered false] (.join found.client)

variable {i : Nat} {taken : List (Taken AdmitWorld AdmitStep)} {last : Taken AdmitWorld AdmitStep}

/-- The last things a task has read are a look, made with its claim as it is. -/
def LooksUnder (claim : Bool) (i : Nat) (taken : List (Taken AdmitWorld AdmitStep))
    (look : Option Nat → List Note → Prop) : Prop :=
  ∃ earlier since, taken = earlier ++ since ∧ look (givenUp (notesOf i earlier)) (notesOf i since) ∧
    ∀ step ∈ since, (step.before.tasks i).claim = claim

/-- The last things a task has read are a look that found `result`. -/
def Looked (i : Nat) (taken : List (Taken AdmitWorld AdmitStep)) (result : Stored) : Prop :=
  ∃ earlier since, taken = earlier ++ since ∧ Look (givenUp (notesOf i earlier)) (notesOf i since) result

/-- A task has tried to claim the gate while another held it. -/
def Refused (i : Nat) (taken : List (Taken AdmitWorld AdmitStep)) : Prop :=
  ∃ step ∈ taken, step.label = .task i ∧ (step.before.tasks i).pc = .tryClaim ∧
    ∃ j, j ≠ i ∧ (step.before.tasks j).claim = true

@[simp] theorem notesOf_concat (i : Nat) (taken : List (Taken AdmitWorld AdmitStep))
    (last : Taken AdmitWorld AdmitStep) : notesOf i (taken ++ [last]) = notesOf i taken ++ notesAt i last := by
  simp [notesOf]

@[simp] theorem givenUp_append (notes more : List Note) :
    givenUp (notes ++ more) = more.foldl Note.gives (givenUp notes) := List.foldl_append

namespace LooksUnder

variable {claim : Bool} {look next : Option Nat → List Note → Prop}

/-- A look begins. -/
theorem begins (here : (last.before.tasks i).claim = claim)
    (found : look (givenUp (notesOf i taken)) (notesAt i last)) :
    LooksUnder claim i (taken ++ [last]) look := by
  refine ⟨taken, [last], rfl, ?_, fun step member => ?_⟩
  · simpa [notesOf] using found
  · rw [List.mem_singleton.mp member]
    exact here

/-- A look goes on, or nothing is read. -/
theorem goesOn (looks : LooksUnder claim i taken look) (here : (last.before.tasks i).claim = claim)
    (found : ∀ gaveUp notes, look gaveUp notes → next gaveUp (notes ++ notesAt i last)) :
    LooksUnder claim i (taken ++ [last]) next := by
  obtain ⟨earlier, since, rfl, looked, held⟩ := looks
  refine ⟨earlier, since ++ [last], by rw [List.append_assoc], ?_, fun step member => ?_⟩
  · rw [notesOf_concat]
    exact found _ _ looked
  · rcases List.mem_append.mp member with before | new
    · exact held step before
    · rw [List.mem_singleton.mp new]
      exact here

theorem looked {result : Stored} (looks : LooksUnder claim i taken fun gaveUp notes => Look gaveUp notes result) :
    Looked i taken result := by
  obtain ⟨earlier, since, split, found, -⟩ := looks
  exact ⟨earlier, since, split, found⟩

end LooksUnder

/-- Nothing is read. -/
theorem Looked.quiet {result : Stored} (looked : Looked i taken result) (none : notesAt i last = []) :
    Looked i (taken ++ [last]) result := by
  obtain ⟨earlier, since, rfl, found⟩ := looked
  refine ⟨earlier, since ++ [last], by rw [List.append_assoc], ?_⟩
  rw [notesOf_concat, none, List.append_nil]
  exact found

theorem Refused.later (refused : Refused i taken) : Refused i (taken ++ [last]) := by
  obtain ⟨step, member, rest⟩ := refused
  exact ⟨step, List.mem_append_left _ member, rest⟩

/-! ### A task and what it has read -/

namespace AdmitTask

/-- What a task knows where it is. -/
def At (i : Nat) (taken : List (Taken AdmitWorld AdmitStep)) (task : AdmitTask) : Prop :=
  match task.pc with
  | .current => True
  | .isClosed found => LooksUnder task.claim i taken fun gaveUp notes =>
      notes = [.stored (some found)] ∧ gaveUp = task.gaveUp
  | .isAuthenticated found => LooksUnder task.claim i taken fun gaveUp notes =>
      notes = [.stored (some found), .isClosed found.client false] ∧ gaveUp ≠ some found.client
  | .tryClaim => task.claim = false
  | .join client => Looked i taken (.join client)
  | .refuse => Looked i taken .refuse
  | .waiting client => task.claim = false ∧ Looked i taken (.join client)
  | .returned (.ok .opens) => task.claim = true ∧
      LooksUnder true i taken fun gaveUp notes => Look gaveUp notes .replace
  | .returned (.error .alreadyConnected) => task.claim = false ∧ (Looked i taken .refuse ∨ Refused i taken)
  | .returned _ => task.claim = false
  | .released => task.claim = false

/-- A task gave up on what it read, and knows what it read where it is. -/
structure Knows (i : Nat) (taken : List (Taken AdmitWorld AdmitStep)) (task : AdmitTask) : Prop where
  gave : task.gaveUp = givenUp (notesOf i taken)
  here : task.At i taken

/-- What a step does to the gate and the task's claim, each before and after. -/
inductive ClaimEffect (gate before : Bool) : Bool → Bool → Prop
  | kept : ClaimEffect gate before gate before
  | taken : gate = false → ClaimEffect gate before true true
  | given : before = true → ClaimEffect gate before false false

variable {task next : AdmitTask} {around : Surroundings} {gate : Bool}

theorem Knows.fresh (i : Nat) : Knows i [] {} where
  gave := rfl
  here := trivial

/-- A step of somebody else leaves a task what it knows. -/
theorem Knows.beside (knows : task.Knows i taken) (same : last.before.tasks i = task)
    (none : notesAt i last = []) : task.Knows i (taken ++ [last]) where
  gave := by
    rw [notesOf_concat, none, List.append_nil]
    exact knows.gave
  here := by
    have here := knows.here
    have held : (last.before.tasks i).claim = task.claim := congrArg AdmitTask.claim same
    have quiet {look : Option Nat → List Note → Prop} (gaveUp : Option Nat) (notes : List Note)
        (found : look gaveUp notes) : look gaveUp (notes ++ notesAt i last) := by
      rw [none, List.append_nil]
      exact found
    unfold At at here ⊢
    split at here
    · trivial
    · exact here.goesOn held quiet
    · exact here.goesOn held quiet
    · exact here
    · exact here.quiet none
    · exact here.quiet none
    · exact ⟨here.1, here.2.quiet none⟩
    · exact ⟨here.1, here.2.goesOn (held.trans here.1) quiet⟩
    · exact ⟨here.1, here.2.imp (fun looked => looked.quiet none) Refused.later⟩
    · exact here
    · exact here

/-- The end of a look. -/
theorem Knows.classified {result : Stored} (gave : task.gaveUp = givenUp (notesOf i taken))
    (looks : LooksUnder task.claim i taken fun gaveUp notes => Look gaveUp notes result) :
    (task.classified result).Knows i taken := by
  cases result with
  | refuse => exact ⟨gave, looks.looked⟩
  | join client => exact ⟨gave, looks.looked⟩
  | replace =>
    by_cases holds : task.claim = true
    · rw [show task.classified .replace = { task with pc := .returned (.ok .opens) } from if_pos holds]
      exact ⟨gave, holds, holds ▸ looks⟩
    · rw [show task.classified .replace = { task with pc := .tryClaim } from if_neg holds]
      exact ⟨gave, Bool.eq_false_iff.mpr holds⟩

/-- `drop(claim)`: the task holds none. -/
theorem dropClaim_spec (task : AdmitTask) (gate : Bool) :
    (task.dropClaim gate).2 = { task with claim := false } ∧
      ClaimEffect gate task.claim (task.dropClaim gate).1 false := by
  unfold dropClaim
  split
  · rename_i holds
    exact ⟨rfl, .given holds⟩
  · rename_i free
    have none : task.claim = false := Bool.eq_false_iff.mpr free
    obtain ⟨pc, gaveUp, claim⟩ := task
    obtain rfl : claim = false := none
    exact ⟨rfl, .kept⟩

/-- **One step of `admit_with`**: what the task knows after it is what was there, and its claim and the
gate move together. -/
theorem Knows.step (knows : task.Knows i taken) (before : last.before.tasks i = task)
    (surrounded : last.before.around = around) (label : last.label = .task i)
    (held : around.gate = true → task.claim = false →
      ∃ j, j ≠ i ∧ (last.before.tasks j).claim = true)
    (stepped : task.step around = some (gate, next)) :
    next.Knows i (taken ++ [last]) ∧ ClaimEffect around.gate task.claim gate next.claim := by
  have read : notesAt i last = task.looksAt around := by
    simp only [notesAt, label, before, surrounded, if_true]
  have claim : (last.before.tasks i).claim = task.claim := congrArg AdmitTask.claim before
  -- What is read of the connection says nothing of what was given up on.
  have gave : task.gaveUp = givenUp (notesOf i (taken ++ [last])) := by
    have unmoved : (task.looksAt around).foldl Note.gives (givenUp (notesOf i taken)) =
        givenUp (notesOf i taken) := by
      unfold looksAt
      split <;> rfl
    rw [notesOf_concat, givenUp_append, read, unmoved]
    exact knows.gave
  have keepsClaim (result : Stored) : (task.classified result).claim = task.claim := by
    cases result with
    | replace =>
      unfold AdmitTask.classified
      simp only
      split <;> rfl
    | refuse => rfl
    | join client => rfl
  have ends {result : Stored}
      (looks : LooksUnder task.claim i (taken ++ [last]) fun gaveUp notes => Look gaveUp notes result) :
      (task.classified result).Knows i (taken ++ [last]) ∧
        ClaimEffect around.gate task.claim around.gate (task.classified result).claim :=
    ⟨.classified gave looks, keepsClaim result ▸ .kept⟩
  have here := knows.here
  unfold AdmitTask.step at stepped
  unfold At at here
  cases pc : task.pc with
  | current =>
    simp only [looksAt, pc] at read
    simp only [pc] at stepped
    split at stepped <;> rename_i stored <;> cases stepped
    · exact ends (.begins claim (by rw [read, stored]; exact .absent))
    · rename_i found
      have looks : LooksUnder task.claim i (taken ++ [last]) fun gaveUp notes =>
          notes = [.stored (some found)] ∧ gaveUp = task.gaveUp :=
        .begins claim ⟨by rw [read, stored], knows.gave.symm⟩
      exact ⟨⟨gave, looks⟩, .kept⟩
  | isClosed found =>
    simp only [looksAt, pc] at read
    simp only [pc] at stepped here
    cases closed : around.closed found.client with
    | true =>
      simp only [closed, if_true, Option.some.injEq, Prod.mk.injEq] at stepped
      obtain ⟨rfl, rfl⟩ := stepped
      refine ends (here.goesOn claim ?_)
      rintro gaveUp notes ⟨rfl, -⟩
      rw [read, closed]
      exact .closed found
    | false =>
      simp only [closed, Bool.false_eq_true, if_false] at stepped
      split at stepped <;> rename_i gaveUp <;> cases stepped
      · refine ends (here.goesOn claim ?_)
        rintro _ notes ⟨rfl, rfl⟩
        rw [read, closed]
        exact .gaveUp found gaveUp
      · have looks : LooksUnder task.claim i (taken ++ [last]) fun gaveUp notes =>
            notes = [.stored (some found), .isClosed found.client false] ∧ gaveUp ≠ some found.client := by
          refine here.goesOn claim ?_
          rintro _ notes ⟨rfl, rfl⟩
          exact ⟨by rw [read, closed]; rfl, gaveUp⟩
        exact ⟨⟨gave, looks⟩, .kept⟩
  | isAuthenticated found =>
    simp only [looksAt, pc] at read
    simp only [pc] at stepped here
    cases up : (around.delivered found.delivered).isAuthenticated with
    | true =>
      simp only [up, if_true, Option.some.injEq, Prod.mk.injEq] at stepped
      obtain ⟨rfl, rfl⟩ := stepped
      refine ends (here.goesOn claim ?_)
      rintro gaveUp notes ⟨rfl, -⟩
      rw [read, up]
      exact .up found
    | false =>
      simp only [up, Bool.false_eq_true, if_false, Option.some.injEq, Prod.mk.injEq] at stepped
      obtain ⟨rfl, rfl⟩ := stepped
      refine ends (here.goesOn claim ?_)
      rintro gaveUp notes ⟨rfl, other⟩
      rw [read, up]
      exact .reconnecting found other
  | tryClaim =>
    simp only [pc] at stepped here
    split at stepped <;> rename_i busy <;> cases stepped
    · refine ⟨⟨gave, here, .inr ⟨last, by simp, label, ?_, held busy here⟩⟩, .kept⟩
      rw [before, pc]
    · exact ⟨⟨gave, trivial⟩, .taken (Bool.eq_false_iff.mpr busy)⟩
  | join client =>
    simp only [looksAt, pc] at read
    simp only [pc] at stepped here
    obtain ⟨free, effect⟩ := dropClaim_spec task around.gate
    simp only [Option.some.injEq, Prod.mk.injEq] at stepped
    obtain ⟨rfl, rfl⟩ := stepped
    rw [free]
    exact ⟨⟨gave, rfl, here.quiet read⟩, effect⟩
  | refuse =>
    simp only [looksAt, pc] at read
    simp only [pc] at stepped here
    obtain ⟨free, effect⟩ := dropClaim_spec task around.gate
    simp only [Option.some.injEq, Prod.mk.injEq] at stepped
    obtain ⟨rfl, rfl⟩ := stepped
    rw [free]
    exact ⟨⟨gave, rfl, .inl (here.quiet read)⟩, effect⟩
  | waiting client => simp only [pc, reduceCtorEq] at stepped
  | returned result => simp only [pc, reduceCtorEq] at stepped
  | released => simp only [pc, reduceCtorEq] at stepped

/-- The end of a wait leaves the task without a claim. -/
theorem Knows.ends {result : Except WaitError Unit} (knows : task.Knows i taken)
    (before : last.before.tasks i = task) (label : last.label = .ends i result)
    (ended : task.ends result = some next) :
    next.Knows i (taken ++ [last]) ∧ next.claim = task.claim := by
  have here := knows.here
  unfold AdmitTask.ends at ended
  unfold At at here
  cases pc : task.pc with
  | waiting client =>
    simp only [pc] at ended here
    have read : notesAt i last = [.ended client result] := by
      simp only [notesAt, label, before, pc, if_true]
    have gave : givenUp (notesOf i (taken ++ [last])) =
        if joinEnded result = .ok false then some client else task.gaveUp := by
      rw [notesOf_concat, givenUp_append, read, knows.gave]
      rfl
    split at ended <;> rename_i told <;> cases ended
    · exact ⟨⟨by rw [gave, told]; rfl, here.1⟩, rfl⟩
    · exact ⟨⟨by rw [gave, told]; rfl, trivial⟩, rfl⟩
    · rename_i error
      refine ⟨⟨by rw [gave, told]; rfl, ?_⟩, rfl⟩
      cases error with
      | wait error => exact here.1
      | alreadyConnected =>
        unfold joinEnded at told
        split at told <;> cases told
  | _ => simp only [pc, reduceCtorEq] at ended

/-- The caller drops the claim of its `Open`. -/
theorem Knows.release (knows : task.Knows i taken) (none : notesAt i last = []) (gate : Bool) :
    { (task.dropClaim gate).2 with pc := .released : AdmitTask }.Knows i (taken ++ [last]) ∧
      ClaimEffect gate task.claim (task.dropClaim gate).1 false := by
  obtain ⟨free, effect⟩ := dropClaim_spec task gate
  rw [free]
  refine ⟨⟨?_, rfl⟩, effect⟩
  rw [notesOf_concat, none, List.append_nil]
  exact knows.gave

end AdmitTask

/-! ### Every run -/

namespace AdmitWorld

/-- The tasks know what they read, and share one gate. -/
structure Inv (world : AdmitWorld) (taken : List (Taken AdmitWorld AdmitStep)) : Prop where
  knows : ∀ i, (world.tasks i).Knows i taken
  gated : Gated world.around.gate fun i => (world.tasks i).claim

/-- A task that treats the gate as one may has moved. -/
theorem Inv.moved {world : AdmitWorld} (inv : world.Inv taken) {gate : Bool} {task : AdmitTask}
    (before : last.before = world) (knows : task.Knows i (taken ++ [last]))
    (elsewhere : ∀ j, j ≠ i → notesAt j last = [])
    (effect : AdmitTask.ClaimEffect world.around.gate (world.tasks i).claim gate task.claim) :
    (world.moved i gate task).Inv (taken ++ [last]) := by
  have others (j : Nat) (other : j ≠ i) : (world.moved i gate task).tasks j = world.tasks j :=
    Function.update_of_ne other _ _
  have self : (world.moved i gate task).tasks i = task := Function.update_self i _ _
  refine ⟨fun j => ?_, ?_⟩
  · by_cases same : j = i
    · rw [same, self]
      exact knows
    · rw [others j same]
      exact (inv.knows j).beside (by rw [before]) (elsewhere j same)
  · have kept (j : Nat) (other : j ≠ i) :
        ((world.moved i gate task).tasks j).claim = (world.tasks j).claim := by rw [others j other]
    have own : ((world.moved i gate task).tasks i).claim = task.claim := by rw [self]
    have gated := inv.gated
    show Gated gate fun j => ((world.moved i gate task).tasks j).claim
    generalize task.claim = after at effect own
    cases effect with
    | kept =>
      refine gated.congr fun j => ?_
      by_cases same : j = i
      · rw [same]
        exact own
      · exact kept j same
    | taken free =>
      rw [free] at gated
      exact gated.claim i own kept
    | given held => exact gated.release held own kept

/-- What everybody reads changes, and nobody reads. -/
theorem Inv.around {world : AdmitWorld} (inv : world.Inv taken) {around : Surroundings}
    (before : last.before = world) (gate : around.gate = world.around.gate)
    (quiet : ∀ j, notesAt j last = []) : Inv { world with around } (taken ++ [last]) where
  knows := fun j => (inv.knows j).beside (by rw [before]) (quiet j)
  gated := by
    show Gated around.gate _
    rw [gate]
    exact inv.gated

theorem Inv.step {world next : AdmitWorld} {label : AdmitStep} (inv : world.Inv taken)
    (stepped : world.step label = some next) (before : last.before = world)
    (labelled : last.label = label) : next.Inv (taken ++ [last]) := by
  have same (i : Nat) : last.before.tasks i = world.tasks i := by rw [before]
  cases label with
  | task i =>
    obtain ⟨⟨gate, task⟩, moves, rfl⟩ := Option.map_eq_some_iff.mp stepped
    have held (busy : world.around.gate = true) (free : (world.tasks i).claim = false) :
        ∃ j, j ≠ i ∧ (last.before.tasks j).claim = true := by
      have gated := inv.gated
      rw [busy] at gated
      rw [before]
      exact gated.other free
    obtain ⟨knows, effect⟩ := (inv.knows i).step (same i) (by rw [before]) labelled held moves
    refine inv.moved before knows (fun j other => ?_) effect
    simp only [notesAt, labelled, if_neg fun here => other (here : i = j).symm]
  | ends i result =>
    obtain ⟨task, ended, rfl⟩ := Option.map_eq_some_iff.mp stepped
    obtain ⟨knows, kept⟩ := (inv.knows i).ends (same i) labelled ended
    refine inv.moved before knows (fun j other => ?_) (kept ▸ .kept)
    simp only [notesAt, labelled, if_neg fun here => other (here : i = j).symm]
    split <;> rfl
  | dropClaim i =>
    have quiet (j : Nat) : notesAt j last = [] := by simp only [notesAt, labelled]
    simp only [AdmitWorld.step] at stepped
    split at stepped
    · cases stepped
      obtain ⟨knows, effect⟩ := (inv.knows i).release (quiet i) world.around.gate
      obtain ⟨free, -⟩ := AdmitTask.dropClaim_spec (world.tasks i) world.around.gate
      refine inv.moved before knows (fun j _ => quiet j) ?_
      rw [free]
      exact effect
    · cases stepped
  | store connection =>
    cases stepped
    exact inv.around before rfl fun _ => by simp only [notesAt, labelled]
  | setClosed client closed =>
    cases stepped
    exact inv.around before rfl fun _ => by simp only [notesAt, labelled]
  | observe record event =>
    cases stepped
    exact inv.around before rfl fun _ => by simp only [notesAt, labelled]
  | connectSucceeded record =>
    cases stepped
    exact inv.around before rfl fun _ => by simp only [notesAt, labelled]

theorem reachable_inv {world : AdmitWorld} (reached : admission.recorded.Reachable (world, taken)) :
    world.Inv taken := by
  refine recorded_invariant (fun first starts => ?_) (fun _ _ _ _ _ inv stepped => inv.step stepped rfl rfl)
    reached
  obtain ⟨free, fresh⟩ := starts
  refine ⟨fun i => by rw [fresh i]; exact .fresh i, ?_⟩
  rw [free]
  exact Gated.free.congr fun i => by rw [fresh i]

end AdmitWorld

/-- **One connect is admitted at a time, and no gate is leaked.** In every run of any number of calls of
`admit_with` on one gate: at most one holds a claim, and the gate is taken exactly while one does; `Open`
is returned under the claim, after a look made under it when there was nothing to keep; a task waits
without a claim, on a client that was stored, open and not handed over as up when it looked; what returns
anything but `Open` leaves no claim; and `AlreadyConnected` is returned where the stored connection was
handed over as up when it looked, or where another task held the claim it tried to take. -/
theorem admission_exclusive {world : AdmitWorld}
    (reached : admission.recorded.Reachable (world, taken)) :
    (∀ i j, (world.tasks i).claim = true → (world.tasks j).claim = true → i = j) ∧
    (world.around.gate = true ↔ ∃ i, (world.tasks i).claim = true) ∧
    ∀ i,
      let task := world.tasks i
      (task.pc = .returned (.ok .opens) → task.claim = true ∧
        LooksUnder true i taken fun gaveUp notes => Look gaveUp notes .replace) ∧
      (∀ client, task.pc = .waiting client → task.claim = false ∧ Looked i taken (.join client)) ∧
      (∀ result, task.pc = .returned result → result ≠ .ok .opens → task.claim = false) ∧
      (task.pc = .returned (.error .alreadyConnected) → Looked i taken .refuse ∨ Refused i taken) := by
  have inv := AdmitWorld.reachable_inv reached
  refine ⟨inv.gated.unique, inv.gated.busy_iff, fun i => ?_⟩
  intro task
  have here : task.At i taken := (inv.knows i).here
  unfold AdmitTask.At at here
  refine ⟨fun pc => ?_, fun client pc => ?_, fun result pc other => ?_, fun pc => ?_⟩
  · rw [pc] at here
    exact here
  · rw [pc] at here
    exact here
  · rw [pc] at here
    match result, here with
    | .ok .opens, _ => exact absurd rfl other
    | .ok .joined, free => exact free
    | .error .alreadyConnected, free => exact free.1
    | .error (.wait _), free => exact free
  · rw [pc] at here
    exact here.2

/-- A client is stored whose reconnect is under way, and a call waits on it. It comes up, and a second call
is refused; it closes, and a third call opens. -/
def waitedRefusedOpened : List AdmitStep :=
  [.store (some { client := 7, delivered := 1 }), .task 0, .task 0, .task 0, .task 0,
    .observe 1 (.authenticated .null ""), .task 1, .task 1, .task 1, .task 1, .setClosed 7 true,
    .task 2, .task 2, .task 2, .task 2, .task 2]

def AdmitWorld.empty : AdmitWorld where
  around :=
    { gate := false
      stored := none
      closed := fun _ => false
      delivered := fun _ => .pending }
  tasks := fun _ => {}

theorem admission_exclusive_waitedRefusedOpened : ∃ world taken,
    admission.recorded.run (.empty, []) waitedRefusedOpened = some (world, taken) ∧
      (world.tasks 0).pc = .waiting 7 ∧ Looked 0 taken (.join 7) ∧
      (world.tasks 1).pc = .returned (.error .alreadyConnected) ∧
      (Looked 1 taken .refuse ∨ Refused 1 taken) ∧
      (world.tasks 2).pc = .returned (.ok .opens) ∧
      LooksUnder true 2 taken fun gaveUp notes => Look gaveUp notes .replace := by
  have runs : ∃ world taken,
      admission.recorded.run (.empty, []) waitedRefusedOpened = some (world, taken) ∧
        (world.tasks 0).pc = .waiting 7 ∧ (world.tasks 1).pc = .returned (.error .alreadyConnected) ∧
        (world.tasks 2).pc = .returned (.ok .opens) := ⟨_, _, rfl, rfl, rfl, rfl⟩
  obtain ⟨world, taken, ran, waits, refused, opened⟩ := runs
  have start : admission.recorded.Reachable (.empty, []) := .init _ ⟨⟨rfl, fun _ => rfl⟩, rfl⟩
  obtain ⟨-, -, tasks⟩ := admission_exclusive (reachable_of_run waitedRefusedOpened start ran)
  exact ⟨world, taken, ran, waits, ((tasks 0).2.1 7 waits).2, refused, (tasks 1).2.2.2 refused, opened,
    ((tasks 2).1 opened).2⟩

end FugleMarketdata
