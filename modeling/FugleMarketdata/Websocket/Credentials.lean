/-
**Credentials that change while clients live.** `core/src/websocket/credentials.rs`, and what the clients do
with it: `set_credentials`, `use_credentials_handle`, and the credential each connection attempt sends.

A handle is a cell that its clones share; a client's slot holds a handle and may be given another. A call
first takes the handle out of the slot, under the slot's lock, and then reads or replaces what the handle
holds, under the handle's; anything may happen between the two.

* `CredentialRun`, `credentialRuns` — handles, slots and calls, in any order;
* `credentials_current` — an attempt sends what the handle held that its client's slot held while the
  attempt ran; a new credential keeps the heartbeat interval of the handle;
* `credentials_valid` — no attempt sends a blank or an ambiguous credential, though only a `connect` checks,
  as long as no client is given a handle that holds one.
-/

import FugleMarketdata.Lib.Registers
import FugleMarketdata.Lib.StepMachine
import FugleMarketdata.Lib.Trace
import FugleMarketdata.Models.Credentials

namespace FugleMarketdata

open StepMachines StepMachine Registers Traces

/-! ### The parties -/

/-- What a call is to do: `set_credentials`, or a connection attempt. -/
inductive CredentialWork where
  | set (auth : Auth)
  | connect
  | reconnect
  deriving DecidableEq, Repr

/-- Where a call is: about to take the handle out of the slot, about to use it, or through. -/
inductive CredentialStage where
  | atSlot
  | atHandle (moment handle : Nat)
  | done
  deriving DecidableEq, Repr

/-- A call on a client. -/
structure CredentialCall where
  client : Nat
  work : CredentialWork
  beganSlots : Nat
  beganHandles : Nat
  stage : CredentialStage
  deriving DecidableEq, Repr

/-- The credential of an attempt: the handle, when it was taken out of the slot, and what it held when it
was read. -/
structure SentCredential where
  call : CredentialCall
  slotMoment : Nat
  handle : Nat
  handleMoment : Nat
  auth : AuthRequest
  deriving DecidableEq, Repr

/-- The handles and the clients' slots, with the history of each; whether a `connect` of a client has
passed its check; the calls, and what their attempts send. -/
structure CredentialRun where
  handles : List AuthRequest := []
  slots : List Nat := []
  checked : List Bool := []
  calls : List CredentialCall := []
  sent : List SentCredential := []
  handleWrites : List (Nat × AuthRequest) := []
  slotWrites : List (Nat × Nat) := []
  deriving DecidableEq, Repr

inductive CredentialLabel where
  | newHandle (auth : AuthRequest)
  | newClient (auth : AuthRequest)
  | setHandle (handle : Nat) (auth : Auth)
  | useHandle (client handle : Nat)
  | call (client : Nat) (work : CredentialWork)
  | takeHandle (call : Nat)
  | useTaken (call : Nat)
  deriving DecidableEq, Repr

/-! ### The steps -/

namespace CredentialRun

variable (run : CredentialRun)

/-- One more handle. -/
def addHandle (auth : AuthRequest) : CredentialRun :=
  { run with
    handles := run.handles ++ [auth]
    handleWrites := run.handleWrites ++ [(run.handles.length, auth)] }

/-- A handle is given another credential. -/
def replace (handle : Nat) (next : AuthRequest) : CredentialRun :=
  { run with
    handles := run.handles.set handle next
    handleWrites := run.handleWrites ++ [(handle, next)] }

/-- `CredentialsHandle::set`: a blank credential changes nothing. -/
def set (handle : Nat) (auth : Auth) : Option CredentialRun := do
  let current ← run.handles[handle]?
  match auth.validate with
  | .error _ => some run
  | .ok () =>
    let next := { AuthRequest.ofAuth auth with heartbeatIntervalMs := current.heartbeatIntervalMs }
    some (run.replace handle next)

/-- The handle of a slot. -/
def useHandle (client handle : Nat) : Option CredentialRun :=
  if client < run.slots.length ∧ handle < run.handles.length then
    some { run with
      slots := run.slots.set client handle
      slotWrites := run.slotWrites ++ [(client, handle)] }
  else none

/-- An attempt reads the handle and sends what it holds; a `connect` checks that first. -/
def send (call : CredentialCall) (slotMoment handle : Nat) (auth : AuthRequest) : CredentialRun :=
  { run with sent := run.sent ++ [{
      call, slotMoment, handle, handleMoment := run.handleWrites.length, auth }] }

/-- What a call does with the handle it took. -/
def perform (call : CredentialCall) (moment handle : Nat) : Option CredentialRun := do
  let auth ← run.handles[handle]?
  match call.work with
  | .set credential => run.set handle credential
  | .connect =>
    match auth.validate with
    | .error _ => some run
    | .ok () => some { run.send call moment handle auth with checked := run.checked.set call.client true }
  | .reconnect => some (run.send call moment handle auth)

end CredentialRun

/-- One of the parties moves. A client reconnects by itself only after a `connect` that passed its check. -/
def credentialStep (run : CredentialRun) : CredentialLabel → Option CredentialRun
  | .newHandle auth =>
    match auth.validate with
    | .error _ => some run
    | .ok () => some (run.addHandle auth)
  | .newClient auth =>
    some { run.addHandle auth with
      slots := run.slots ++ [run.handles.length]
      checked := run.checked ++ [false]
      slotWrites := run.slotWrites ++ [(run.slots.length, run.handles.length)] }
  | .setHandle handle auth => run.set handle auth
  | .useHandle client handle => run.useHandle client handle
  | .call client work =>
    if client < run.slots.length ∧ (work = .reconnect → run.checked[client]? = some true) then
      some { run with calls := run.calls ++ [{
        client := client
        work := work
        beganSlots := run.slotWrites.length
        beganHandles := run.handleWrites.length
        stage := .atSlot }] }
    else none
  | .takeHandle position => do
    let call ← run.calls[position]?
    let handle ← run.slots[call.client]?
    if call.stage = .atSlot then
      let taken := { call with stage := .atHandle run.slotWrites.length handle }
      some { run with calls := run.calls.set position taken }
    else none
  | .useTaken position => do
    let call ← run.calls[position]?
    match call.stage with
    | .atHandle moment handle =>
      let run := { run with calls := run.calls.set position { call with stage := .done } }
      run.perform call moment handle
    | _ => none

/-- Handles, clients and calls in any order of steps. -/
def credentialRuns : StepMachine CredentialRun CredentialLabel where
  start run := run = {}
  step := credentialStep

/-! ### What is written where -/

/-- A credential that a `connect` would send. -/
def AuthRequest.Valid (request : AuthRequest) : Prop := request.validate = .ok ()

instance (request : AuthRequest) : Decidable request.Valid :=
  decidable_of_iff (request.validate.isOk = true) (by
    unfold AuthRequest.Valid
    cases request.validate with
    | ok _ => exact iff_of_true rfl rfl
    | error _ => exact iff_of_false (fun same => by cases same) (fun same => by cases same))

theorem AuthRequest.ofAuth_valid {auth : Auth} (counts : auth.validate = .ok ())
    (interval : Option Nat) :
    ({ AuthRequest.ofAuth auth with heartbeatIntervalMs := interval } : AuthRequest).Valid := by
  have carries : (AuthRequest.ofAuth auth).Carries auth :=
    AuthRequest.ofAuth_carries.mpr ⟨rfl, auth.validate_ok_iff.mp counts⟩
  exact (AuthRequest.validate_ok_iff _).mpr ⟨auth, carries⟩

/-- `set` is refused, or replaces what the handle holds by a credential with the interval it had. -/
theorem CredentialRun.set_cases {run next : CredentialRun} {handle : Nat} {auth : Auth}
    (stepped : run.set handle auth = some next) : next = run ∨ ∃ current replaced,
      run.handles[handle]? = some current ∧ replaced.heartbeatIntervalMs = current.heartbeatIntervalMs ∧
      replaced.Valid ∧ next = run.replace handle replaced := by
  obtain ⟨current, there, stepped⟩ := Option.bind_eq_some_iff.mp stepped
  cases counts : auth.validate with
  | error err =>
    rw [counts] at stepped
    cases stepped
    exact .inl rfl
  | ok _ =>
    rw [counts] at stepped
    cases stepped
    exact .inr ⟨current,
      { AuthRequest.ofAuth auth with heartbeatIntervalMs := current.heartbeatIntervalMs }, there, rfl,
      AuthRequest.ofAuth_valid counts _, rfl⟩

/-- What a call does with the handle it took: `set`, nothing, or a send. -/
inductive Performs (run : CredentialRun) (call : CredentialCall) (moment handle : Nat) :
    CredentialRun → Prop
  | set {credential : Auth} {next : CredentialRun} (stepped : run.set handle credential = some next) :
      Performs run call moment handle next
  | refused : Performs run call moment handle run
  | connects {auth : AuthRequest} (there : run.handles[handle]? = some auth)
      (work : call.work = .connect) (valid : auth.Valid) : Performs run call moment handle
        { run.send call moment handle auth with checked := run.checked.set call.client true }
  | reconnects {auth : AuthRequest} (there : run.handles[handle]? = some auth)
      (work : call.work = .reconnect) : Performs run call moment handle (run.send call moment handle auth)

theorem CredentialRun.perform_cases {run next : CredentialRun} {call : CredentialCall}
    {moment handle : Nat} (stepped : run.perform call moment handle = some next) :
    Performs run call moment handle next := by
  obtain ⟨auth, there, stepped⟩ := Option.bind_eq_some_iff.mp stepped
  cases work : call.work with
  | set credential =>
    rw [work] at stepped
    exact .set stepped
  | connect =>
    rw [work] at stepped
    cases valid : auth.validate with
    | error err =>
      simp only [valid] at stepped
      cases stepped
      exact .refused
    | ok _ =>
      simp only [valid] at stepped
      cases stepped
      exact .connects there work valid
  | reconnect =>
    rw [work] at stepped
    cases stepped
    exact .reconnects there work

/-- What a handle holds after its first value: another credential that counts, the interval as it was. -/
def Renewed (earlier : List (Nat × AuthRequest)) (write : Nat × AuthRequest) : Prop :=
  ∀ prior, (write.1, prior) ∈ earlier →
    write.2.heartbeatIntervalMs = prior.heartbeatIntervalMs ∧ write.2.Valid

/-- A call since it began. -/
structure CallBooked (slotWrites : List (Nat × Nat)) (handleWrites : List (Nat × AuthRequest))
    (call : CredentialCall) : Prop where
  slots : call.beganSlots ≤ slotWrites.length
  handles : call.beganHandles ≤ handleWrites.length
  took : ∀ moment handle, call.stage = .atHandle moment handle →
    call.beganSlots ≤ moment ∧ moment ≤ slotWrites.length ∧
      heldAt slotWrites moment call.client = some handle

/-- What an attempt sent: what the handle held that the slot held, both read since the attempt began. -/
structure SentBooked (slotWrites : List (Nat × Nat)) (handleWrites : List (Nat × AuthRequest))
    (entry : SentCredential) : Prop where
  slot : entry.call.beganSlots ≤ entry.slotMoment ∧ entry.slotMoment ≤ slotWrites.length ∧
    heldAt slotWrites entry.slotMoment entry.call.client = some entry.handle
  handle : entry.call.beganHandles ≤ entry.handleMoment ∧ entry.handleMoment ≤ handleWrites.length ∧
    heldAt handleWrites entry.handleMoment entry.handle = some entry.auth
  checked : entry.call.work = .connect → entry.auth.Valid

section Later

variable {slotWrites : List (Nat × Nat)} {handleWrites : List (Nat × AuthRequest)}
  (moreSlots : List (Nat × Nat)) (moreHandles : List (Nat × AuthRequest))

theorem CallBooked.later {call : CredentialCall} (booked : CallBooked slotWrites handleWrites call) :
    CallBooked (slotWrites ++ moreSlots) (handleWrites ++ moreHandles) call where
  slots := booked.slots.trans (by simp)
  handles := booked.handles.trans (by simp)
  took moment handle at_ := by
    obtain ⟨since, past, held⟩ := booked.took moment handle at_
    refine ⟨since, past.trans (by simp), ?_⟩
    rw [heldAt_append past, held]

theorem SentBooked.later {entry : SentCredential} (booked : SentBooked slotWrites handleWrites entry) :
    SentBooked (slotWrites ++ moreSlots) (handleWrites ++ moreHandles) entry where
  slot := by
    obtain ⟨since, past, held⟩ := booked.slot
    refine ⟨since, past.trans (by simp), ?_⟩
    rw [heldAt_append past, held]
  handle := by
    obtain ⟨since, past, held⟩ := booked.handle
    refine ⟨since, past.trans (by simp), ?_⟩
    rw [heldAt_append past, held]
  checked := booked.checked

end Later

/-- In every order: handles and slots hold what was written, and the calls and the attempts read it. -/
structure CredentialBooks (run : CredentialRun) : Prop where
  handles : Agrees run.handles run.handleWrites
  slots : Agrees run.slots run.slotWrites
  points : ∀ write ∈ run.slotWrites, write.2 < run.handles.length
  written : Throughout Renewed run.handleWrites
  calls : ∀ call ∈ run.calls, CallBooked run.slotWrites run.handleWrites call
  sent : ∀ entry ∈ run.sent, SentBooked run.slotWrites run.handleWrites entry

namespace CredentialBooks

variable {run next : CredentialRun}

theorem start : CredentialBooks {} where
  handles := Agrees.nil
  slots := Agrees.nil
  points _ member := by cases member
  written := Throughout.nil
  calls _ member := by cases member
  sent _ member := by cases member

/-- A handle is written, one that was there or one more. -/
theorem writesHandle (books : CredentialBooks run) {handles : List AuthRequest} {handle : Nat}
    {auth : AuthRequest} (agrees : Agrees handles (run.handleWrites ++ [(handle, auth)]))
    (longer : run.handles.length ≤ handles.length) (renewed : Renewed run.handleWrites (handle, auth)) :
    CredentialBooks { run with handles, handleWrites := run.handleWrites ++ [(handle, auth)] } where
  handles := agrees
  slots := books.slots
  points write member := Nat.lt_of_lt_of_le (books.points write member) longer
  written := books.written.concat renewed
  calls call member := by
    have later := (books.calls call member).later [] [(handle, auth)]
    rwa [List.append_nil] at later
  sent entry member := by
    have later := (books.sent entry member).later [] [(handle, auth)]
    rwa [List.append_nil] at later

/-- A slot is written, one that was there or one more. -/
theorem writesSlot (books : CredentialBooks run) {slots : List Nat} {client handle : Nat}
    (agrees : Agrees slots (run.slotWrites ++ [(client, handle)])) (inside : handle < run.handles.length)
    (checked : List Bool) :
    CredentialBooks { run with slots, checked, slotWrites := run.slotWrites ++ [(client, handle)] } where
  handles := books.handles
  slots := agrees
  points write member := by
    rcases List.mem_append.mp member with before | last
    · exact books.points write before
    · rw [List.mem_singleton.mp last]
      exact inside
  written := books.written
  calls call member := by
    have later := (books.calls call member).later [(client, handle)] []
    rwa [List.append_nil] at later
  sent entry member := by
    have later := (books.sent entry member).later [(client, handle)] []
    rwa [List.append_nil] at later

/-- Only the calls changed. -/
theorem withCalls (books : CredentialBooks run) {calls : List CredentialCall}
    (each : ∀ call ∈ calls, CallBooked run.slotWrites run.handleWrites call) :
    CredentialBooks { run with calls } :=
  ⟨books.handles, books.slots, books.points, books.written, each, books.sent⟩

theorem addHandle (books : CredentialBooks run) (auth : AuthRequest) :
    CredentialBooks (run.addHandle auth) := by
  refine books.writesHandle (books.handles.push auth) (by simp) fun prior member => ?_
  -- nothing was written to a handle that is not there yet
  obtain ⟨last, holds⟩ := exists_held_of_mem member
  rw [← books.handles, List.getElem?_eq_none (Nat.le_refl _)] at holds
  cases holds

/-- What a handle holds has the interval of everything it ever held. -/
theorem interval (books : CredentialBooks run) {handle : Nat} {current prior : AuthRequest}
    (there : run.handles[handle]? = some current) (member : (handle, prior) ∈ run.handleWrites) :
    current.heartbeatIntervalMs = prior.heartbeatIntervalMs := by
  rw [books.handles] at there
  obtain ⟨before, behind, whole, others⟩ := held_eq_some.mp there
  rw [whole] at member
  rcases List.mem_append.mp member with earlier | later
  · exact (books.written before _ behind whole prior earlier).1
  · rcases List.mem_cons.mp later with same | further
    · cases same
      rfl
    · exact absurd rfl (others _ further)

theorem replace (books : CredentialBooks run) {handle : Nat} {current replaced : AuthRequest}
    (there : run.handles[handle]? = some current)
    (interval : replaced.heartbeatIntervalMs = current.heartbeatIntervalMs) (valid : replaced.Valid) :
    CredentialBooks (run.replace handle replaced) := by
  have inside := (List.getElem?_eq_some_iff.mp there).1
  refine books.writesHandle (books.handles.set inside replaced) (by simp) fun prior member => ⟨?_, valid⟩
  exact interval.trans (books.interval there member)

theorem set (books : CredentialBooks run) {handle : Nat} {auth : Auth}
    (stepped : run.set handle auth = some next) : CredentialBooks next := by
  rcases CredentialRun.set_cases stepped with rfl | ⟨current, replaced, there, interval, valid, rfl⟩
  · exact books
  · exact books.replace there interval valid

theorem send (books : CredentialBooks run) {call : CredentialCall} {moment handle : Nat}
    {auth : AuthRequest} (booked : CallBooked run.slotWrites run.handleWrites call)
    (took : call.beganSlots ≤ moment ∧ moment ≤ run.slotWrites.length ∧
      heldAt run.slotWrites moment call.client = some handle)
    (there : run.handles[handle]? = some auth) (checked : call.work = .connect → auth.Valid) :
    CredentialBooks (run.send call moment handle auth) := by
  refine ⟨books.handles, books.slots, books.points, books.written, books.calls, fun entry member => ?_⟩
  rcases List.mem_append.mp member with before | last
  · exact books.sent entry before
  · rw [List.mem_singleton.mp last]
    refine ⟨took, ⟨booked.handles, Nat.le_refl _, ?_⟩, checked⟩
    show heldAt run.handleWrites run.handleWrites.length handle = some auth
    rw [heldAt_length, ← books.handles, there]

theorem perform (books : CredentialBooks run) {call : CredentialCall} {moment handle : Nat}
    (booked : CallBooked run.slotWrites run.handleWrites call)
    (took : call.beganSlots ≤ moment ∧ moment ≤ run.slotWrites.length ∧
      heldAt run.slotWrites moment call.client = some handle)
    (stepped : run.perform call moment handle = some next) : CredentialBooks next := by
  cases CredentialRun.perform_cases stepped with
  | set stepped => exact books.set stepped
  | refused => exact books
  | connects there work valid =>
    have sends := books.send booked took there fun _ => valid
    exact ⟨sends.handles, sends.slots, sends.points, sends.written, sends.calls, sends.sent⟩
  | reconnects there work =>
    refine books.send booked took there fun connects => ?_
    rw [work] at connects
    cases connects

/-- **The books agree in every order of steps.** -/
theorem reached {run : CredentialRun} (reached : credentialRuns.Reachable run) : CredentialBooks run := by
  have base : ∀ run, credentialRuns.start run → CredentialBooks run := by
    rintro run rfl
    exact start
  refine reached.invariant base fun run label next books stepped => ?_
  simp only [credentialRuns] at stepped
  cases label with
  | newHandle auth =>
    simp only [credentialStep] at stepped
    split at stepped
    · cases stepped
      exact books
    · cases stepped
      exact books.addHandle auth
  | newClient auth =>
    cases stepped
    have more := books.addHandle auth
    refine more.writesSlot (more.slots.push _) ?_ _
    show run.handles.length < (run.handles ++ [auth]).length
    simp
  | setHandle handle auth => exact books.set stepped
  | useHandle client handle =>
    obtain ⟨inside, stepped⟩ := Option.ite_none_right_eq_some.mp stepped
    cases stepped
    exact books.writesSlot (books.slots.set inside.1 handle) inside.2 run.checked
  | call client work =>
    obtain ⟨-, stepped⟩ := Option.ite_none_right_eq_some.mp stepped
    cases stepped
    refine books.withCalls fun call member => ?_
    rcases List.mem_append.mp member with before | last
    · exact books.calls call before
    · rw [List.mem_singleton.mp last]
      exact ⟨Nat.le_refl _, Nat.le_refl _, fun _ _ at_ => by cases at_⟩
  | takeHandle position =>
    obtain ⟨call, there, stepped⟩ := Option.bind_eq_some_iff.mp stepped
    obtain ⟨handle, slot, stepped⟩ := Option.bind_eq_some_iff.mp stepped
    obtain ⟨-, stepped⟩ := Option.ite_none_right_eq_some.mp stepped
    cases stepped
    have booked := books.calls call (List.mem_of_getElem? there)
    refine books.withCalls fun other member => ?_
    rcases List.mem_or_eq_of_mem_set member with before | rfl
    · exact books.calls other before
    · refine ⟨booked.slots, booked.handles, fun moment taken at_ => ?_⟩
      cases at_
      refine ⟨booked.slots, Nat.le_refl _, ?_⟩
      rw [heldAt_length, ← books.slots, slot]
  | useTaken position =>
    obtain ⟨call, there, stepped⟩ := Option.bind_eq_some_iff.mp stepped
    have booked := books.calls call (List.mem_of_getElem? there)
    split at stepped
    · rename_i moment handle at_
      have done : CredentialBooks { run with
          calls := run.calls.set position { call with stage := .done } } := by
        refine books.withCalls fun other member => ?_
        rcases List.mem_or_eq_of_mem_set member with before | rfl
        · exact books.calls other before
        · exact ⟨booked.slots, booked.handles, fun _ _ through => by cases through⟩
      exact done.perform booked (booked.took moment handle at_) stepped
    · cases stepped

end CredentialBooks

/-! ### Which credential is sent -/

/-- **An attempt sends the credential last set**: on the handle that its client's slot held, both read
while the attempt runs. It carries the heartbeat interval the handle was made with, whatever was set on it
since; and a handle that was given a credential holds one that counts. -/
theorem credentials_current {run : CredentialRun} (reached : credentialRuns.Reachable run) :
    (∀ entry ∈ run.sent,
      entry.call.beganSlots ≤ entry.slotMoment ∧ entry.call.beganHandles ≤ entry.handleMoment ∧
      (∃ before behind, run.slotWrites.take entry.slotMoment =
        before ++ (entry.call.client, entry.handle) :: behind ∧
        ∀ write ∈ behind, write.1 ≠ entry.call.client) ∧
      (∃ before behind, run.handleWrites.take entry.handleMoment =
        before ++ (entry.handle, entry.auth) :: behind ∧ ∀ write ∈ behind, write.1 ≠ entry.handle) ∧
      ∀ prior, (entry.handle, prior) ∈ run.handleWrites.take entry.handleMoment →
        entry.auth.heartbeatIntervalMs = prior.heartbeatIntervalMs) ∧
    ∀ before handle auth behind, run.handleWrites = before ++ (handle, auth) :: behind →
      (∃ prior, (handle, prior) ∈ before) → auth.Valid := by
  have books := CredentialBooks.reached reached
  refine ⟨fun entry member => ?_, fun before handle auth behind whole ⟨prior, earlier⟩ => ?_⟩
  · obtain ⟨⟨slotSince, -, slot⟩, ⟨handleSince, -, held⟩, -⟩ := books.sent entry member
    have last := held_eq_some.mp held
    refine ⟨slotSince, handleSince, held_eq_some.mp slot, last, fun prior there => ?_⟩
    obtain ⟨before, behind, whole, others⟩ := last
    rw [whole] at there
    rcases List.mem_append.mp there with earlier | later
    · have split : run.handleWrites = before ++ (entry.handle, entry.auth) ::
          (behind ++ run.handleWrites.drop entry.handleMoment) := by
        rw [← List.cons_append, ← List.append_assoc, ← whole, List.take_append_drop]
      exact (books.written before _ _ split prior earlier).1
    · rcases List.mem_cons.mp later with same | further
      · cases same
        rfl
      · exact absurd rfl (others _ further)
  · exact (books.written before _ behind whole prior earlier).2

/-- A client connects, another credential is set on its handle, and it reconnects. -/
def renewedCredential : List CredentialLabel :=
  [.newClient { AuthRequest.withApiKey "old" with heartbeatIntervalMs := some 5000 },
    .call 0 .connect, .takeHandle 0, .useTaken 0, .call 0 .reconnect, .takeHandle 1,
    .setHandle 0 (.sdkToken "new"), .useTaken 1]

/-- The reconnect sends the credential set while it ran, with the interval of the first. -/
theorem credentials_current_renewed : ∃ run entry, credentialRuns.Reachable run ∧ entry ∈ run.sent ∧
    entry.auth.sdkToken = some "new" ∧ entry.auth.heartbeatIntervalMs = some 5000 := by
  have ran : ∃ run entry, credentialRuns.run {} renewedCredential = some run ∧ entry ∈ run.sent ∧
      entry.auth.sdkToken = some "new" ∧
      (entry.handle, { AuthRequest.withApiKey "old" with heartbeatIntervalMs := some 5000 }) ∈
        run.handleWrites.take entry.handleMoment :=
    ⟨_, _, rfl, List.mem_cons_of_mem _ List.mem_cons_self, rfl, List.mem_cons_self⟩
  obtain ⟨run, entry, steps, member, renewed, first⟩ := ran
  have reached := reachable_of_run _ (Reachable.init credentialRuns (rfl : ({} : CredentialRun) = {})) steps
  obtain ⟨-, -, -, -, interval⟩ := (credentials_current reached).1 entry member
  exact ⟨run, entry, reached, member, renewed, interval _ first⟩

/-! ### No bad credential is sent -/

/-- A handle that holds a credential a `connect` would send. -/
def CredentialRun.Good (run : CredentialRun) (handle : Nat) : Prop :=
  ∃ auth, run.handles[handle]? = some auth ∧ auth.Valid

instance (run : CredentialRun) (handle : Nat) : Decidable (run.Good handle) :=
  decidable_of_iff ((run.handles[handle]?).any (fun auth => decide auth.Valid) = true) (by
    unfold CredentialRun.Good
    cases run.handles[handle]? <;> simp)

/-- A client is given only handles that hold such a credential. -/
def GivesGood (run : CredentialRun) : CredentialLabel → Prop
  | .useHandle _ handle => run.Good handle
  | _ => True

instance (run : CredentialRun) (label : CredentialLabel) : Decidable (GivesGood run label) :=
  match label with
  | .useHandle _ handle => inferInstanceAs (Decidable (run.Good handle))
  | .newHandle _ | .newClient _ | .setHandle _ _ | .call _ _ | .takeHandle _ | .useTaken _ =>
    inferInstanceAs (Decidable True)

/-- A handle stays good: what is set on it counts. -/
theorem CredentialRun.Good.keeps {run next : CredentialRun} {handle : Nat} (good : run.Good handle)
    (handles : ∀ auth, run.handles[handle]? = some auth →
      ∃ after, next.handles[handle]? = some after ∧ (auth.Valid → after.Valid)) : next.Good handle := by
  obtain ⟨auth, there, valid⟩ := good
  obtain ⟨after, now, still⟩ := handles auth there
  exact ⟨after, now, still valid⟩

theorem CredentialRun.Good.addHandle {run : CredentialRun} {handle : Nat} (good : run.Good handle)
    (auth : AuthRequest) : (run.addHandle auth).Good handle := by
  refine good.keeps fun other there => ⟨other, ?_, id⟩
  show (run.handles ++ [auth])[handle]? = some other
  rw [List.getElem?_append_left (List.getElem?_eq_some_iff.mp there).1, there]

theorem CredentialRun.Good.replace {run : CredentialRun} {handle : Nat} (good : run.Good handle)
    (place : Nat) {replaced : AuthRequest} (valid : replaced.Valid) :
    (run.replace place replaced).Good handle := by
  refine good.keeps fun auth there => ?_
  show ∃ after, (run.handles.set place replaced)[handle]? = some after ∧ _
  rw [List.getElem?_set]
  by_cases same : place = handle
  · subst same
    rw [if_pos rfl, if_pos (List.getElem?_eq_some_iff.mp there).1]
    exact ⟨replaced, rfl, fun _ => valid⟩
  · rw [if_neg same]
    exact ⟨auth, there, id⟩

/-- What holds while clients are given good handles: a slot holds one, or the handle it was made with;
after a `connect` that passed its check it holds a good one; and what is sent counts. -/
structure SoundCredentials (run : CredentialRun) : Prop where
  slots : ∀ (client handle : Nat), run.slots[client]? = some handle → run.Good handle ∨
    ∀ write ∈ run.slotWrites, write.1 = client → write.2 = handle
  checked : ∀ (client handle : Nat), run.checked[client]? = some true → run.slots[client]? = some handle →
    run.Good handle
  lengths : run.checked.length = run.slots.length
  calls : ∀ call ∈ run.calls, call.work = .reconnect → run.checked[call.client]? = some true ∧
    ∀ moment handle, call.stage = .atHandle moment handle → run.Good handle
  sent : ∀ entry ∈ run.sent, entry.auth.Valid

namespace SoundCredentials

variable {run next : CredentialRun}

theorem start : SoundCredentials {} where
  slots _ _ there := by cases there
  checked _ _ there := by cases there
  lengths := rfl
  calls _ member := by cases member
  sent _ member := by cases member

/-- Only the handles changed, and the good ones still are. -/
theorem withHandles (sound : SoundCredentials run) (same : next.slots = run.slots ∧
      next.checked = run.checked ∧ next.calls = run.calls ∧ next.sent = run.sent ∧
      next.slotWrites = run.slotWrites) (good : ∀ handle, run.Good handle → next.Good handle) :
    SoundCredentials next where
  slots client handle there := by
    rw [same.1] at there
    rw [same.2.2.2.2]
    exact (sound.slots client handle there).imp_left (good handle)
  checked client handle passed there := by
    rw [same.1] at there
    rw [same.2.1] at passed
    exact good handle (sound.checked client handle passed there)
  lengths := by rw [same.1, same.2.1, sound.lengths]
  calls call member work := by
    rw [same.2.2.1] at member
    rw [same.2.1]
    obtain ⟨passed, took⟩ := sound.calls call member work
    exact ⟨passed, fun moment handle at_ => good handle (took moment handle at_)⟩
  sent := by rw [same.2.2.2.1]; exact sound.sent

theorem set (sound : SoundCredentials run) {handle : Nat} {auth : Auth}
    (stepped : run.set handle auth = some next) : SoundCredentials next := by
  rcases CredentialRun.set_cases stepped with rfl | ⟨current, replaced, there, interval, valid, rfl⟩
  · exact sound
  · exact sound.withHandles ⟨rfl, rfl, rfl, rfl, rfl⟩ fun _ good => good.replace handle valid

/-- Only the calls changed. -/
theorem withCalls (sound : SoundCredentials run) {calls : List CredentialCall}
    (each : ∀ call ∈ calls, call.work = .reconnect → run.checked[call.client]? = some true ∧
      ∀ moment handle, call.stage = .atHandle moment handle → run.Good handle) :
    SoundCredentials { run with calls } :=
  ⟨sound.slots, sound.checked, sound.lengths, each, sound.sent⟩

theorem send (sound : SoundCredentials run) (call : CredentialCall) (moment handle : Nat)
    {auth : AuthRequest} (valid : auth.Valid) : SoundCredentials (run.send call moment handle auth) := by
  refine ⟨sound.slots, sound.checked, sound.lengths, sound.calls, fun entry member => ?_⟩
  rcases List.mem_append.mp member with before | last
  · exact sound.sent entry before
  · rw [List.mem_singleton.mp last]
    exact valid

/-- A `connect` has passed its check with a handle its slot has held, so what the slot holds is good. -/
theorem passes (sound : SoundCredentials run) {client : Nat}
    (good : ∀ handle, run.slots[client]? = some handle → run.Good handle) :
    SoundCredentials { run with checked := run.checked.set client true } where
  slots := sound.slots
  checked other handle passed there := by
    rw [List.getElem?_set] at passed
    by_cases same : client = other
    · subst same
      exact good handle there
    · rw [if_neg same] at passed
      exact sound.checked other handle passed there
  lengths := by rw [List.length_set, sound.lengths]
  calls call member work := by
    obtain ⟨passed, took⟩ := sound.calls call member work
    refine ⟨?_, took⟩
    show (run.checked.set client true)[call.client]? = some true
    rw [List.getElem?_set]
    split
    · rw [if_pos]
      rename_i same
      rw [same]
      exact (List.getElem?_eq_some_iff.mp passed).1
    · exact passed
  sent := sound.sent

theorem perform (sound : SoundCredentials run) {call : CredentialCall} {moment handle : Nat}
    (held : (call.client, handle) ∈ run.slotWrites)
    (reconnects : call.work = .reconnect → run.Good handle)
    (stepped : run.perform call moment handle = some next) : SoundCredentials next := by
  cases CredentialRun.perform_cases stepped with
  | set stepped => exact sound.set stepped
  | refused => exact sound
  | connects there work valid =>
    refine (sound.passes fun other slot => ?_).send call moment handle valid
    rcases sound.slots call.client other slot with good | only
    · exact good
    · -- the slot has held nothing else
      rw [← only _ held rfl]
      exact ⟨_, there, valid⟩
  | reconnects there work =>
    obtain ⟨auth, found, valid⟩ := reconnects work
    rw [there] at found
    cases found
    exact sound.send call moment handle valid

/-- **It holds in every run that hands over good handles only.** -/
theorem reached {run : CredentialRun}
    (reached : credentialRuns.ReachableUnder (fun run label _ => GivesGood run label) run) :
    SoundCredentials run := by
  have base : ∀ run, credentialRuns.start run → SoundCredentials run := by
    rintro run rfl
    exact start
  refine ReachableUnder.invariant_with (fun run reached => CredentialBooks.reached reached.reachable) base
    (fun run label next books sound stepped gives => ?_) reached
  simp only [credentialRuns] at stepped
  cases label with
  | newHandle auth =>
    simp only [credentialStep] at stepped
    split at stepped
    · cases stepped
      exact sound
    · cases stepped
      exact sound.withHandles ⟨rfl, rfl, rfl, rfl, rfl⟩ fun _ good => good.addHandle auth
  | newClient auth =>
    cases stepped
    have more : SoundCredentials (run.addHandle auth) :=
      sound.withHandles ⟨rfl, rfl, rfl, rfl, rfl⟩ fun _ good => good.addHandle auth
    have fresh : ∀ write ∈ run.slotWrites, write.1 ≠ run.slots.length := by
      intro write member same
      have there : (write.1, write.2) ∈ run.slotWrites := member
      obtain ⟨last, holds⟩ := exists_held_of_mem there
      rw [same, ← books.slots, List.getElem?_eq_none (Nat.le_refl _)] at holds
      cases holds
    refine ⟨fun client handle there => ?_, fun client handle passed there => ?_, ?_, fun call member work => ?_,
      more.sent⟩
    · rcases getElem?_concat_cases there with before | ⟨rfl, rfl⟩
      · refine (more.slots client handle before).imp_right fun only write member same => ?_
        rcases List.mem_append.mp member with earlier | last
        · exact only write earlier same
        · rw [List.mem_singleton.mp last] at same
          have inside := (List.getElem?_eq_some_iff.mp before).1
          exact absurd same (Nat.ne_of_gt inside)
      · refine .inr fun write member same => ?_
        rcases List.mem_append.mp member with earlier | last
        · exact absurd same (fresh write earlier)
        · rw [List.mem_singleton.mp last]
    · rcases getElem?_concat_cases passed with before | ⟨-, no⟩
      · rcases getElem?_concat_cases there with slot | ⟨rfl, -⟩
        · exact more.checked client handle before slot
        · have inside := (List.getElem?_eq_some_iff.mp before).1
          rw [sound.lengths] at inside
          exact absurd inside (Nat.lt_irrefl _)
      · cases no
    · show (run.checked ++ [false]).length = (run.slots ++ [run.handles.length]).length
      rw [List.length_append, List.length_append, sound.lengths]
      rfl
    · obtain ⟨passed, took⟩ := more.calls call member work
      have passed : run.checked[call.client]? = some true := passed
      refine ⟨?_, took⟩
      show (run.checked ++ [false])[call.client]? = some true
      rw [List.getElem?_append_left (List.getElem?_eq_some_iff.mp passed).1]
      exact passed
  | setHandle handle auth => exact sound.set stepped
  | useHandle client handle =>
    obtain ⟨inside, stepped⟩ := Option.ite_none_right_eq_some.mp stepped
    cases stepped
    have good : run.Good handle := gives
    refine ⟨fun other held there => ?_, fun other held passed there => ?_, ?_, sound.calls, sound.sent⟩
    · rcases getElem?_set_cases there with ⟨rfl, rfl⟩ | ⟨apart, before⟩
      · exact .inl good
      · refine (sound.slots other held before).imp_right fun only write member same => ?_
        rcases List.mem_append.mp member with earlier | last
        · exact only write earlier same
        · rw [List.mem_singleton.mp last] at same
          exact absurd same.symm apart
    · rcases getElem?_set_cases there with ⟨rfl, rfl⟩ | ⟨apart, before⟩
      · exact good
      · exact sound.checked other held passed before
    · show run.checked.length = (run.slots.set client handle).length
      rw [List.length_set, sound.lengths]
  | call client work =>
    obtain ⟨allowed, stepped⟩ := Option.ite_none_right_eq_some.mp stepped
    cases stepped
    refine sound.withCalls fun call member reconnects => ?_
    rcases List.mem_append.mp member with before | last
    · exact sound.calls call before reconnects
    · rw [List.mem_singleton.mp last] at reconnects ⊢
      exact ⟨allowed.2 reconnects, fun _ _ at_ => by cases at_⟩
  | takeHandle position =>
    obtain ⟨call, there, stepped⟩ := Option.bind_eq_some_iff.mp stepped
    obtain ⟨handle, slot, stepped⟩ := Option.bind_eq_some_iff.mp stepped
    obtain ⟨-, stepped⟩ := Option.ite_none_right_eq_some.mp stepped
    cases stepped
    refine sound.withCalls fun other member work => ?_
    rcases List.mem_or_eq_of_mem_set member with before | rfl
    · exact sound.calls other before work
    · have passed := (sound.calls call (List.mem_of_getElem? there) work).1
      refine ⟨passed, fun moment taken at_ => ?_⟩
      cases at_
      exact sound.checked call.client handle passed slot
  | useTaken position =>
    obtain ⟨call, there, stepped⟩ := Option.bind_eq_some_iff.mp stepped
    have member := List.mem_of_getElem? there
    split at stepped
    · rename_i moment handle at_
      have done : SoundCredentials { run with
          calls := run.calls.set position { call with stage := .done } } := by
        refine sound.withCalls fun other inCalls work => ?_
        rcases List.mem_or_eq_of_mem_set inCalls with before | rfl
        · exact sound.calls other before work
        · exact ⟨(sound.calls call member work).1, fun _ _ through => by cases through⟩
      obtain ⟨-, -, held⟩ := (books.calls call member).took moment handle at_
      exact done.perform (List.mem_of_mem_take (mem_of_held held))
        (fun work => (sound.calls call member work).2 moment handle at_) stepped
    · cases stepped

end SoundCredentials

/-- **No attempt sends a blank or an ambiguous credential**, a reconnect without a check of its own among
them, as long as no client is given a handle that holds one. -/
theorem credentials_valid {run : CredentialRun}
    (reached : credentialRuns.ReachableUnder (fun run label _ => GivesGood run label) run) :
    ∀ entry ∈ run.sent, entry.auth.Valid ∧ ∃ auth, entry.auth.Carries auth := by
  intro entry member
  have valid := (SoundCredentials.reached reached).sent entry member
  exact ⟨valid, (AuthRequest.validate_ok_iff _).mp valid⟩

/-- A client takes over the handle of another; what it sends on a reconnect counts. -/
theorem credentials_valid_handedOver : ∃ run entry,
    credentialRuns.ReachableUnder (fun run label _ => GivesGood run label) run ∧ entry ∈ run.sent ∧
    entry.call.work = .reconnect ∧ entry.auth.Valid := by
  have ran : ∃ run entry, credentialRuns.runUnder GivesGood {}
      [.newClient (.withApiKey "first"), .call 0 .connect, .takeHandle 0, .useTaken 0,
        .newHandle (.withToken "second"), .useHandle 0 1, .call 0 .reconnect, .takeHandle 1,
        .useTaken 1] = some run ∧ entry ∈ run.sent ∧ entry.call.work = .reconnect :=
    ⟨_, _, rfl, List.mem_cons_of_mem _ List.mem_cons_self, rfl⟩
  obtain ⟨run, entry, steps, member, work⟩ := ran
  have reached := reachableUnder_of_run _ (.start (rfl : ({} : CredentialRun) = {})) steps
  exact ⟨run, entry, reached, member, work, (credentials_valid reached entry member).1⟩

/-- The handle of a client that was made with a blank credential, and never connected, is not checked: a
client that takes it over while connected sends it. -/
theorem handedOver_blank : ∃ run entry, credentialRuns.Reachable run ∧ entry ∈ run.sent ∧
    ¬ entry.auth.Valid := by
  have ran : ∃ run entry, credentialRuns.run {}
      [.newClient (.withApiKey "first"), .call 0 .connect, .takeHandle 0, .useTaken 0,
        .newClient (.withApiKey " "), .useHandle 0 1, .call 0 .reconnect, .takeHandle 1,
        .useTaken 1] = some run ∧ entry ∈ run.sent ∧ entry.auth = .withApiKey " " :=
    ⟨_, _, rfl, List.mem_cons_of_mem _ List.mem_cons_self, rfl⟩
  obtain ⟨run, entry, steps, member, blank⟩ := ran
  refine ⟨run, entry, reachable_of_run _ (Reachable.init credentialRuns rfl) steps, member, ?_⟩
  rw [blank]
  decide

end FugleMarketdata
