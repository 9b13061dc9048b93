/-
**Requests beside each other.** Clients, their clones and their requests, on any number of threads.

A request moves by itself: an attempt begins by reading the credential header, then the transport answers its
send, and the send it makes again after a dropped connection. Between any two of these steps the other
requests move, and clients are made, cloned, configured and given other credentials. `writes` is the
history of the header cells; each attempt notes at which moment of it the header was read.

* `RestRun`, `restRuns` — the parties and the machine;
* `Formed`, `Followed` — what an attempt is once it is over, and what the attempts of a request are;
* `RestBooks` — the invariant: the cells hold what was written, and every request is as it should be;
* `reached` — of every order of steps.
-/

import FugleMarketdata.Lib.Registers
import FugleMarketdata.Lib.StepMachine
import FugleMarketdata.Lib.Trace
import FugleMarketdata.Rest.Client

namespace FugleMarketdata.Rest

open Errors Urls StepMachines StepMachine Registers Traces

/-! ### The parties -/

/-- An attempt: the moment it read the header, what it read, what the transport gave its sends, and what
it came to. -/
structure Attempt where
  moment : Nat
  header : AuthHeader
  answers : List Outcome
  result : Except Errors.MarketDataError HttpResponse

/-- Where a request is: it is about to make an attempt, or has made a send, or has returned. -/
inductive Stage where
  | waiting (attempt : Nat)
  | sending (attempt moment : Nat) (header : String × String) (dropped : Option UreqError)
  | returned (result : Except Errors.MarketDataError HttpResponse)

/-- A request: its client when it began, what it asks for, and the attempts that are over. -/
structure Request where
  client : RestClient
  path : List String
  query : List (String × String)
  url : String
  began : Nat
  stage : Stage
  attempts : List Attempt

/-- The cells, the clients (`none` where one was used up) and the requests. -/
structure RestRun where
  cells : List AuthHeader := []
  clients : List (Option RestClient) := []
  requests : List Request := []
  writes : List (Nat × AuthHeader) := []

inductive RestLabel where
  | withTls (auth : Auth)
  | clone (client : Nat)
  | setCredentials (client : Nat) (auth : Auth)
  | withRetry (client : Nat) (policy : RetryPolicy)
  | baseUrlWorded (client : Nat) (url : String) (wording : BaseUrlWording)
  | tryBaseUrlWorded (client : Nat) (url : String) (wording : BaseUrlWording)
  | getJson (client : Nat) (path : List String) (query : List (String × String))
  | attempt (request : Nat)
  | answer (request : Nat) (outcome : Outcome)

/-! ### A request's own steps -/

/-- The head of the loop of `run`. -/
def enter (policy : RetryPolicy) (attempt : Nat) (lastErr : Option Errors.MarketDataError) : Stage :=
  if attempt ≤ policy.maxAttempts then .waiting attempt
  else .returned (.error (lastErr.getD (.runtimeError "retry loop exited without error or success")))

/-- The head of `get`. -/
def begin (client : RestClient) : Stage :=
  match client.configError with
  | some message => .returned (.error (.configError message))
  | none =>
    match client.retryPolicy with
    | some policy => enter policy 1 none
    | none => .waiting 1

/-- What follows an attempt. -/
def afterAttempt (client : RestClient) (attempt : Nat)
    (result : Except Errors.MarketDataError HttpResponse) : Stage :=
  match client.retryPolicy with
  | none => .returned result
  | some policy =>
    match result with
    | .ok response => .returned (.ok response)
    | .error err =>
      if !err.isRetryable || attempt = policy.maxAttempts then .returned (.error err)
      else enter policy (attempt + 1) (some err)

namespace Request

variable (request : Request)

/-- An attempt is over. -/
def finish (attempt : Nat) (done : Attempt) : Request :=
  { request with
    stage := afterAttempt request.client attempt done.result
    attempts := request.attempts ++ [done] }

/-- An attempt begins with what the cell holds. -/
def attempt (moment : Nat) (held : AuthHeader) : Option Request :=
  match request.stage with
  | .waiting attempt =>
    match held with
    | .error message => some (request.finish attempt
        { moment, header := .error message, answers := [], result := .error (.configError message) })
    | .ok header => some { request with stage := .sending attempt moment header none }
  | _ => none

/-- The transport answers a send. -/
def answer (outcome : Outcome) : Option Request :=
  match request.stage with
  | .sending attempt moment header none =>
    match outcome with
    | .error e =>
      if droppedBeforeResponse e then
        some { request with stage := .sending attempt moment header (some e) }
      else some (request.finish attempt
        { moment, header := .ok header, answers := [outcome], result := settle request.url outcome })
    | .ok _ => some (request.finish attempt
        { moment, header := .ok header, answers := [outcome], result := settle request.url outcome })
  | .sending attempt moment header (some e) => some (request.finish attempt
      { moment, header := .ok header, answers := [.error e, outcome],
        result := settle request.url outcome })
  | _ => none

end Request

/-! ### The machine -/

section Machine

variable (outside : Outside) (encoders : Encoders)

/-- One of the parties moves. -/
def restStep (run : RestRun) : RestLabel → Option RestRun
  | .withTls auth =>
    let header := authHeader outside auth
    some { run with
      cells := run.cells ++ [header]
      clients := run.clients ++ [some (.withTls run.cells.length)]
      writes := run.writes ++ [(run.cells.length, header)] }
  | .clone position => do
    let client ← (← run.clients[position]?)
    some { run with clients := run.clients ++ [some client] }
  | .setCredentials position auth => do
    let client ← (← run.clients[position]?)
    match authHeader outside auth with
    | .error _ => some run
    | .ok header =>
      some { run with
        cells := run.cells.set client.authHeader (.ok header)
        writes := run.writes ++ [(client.authHeader, .ok header)] }
  | .withRetry position policy => do
    let client ← (← run.clients[position]?)
    some { run with clients := run.clients.set position (some (client.withRetry policy)) }
  | .baseUrlWorded position url wording => do
    let client ← (← run.clients[position]?)
    some { run with clients := run.clients.set position (some (client.baseUrlWorded outside url wording)) }
  | .tryBaseUrlWorded position url wording => do
    let client ← (← run.clients[position]?)
    some { run with
      clients := run.clients.set position (client.tryBaseUrlWorded outside url wording).toOption }
  | .getJson position path query => do
    let client ← (← run.clients[position]?)
    some { run with
      requests := run.requests ++ [{
        client, path, query
        url := endpointUrl encoders client.baseUrl.url path query
        began := run.writes.length
        stage := begin client
        attempts := [] }] }
  | .attempt position => do
    let request ← run.requests[position]?
    let held ← run.cells[request.client.authHeader]?
    let next ← request.attempt run.writes.length held
    some { run with requests := run.requests.set position next }
  | .answer position outcome => do
    let request ← run.requests[position]?
    let next ← request.answer outcome
    some { run with requests := run.requests.set position next }

/-- Clients and requests in any order of steps. -/
def restRuns : StepMachine RestRun RestLabel where
  start run := run = {}
  step := restStep outside encoders

end Machine

/-! ### Attempts -/

/-- What an attempt is once it is over: it could send nothing, or sent once, or once more after a dropped
connection. -/
inductive Formed (url : String) : Attempt → Prop
  | unsent (moment : Nat) (message : String) : Formed url
      { moment, header := .error message, answers := [], result := .error (.configError message) }
  | once (moment : Nat) (header : String × String) (outcome : Outcome)
      (kept : ∀ e, outcome = .error e → droppedBeforeResponse e = false) : Formed url
      { moment, header := .ok header, answers := [outcome], result := settle url outcome }
  | resent (moment : Nat) (header : String × String) (e : UreqError) (outcome : Outcome)
      (dropped : droppedBeforeResponse e = true) : Formed url
      { moment, header := .ok header, answers := [.error e, outcome], result := settle url outcome }

/-- An attempt comes to what `sendGet` makes of what it read and was given. -/
theorem Formed.sendGet_eq {url : String} {attempt : Attempt} (formed : Formed url attempt)
    {call : Nat → Outcome}
    (given : ∀ place outcome, attempt.answers[place]? = some outcome → call (place + 1) = outcome) :
    sendGet attempt.header url call = attempt.result := by
  cases formed with
  | unsent moment message => rfl
  | once moment header outcome kept =>
    have first : call 1 = outcome := given 0 outcome rfl
    cases outcome with
    | ok response => simp only [sendGet, first]
    | error e => simp only [sendGet, first, kept e rfl, Bool.false_eq_true, if_false]
  | resent moment header e outcome dropped =>
    have first : call 1 = .error e := given 0 _ rfl
    have second : call 2 = outcome := given 1 outcome rfl
    simp only [sendGet, first, second, dropped, if_true]

/-- Whether there is another attempt is decided by what the transport gave last. -/
theorem Formed.isRetryable {url : String} {attempt : Attempt} (formed : Formed url attempt)
    {err : Errors.MarketDataError} (failed : attempt.result = .error err) (again : err.isRetryable = true) :
    ∃ outcome, attempt.answers.getLast? = some outcome ∧ worthRetrying outcome = true := by
  cases formed with
  | unsent moment message =>
    cases failed
    cases again
  | once moment header outcome kept => exact ⟨outcome, rfl, by rw [← settle_isRetryable failed, again]⟩
  | resent moment header e outcome dropped =>
    exact ⟨outcome, rfl, by rw [← settle_isRetryable failed, again]⟩

/-- The attempt a request is at, as far as it has come. -/
def Stage.current : Stage → List (Nat × AuthHeader)
  | .sending _ moment header _ => [(moment, .ok header)]
  | _ => []

@[simp] theorem Stage.current_sending (attempt moment : Nat) (header : String × String)
    (dropped : Option UreqError) :
    (Stage.sending attempt moment header dropped).current = [(moment, .ok header)] := rfl

/-- The headers the attempts of a request read, and when. -/
def Request.reads (request : Request) : List (Nat × AuthHeader) :=
  request.attempts.map (fun attempt => (attempt.moment, attempt.header)) ++ request.stage.current

/-- The attempt a request is at or about to make. -/
def Stage.attempt? : Stage → Option Nat
  | .waiting attempt | .sending attempt _ _ _ => some attempt
  | .returned _ => none

/-- What the attempts of a request are: all but the last ended in an error worth another, there are no more
than the policy has, and what is returned is what the last came to. -/
structure Followed (request : Request) : Prop where
  formed : ∀ attempt ∈ request.attempts, Formed request.url attempt
  again : ∀ position attempt, request.attempts[position]? = some attempt →
    (position + 1 < request.attempts.length ∨ request.stage.attempt?.isSome = true) →
    ∃ policy err, request.client.retryPolicy = some policy ∧ position + 1 < policy.maxAttempts ∧
      attempt.result = .error err ∧ err.isRetryable = true
  counted : ∀ attempt, request.stage.attempt? = some attempt →
    attempt = request.attempts.length + 1 ∧ request.client.configError = none ∧
      ∀ policy, request.client.retryPolicy = some policy → attempt ≤ policy.maxAttempts
  limited : match request.client.retryPolicy with
    | some policy => request.attempts.length ≤ policy.maxAttempts
    | none => request.attempts.length ≤ 1
  dropped : ∀ attempt moment header e, request.stage = .sending attempt moment header (some e) →
    droppedBeforeResponse e = true
  refused : ∀ message, request.client.configError = some message →
    request.attempts = [] ∧ request.stage = .returned (.error (.configError message))
  ended : ∀ result, request.stage = .returned result → request.client.configError = none →
    (∃ last, request.attempts.getLast? = some last ∧ result = last.result ∧
      ∀ policy, request.client.retryPolicy = some policy → ∀ err, last.result = .error err →
        err.isRetryable = true → request.attempts.length = policy.maxAttempts) ∨
    (∃ policy, request.client.retryPolicy = some policy ∧ policy.maxAttempts = 0 ∧
      request.attempts = [] ∧
      result = .error (.runtimeError "retry loop exited without error or success"))

/-! ### A request follows the source -/

@[simp] theorem afterAttempt_current (client : RestClient) (attempt : Nat)
    (result : Except Errors.MarketDataError HttpResponse) :
    (afterAttempt client attempt result).current = [] := by
  unfold afterAttempt enter
  repeat' split
  all_goals rfl

/-- After an attempt the request returns what it came to, or there is another. -/
theorem afterAttempt_cases {client : RestClient} {attempt : Nat}
    (within : ∀ policy, client.retryPolicy = some policy → attempt ≤ policy.maxAttempts)
    (result : Except Errors.MarketDataError HttpResponse) :
    (afterAttempt client attempt result = .returned result ∧
      ∀ policy, client.retryPolicy = some policy → ∀ err, result = .error err →
        err.isRetryable = true → attempt = policy.maxAttempts) ∨
      ∃ policy err, client.retryPolicy = some policy ∧ result = .error err ∧
        err.isRetryable = true ∧ attempt < policy.maxAttempts ∧
        afterAttempt client attempt result = .waiting (attempt + 1) := by
  cases without : client.retryPolicy with
  | none =>
    refine .inl ⟨?_, fun _ some => by cases some⟩
    rw [afterAttempt, without]
  | some policy =>
    have bound := within policy without
    cases result with
    | ok response =>
      refine .inl ⟨?_, fun _ _ _ failed => by cases failed⟩
      rw [afterAttempt, without]
    | error err =>
      by_cases stops : (!err.isRetryable || attempt = policy.maxAttempts) = true
      · refine .inl ⟨?_, ?_⟩
        · simp only [afterAttempt, without, if_pos stops]
        · intro other same failure failed again
          cases same
          cases failed
          simpa [again] using stops
      · have again : err.isRetryable = true ∧ attempt ≠ policy.maxAttempts := by simpa using stops
        have more : attempt + 1 ≤ policy.maxAttempts := by omega
        refine .inr ⟨policy, err, rfl, rfl, again.1, more, ?_⟩
        simp only [afterAttempt, without, if_neg stops, enter, if_pos more]

theorem begin_current (client : RestClient) : (begin client).current = [] := by
  unfold begin enter
  repeat' split
  all_goals rfl

namespace Followed

variable {request : Request}

/-- A request begins as it should. -/
theorem begins (client : RestClient) (path : List String) (query : List (String × String)) (url : String)
    (began : Nat) : Followed { client, path, query, url, began, stage := begin client, attempts := [] } where
  formed _ member := by cases member
  again _ _ there := by cases there
  counted attempt counts := by
    cases refused : client.configError with
    | some message =>
      simp only [begin, refused] at counts
      cases counts
    | none =>
      cases without : client.retryPolicy with
      | none =>
        simp only [begin, refused, without] at counts
        cases counts
        exact ⟨rfl, rfl, fun _ same => by cases same⟩
      | some policy =>
        by_cases first : 1 ≤ policy.maxAttempts
        · simp only [begin, refused, without, enter, if_pos first] at counts
          cases counts
          refine ⟨rfl, rfl, fun other same => ?_⟩
          cases same
          exact first
        · simp only [begin, refused, without, enter, if_neg first] at counts
          cases counts
  limited := by split <;> exact Nat.zero_le _
  dropped attempt moment header e sends := by
    have none_yet := begin_current client
    have sends : begin client = .sending attempt moment header (some e) := sends
    rw [sends] at none_yet
    cases none_yet
  refused message refused := by
    have refused : client.configError = some message := refused
    refine ⟨rfl, ?_⟩
    show begin client = _
    rw [begin, refused]
  ended result returned fine := by
    have returned : begin client = .returned result := returned
    have fine : client.configError = none := fine
    cases without : client.retryPolicy with
    | none =>
      simp only [begin, fine, without] at returned
      cases returned
    | some policy =>
      by_cases first : 1 ≤ policy.maxAttempts
      · simp only [begin, fine, without, enter, if_pos first] at returned
        cases returned
      · simp only [begin, fine, without, enter, if_neg first] at returned
        cases returned
        exact .inr ⟨policy, rfl, by omega, rfl, rfl⟩

/-- Only how far the attempt has come changed. -/
theorem moves (followed : Followed request) {attempt : Nat}
    (at_ : request.stage.attempt? = some attempt) (moment : Nat) (header : String × String)
    (dropped : Option UreqError) (kind : ∀ e, dropped = some e → droppedBeforeResponse e = true) :
    Followed { request with stage := .sending attempt moment header dropped } where
  formed := followed.formed
  again position done there _ :=
    followed.again position done there (.inr (by rw [at_]; rfl))
  counted other same := by
    cases same
    exact followed.counted attempt at_
  limited := followed.limited
  dropped other otherMoment otherHeader e same := by
    cases same
    exact kind e rfl
  refused message refused := by
    have fine := (followed.counted attempt at_).2.1
    have refused : request.client.configError = some message := refused
    rw [fine] at refused
    cases refused
  ended _ returned := by cases returned

/-- An attempt is over. -/
theorem finish (followed : Followed request) {attempt : Nat} {done : Attempt}
    (at_ : request.stage.attempt? = some attempt) (formed : Formed request.url done) :
    Followed (request.finish attempt done) := by
  obtain ⟨count, fine, within⟩ := followed.counted attempt at_
  have position_cases (position : Nat) (found : Attempt)
      (there : (request.attempts ++ [done])[position]? = some found) :
      request.attempts[position]? = some found ∧ position < request.attempts.length ∨
        position = request.attempts.length ∧ found = done := by
    rcases getElem?_concat_cases there with before | last
    · exact .inl ⟨before, (List.getElem?_eq_some_iff.mp before).1⟩
    · exact .inr last
  have earlier (position : Nat) (found : Attempt) (there : request.attempts[position]? = some found) :=
    followed.again position found there (.inr (by rw [at_]; rfl))
  have formedAll : ∀ found ∈ request.attempts ++ [done], Formed request.url found := by
    intro found member
    rcases List.mem_append.mp member with before | last
    · exact followed.formed found before
    · rw [List.mem_singleton.mp last]
      exact formed
  have length : (request.attempts ++ [done]).length = attempt := by
    rw [List.length_append, List.length_singleton, count]
  have limited : match request.client.retryPolicy with
      | some policy => (request.attempts ++ [done]).length ≤ policy.maxAttempts
      | none => (request.attempts ++ [done]).length ≤ 1 := by
    cases has : request.client.retryPolicy with
    | some policy =>
      rw [length]
      exact within policy has
    | none =>
      -- without a policy an attempt that is over ends the request
      rcases request.attempts.eq_nil_or_concat with none_yet | ⟨before, last, whole⟩
      · simp [none_yet]
      · have there : request.attempts[before.length]? = some last := by
          rw [whole, List.concat_eq_append, List.getElem?_concat_length]
        obtain ⟨policy, -, some_, -⟩ := earlier _ _ there
        rw [has] at some_
        cases some_
  rcases afterAttempt_cases within done.result with ⟨returns, stopped⟩ | ⟨policy, err, has, failed, again,
    more, waits⟩
  · refine ⟨formedAll, ?_, ?_, limited, ?_, ?_, ?_⟩
    · intro position found there later
      rcases position_cases position found there with ⟨before, -⟩ | ⟨rfl, -⟩
      · exact earlier position found before
      · exfalso
        rcases later with below | still
        · have below : request.attempts.length + 1 < (request.attempts ++ [done]).length := below
          rw [length] at below
          omega
        · have still : (afterAttempt request.client attempt done.result).attempt?.isSome = true := still
          rw [returns] at still
          cases still
    · intro other counts
      have counts : (afterAttempt request.client attempt done.result).attempt? = some other := counts
      rw [returns] at counts
      cases counts
    · intro other moment header e sends
      have sends : afterAttempt request.client attempt done.result = _ := sends
      rw [returns] at sends
      cases sends
    · intro message refused
      have refused : request.client.configError = some message := refused
      rw [fine] at refused
      cases refused
    · intro result returned _
      have returned : afterAttempt request.client attempt done.result = .returned result := returned
      rw [returns] at returned
      cases returned
      refine .inl ⟨done, List.getLast?_concat, rfl, fun policy has err failed again => ?_⟩
      show (request.attempts ++ [done]).length = _
      rw [length]
      exact stopped policy has err failed again
  · refine ⟨formedAll, ?_, ?_, limited, ?_, ?_, ?_⟩
    · intro position found there _
      rcases position_cases position found there with ⟨before, -⟩ | ⟨rfl, rfl⟩
      · exact earlier position found before
      · exact ⟨policy, err, has, by omega, failed, again⟩
    · intro other counts
      have counts : (afterAttempt request.client attempt done.result).attempt? = some other := counts
      rw [waits] at counts
      cases counts
      refine ⟨?_, fine, fun other same => ?_⟩
      · show attempt + 1 = (request.attempts ++ [done]).length + 1
        rw [length]
      · have same : request.client.retryPolicy = some other := same
        rw [has] at same
        cases same
        exact more
    · intro other moment header e sends
      have sends : afterAttempt request.client attempt done.result = _ := sends
      rw [waits] at sends
      cases sends
    · intro message refused
      have refused : request.client.configError = some message := refused
      rw [fine] at refused
      cases refused
    · intro result returned _
      have returned : afterAttempt request.client attempt done.result = .returned result := returned
      rw [waits] at returned
      cases returned

end Followed

/-! ### A request's steps -/

/-- What an attempt does with the header it read. -/
inductive Began (request : Request) (moment : Nat) (held : AuthHeader) : Request → Prop
  | refused {attempt : Nat} (message : String) (at_ : request.stage.attempt? = some attempt)
      (unusable : held = .error message) (reads : request.stage.current = []) :
      Began request moment held (request.finish attempt
        { moment, header := .error message, answers := [], result := .error (.configError message) })
  | sends {attempt : Nat} {header : String × String} (at_ : request.stage.attempt? = some attempt)
      (usable : held = .ok header) (reads : request.stage.current = []) :
      Began request moment held { request with stage := .sending attempt moment header none }

theorem Request.attempt_eq_some {request next : Request} {moment : Nat} {held : AuthHeader}
    (moved : request.attempt moment held = some next) : Began request moment held next := by
  unfold Request.attempt at moved
  cases at_ : request.stage with
  | waiting attempt =>
    have counts : request.stage.attempt? = some attempt := by rw [at_]; rfl
    have reads : request.stage.current = [] := by rw [at_]; rfl
    rw [at_] at moved
    cases held with
    | error message =>
      cases moved
      exact .refused message counts rfl reads
    | ok header =>
      cases moved
      exact .sends counts rfl reads
  | sending attempt moment header dropped =>
    rw [at_] at moved
    cases moved
  | returned result =>
    rw [at_] at moved
    cases moved

/-- What an answer of the transport does. -/
inductive Answered (request : Request) : Request → Prop
  | again {attempt moment : Nat} {header : String × String} {e : UreqError}
      (at_ : request.stage = .sending attempt moment header none)
      (dropped : droppedBeforeResponse e = true) :
      Answered request { request with stage := .sending attempt moment header (some e) }
  | over_ {attempt moment : Nat} {header : String × String} {dropped : Option UreqError} {done : Attempt}
      (at_ : request.stage = .sending attempt moment header dropped) (formed : Formed request.url done)
      (same : done.moment = moment ∧ done.header = .ok header) :
      Answered request (request.finish attempt done)

theorem Request.answer_eq_some {request next : Request} {outcome : Outcome}
    (kind : ∀ attempt moment header e, request.stage = .sending attempt moment header (some e) →
      droppedBeforeResponse e = true) (moved : request.answer outcome = some next) :
    Answered request next := by
  unfold Request.answer at moved
  cases at_ : request.stage with
  | waiting attempt =>
    rw [at_] at moved
    cases moved
  | returned result =>
    rw [at_] at moved
    cases moved
  | sending attempt moment header dropped =>
    rw [at_] at moved
    cases dropped with
    | some e =>
      cases moved
      exact .over_ at_ (.resent moment header e outcome (kind _ _ _ _ at_)) ⟨rfl, rfl⟩
    | none =>
      cases outcome with
      | ok response =>
        cases moved
        exact .over_ at_ (.once moment header _ fun _ same => by cases same) ⟨rfl, rfl⟩
      | error e =>
        by_cases drops : droppedBeforeResponse e = true
        · simp only [if_pos drops, Option.some.injEq] at moved
          cases moved
          exact .again at_ drops
        · simp only [if_neg drops, Option.some.injEq] at moved
          cases moved
          refine .over_ at_ (.once moment header _ fun other same => ?_) ⟨rfl, rfl⟩
          cases same
          exact Bool.eq_false_iff.mpr drops

theorem Followed.attempt {request next : Request} {moment : Nat} {held : AuthHeader}
    (followed : Followed request) (moved : request.attempt moment held = some next) : Followed next := by
  cases Request.attempt_eq_some moved with
  | refused message at_ _ _ => exact followed.finish at_ (.unsent moment message)
  | sends at_ _ _ => exact followed.moves at_ moment _ none fun _ same => by cases same

theorem Followed.answer {request next : Request} {outcome : Outcome} (followed : Followed request)
    (moved : request.answer outcome = some next) : Followed next := by
  cases Request.answer_eq_some followed.dropped moved with
  | again at_ dropped =>
    refine followed.moves (by rw [at_]; rfl) _ _ _ fun _ same => ?_
    cases same
    exact dropped
  | over_ at_ formed _ => exact followed.finish (by rw [at_]; rfl) formed

/-! ### Which header is read -/

/-- Where and when a request read its headers, in the history of the cells. -/
structure ReadFrom (writes : List (Nat × AuthHeader)) (request : Request) : Prop where
  began : request.began ≤ writes.length
  past : ∀ read ∈ request.reads, request.began ≤ read.1 ∧ read.1 ≤ writes.length
  holds : ∀ read ∈ request.reads, heldAt writes read.1 request.client.authHeader = some read.2
  ordered : (request.reads.map Prod.fst).Pairwise (· ≤ ·)

namespace ReadFrom

variable {writes : List (Nat × AuthHeader)} {request : Request}

theorem later (from_ : ReadFrom writes request) (more : List (Nat × AuthHeader)) :
    ReadFrom (writes ++ more) request where
  began := by
    have began := from_.began
    rw [List.length_append]
    omega
  past read member := by
    have past := from_.past read member
    rw [List.length_append]
    omega
  holds read member := by
    rw [heldAt_append (from_.past read member).2]
    exact from_.holds read member
  ordered := from_.ordered

/-- The same reads. -/
theorem of_reads (from_ : ReadFrom writes request) {next : Request}
    (client : next.client = request.client) (began : next.began = request.began)
    (reads : next.reads = request.reads) : ReadFrom writes next where
  began := by rw [began]; exact from_.began
  past := by rw [reads, began]; exact from_.past
  holds := by rw [reads, client]; exact from_.holds
  ordered := by rw [reads]; exact from_.ordered

/-- One more read, of what the cell holds now. -/
theorem reads_now (from_ : ReadFrom writes request) {next : Request} {header : AuthHeader}
    (client : next.client = request.client) (began : next.began = request.began)
    (reads : next.reads = request.reads ++ [(writes.length, header)])
    (now : held writes request.client.authHeader = some header) : ReadFrom writes next where
  began := by rw [began]; exact from_.began
  past read member := by
    rw [reads] at member
    rw [began]
    rcases List.mem_append.mp member with before | last
    · exact from_.past read before
    · rw [List.mem_singleton.mp last]
      exact ⟨from_.began, Nat.le_refl _⟩
  holds read member := by
    rw [reads] at member
    rw [client]
    rcases List.mem_append.mp member with before | last
    · exact from_.holds read before
    · rw [List.mem_singleton.mp last]
      exact (heldAt_length writes _).trans now
  ordered := by
    rw [reads, List.map_append]
    refine List.pairwise_append.mpr ⟨from_.ordered, List.pairwise_singleton _ _, ?_⟩
    intro moment member last only
    obtain ⟨read, inReads, rfl⟩ := List.mem_map.mp member
    rw [List.map_singleton, List.mem_singleton] at only
    rw [only]
    exact (from_.past read inReads).2

theorem attempt (from_ : ReadFrom writes request) {next : Request} {header : AuthHeader}
    (now : held writes request.client.authHeader = some header)
    (moved : request.attempt writes.length header = some next) : ReadFrom writes next := by
  cases Request.attempt_eq_some moved with
  | refused message at_ unusable reads =>
    refine from_.reads_now rfl rfl ?_ now
    simp [Request.reads, Request.finish, reads, unusable]
  | sends at_ usable reads =>
    refine from_.reads_now rfl rfl ?_ now
    simp [Request.reads, reads, usable]

theorem answer (from_ : ReadFrom writes request) (followed : Followed request) {next : Request}
    {outcome : Outcome} (moved : request.answer outcome = some next) : ReadFrom writes next := by
  cases Request.answer_eq_some followed.dropped moved with
  | again at_ dropped =>
    refine from_.of_reads rfl rfl ?_
    simp [Request.reads, at_]
  | over_ at_ formed same =>
    refine from_.of_reads rfl rfl ?_
    obtain ⟨moment, header⟩ := same
    simp [Request.reads, Request.finish, at_, moment, header]

end ReadFrom

/-! ### Every order of steps -/

section Books

variable (outside : Outside) (encoders : Encoders)

/-- A header that is sent: that of a credential that is not blank, in characters HTTP allows. -/
def Usable (header : String × String) : Prop :=
  ∃ auth : Auth, header = auth.header ∧ isProvided auth.secret = true ∧ outside.headerValueOk header.2 = true

/-- What is written to a cell: a usable header, or, as its first value only, why there is none. -/
def Written (earlier : List (Nat × AuthHeader)) (write : Nat × AuthHeader) : Prop :=
  (∃ header, write.2 = .ok header ∧ Usable outside header) ∨
    (∃ message, write.2 = .error message) ∧ held earlier write.1 = none

/-- In every order: the cells hold what was written, the clients have cells, and each request is as it
should be. -/
structure RestBooks (run : RestRun) : Prop where
  cells : Agrees run.cells run.writes
  written : Throughout (Written outside) run.writes
  clients : ∀ client, some client ∈ run.clients → client.authHeader < run.cells.length
  followed : ∀ request ∈ run.requests, Followed request
  reads : ∀ request ∈ run.requests, ReadFrom run.writes request
  urls : ∀ request ∈ run.requests, request.url =
    endpointUrl encoders request.client.baseUrl.url request.path request.query

namespace RestBooks

variable {outside encoders} {run next : RestRun}

theorem start : RestBooks outside encoders {} where
  cells := Agrees.nil
  written := Throughout.nil
  clients _ member := by cases member
  followed _ member := by cases member
  reads _ member := by cases member
  urls _ member := by cases member

/-- Only the clients changed, and each that is there has a cell. -/
theorem withClients (books : RestBooks outside encoders run) (clients : List (Option RestClient))
    (each : ∀ client, some client ∈ clients → client.authHeader < run.cells.length) :
    RestBooks outside encoders { run with clients } :=
  ⟨books.cells, books.written, each, books.followed, books.reads, books.urls⟩

/-- A client is put in the place of another that had its cell. -/
theorem replaces (books : RestBooks outside encoders run) {position : Nat} {client : RestClient}
    (there : run.clients[position]? = some (some client)) (after : Option RestClient)
    (cell : ∀ changed, after = some changed → changed.authHeader = client.authHeader) :
    RestBooks outside encoders { run with clients := run.clients.set position after } := by
  refine books.withClients _ fun other member => ?_
  rcases List.mem_or_eq_of_mem_set member with before | same
  · exact books.clients other before
  · rw [cell other same.symm]
    exact books.clients client (List.mem_of_getElem? there)

/-- A cell is written, or one more is made with its first value. -/
theorem writes (books : RestBooks outside encoders run) {cells : List AuthHeader}
    {write : Nat × AuthHeader} {clients : List (Option RestClient)}
    (agrees : Agrees cells (run.writes ++ [write])) (written : Written outside run.writes write)
    (each : ∀ client, some client ∈ clients → client.authHeader < cells.length) :
    RestBooks outside encoders { run with cells, clients, writes := run.writes ++ [write] } :=
  ⟨agrees, books.written.concat written, each, books.followed,
    fun request member => (books.reads request member).later _, books.urls⟩

/-- A request moved. -/
theorem moves (books : RestBooks outside encoders run) {position : Nat} {request after : Request}
    (there : run.requests[position]? = some request) (followed : Followed after)
    (reads : ReadFrom run.writes after)
    (url : after.url = request.url ∧ after.client = request.client ∧ after.path = request.path ∧
      after.query = request.query) :
    RestBooks outside encoders { run with requests := run.requests.set position after } := by
  refine ⟨books.cells, books.written, books.clients, fun other member => ?_, fun other member => ?_,
    fun other member => ?_⟩
  · rcases List.mem_or_eq_of_mem_set member with before | rfl
    · exact books.followed other before
    · exact followed
  · rcases List.mem_or_eq_of_mem_set member with before | rfl
    · exact books.reads other before
    · exact reads
  · rcases List.mem_or_eq_of_mem_set member with before | rfl
    · exact books.urls other before
    · rw [url.1, url.2.1, url.2.2.1, url.2.2.2]
      exact books.urls request (List.mem_of_getElem? there)

/-- A request joins. -/
theorem joins (books : RestBooks outside encoders run) {client : RestClient}
    (path : List String) (query : List (String × String)) :
    RestBooks outside encoders { run with
      requests := run.requests ++ [{
        client, path, query
        url := endpointUrl encoders client.baseUrl.url path query
        began := run.writes.length
        stage := begin client
        attempts := [] }] } := by
  refine ⟨books.cells, books.written, books.clients, fun other member => ?_, fun other member => ?_,
    fun other member => ?_⟩
  · rcases List.mem_append.mp member with before | last
    · exact books.followed other before
    · rw [List.mem_singleton.mp last]
      exact .begins client path query _ _
  · rcases List.mem_append.mp member with before | last
    · exact books.reads other before
    · rw [List.mem_singleton.mp last]
      have nothing : Request.reads { client, path, query
                                     url := endpointUrl encoders client.baseUrl.url path query
                                     began := run.writes.length
                                     stage := begin client
                                     attempts := [] } = [] := begin_current client
      refine ⟨Nat.le_refl _, ?_, ?_, ?_⟩
      · rw [nothing]
        exact fun _ absurd_ => by cases absurd_
      · rw [nothing]
        exact fun _ absurd_ => by cases absurd_
      · rw [nothing]
        exact List.Pairwise.nil
  · rcases List.mem_append.mp member with before | last
    · exact books.urls other before
    · rw [List.mem_singleton.mp last]

end RestBooks

/-- What a step does keeps the cell, the base and the rest of a request. -/
theorem Request.finish_same (request : Request) (attempt : Nat) (done : Attempt) :
    (request.finish attempt done).url = request.url ∧
      (request.finish attempt done).client = request.client ∧
      (request.finish attempt done).path = request.path ∧
      (request.finish attempt done).query = request.query := ⟨rfl, rfl, rfl, rfl⟩

theorem Request.attempt_same {request next : Request} {moment : Nat} {header : AuthHeader}
    (moved : request.attempt moment header = some next) : next.url = request.url ∧
      next.client = request.client ∧ next.path = request.path ∧ next.query = request.query := by
  cases Request.attempt_eq_some moved with
  | refused message at_ unusable reads => exact request.finish_same _ _
  | sends at_ usable reads => exact ⟨rfl, rfl, rfl, rfl⟩

theorem Request.answer_same {request next : Request} {outcome : Outcome} (followed : Followed request)
    (moved : request.answer outcome = some next) : next.url = request.url ∧
      next.client = request.client ∧ next.path = request.path ∧ next.query = request.query := by
  cases Request.answer_eq_some followed.dropped moved with
  | again at_ dropped => exact ⟨rfl, rfl, rfl, rfl⟩
  | over_ at_ formed same => exact request.finish_same _ _

theorem RestClient.baseUrlWorded_cell (client : RestClient) (url : String) (wording : BaseUrlWording) :
    (client.baseUrlWorded outside url wording).authHeader = client.authHeader := by
  unfold RestClient.baseUrlWorded
  dsimp only
  split <;> rfl

theorem RestClient.tryBaseUrlWorded_cell {client changed : RestClient} {url : String}
    {wording : BaseUrlWording}
    (accepted : (client.tryBaseUrlWorded outside url wording).toOption = some changed) :
    changed.authHeader = client.authHeader := by
  unfold RestClient.tryBaseUrlWorded RestClient.rejectParked at accepted
  split at accepted
  · cases accepted
  · cases accepted
    exact client.baseUrlWorded_cell outside url wording

/-- **The books agree in every order of steps.** -/
theorem RestBooks.reached {run : RestRun} (reached : (restRuns outside encoders).Reachable run) :
    RestBooks outside encoders run := by
  have base : ∀ run, (restRuns outside encoders).start run → RestBooks outside encoders run := by
    rintro run rfl
    exact RestBooks.start
  refine reached.invariant base fun run label next books stepped => ?_
  simp only [restRuns] at stepped
  cases label with
  | withTls auth =>
    cases stepped
    refine books.writes (books.cells.push _) ?_ fun client member => ?_
    · cases made : authHeader outside auth with
      | ok header => exact .inl ⟨header, rfl, auth, authHeader_ok made⟩
      | error message =>
        refine .inr ⟨⟨message, rfl⟩, ?_⟩
        rw [← books.cells]
        exact List.getElem?_eq_none (Nat.le_refl _)
    · rw [List.length_append, List.length_singleton]
      rcases List.mem_append.mp member with before | last
      · exact Nat.lt_succ_of_lt (books.clients client before)
      · cases List.mem_singleton.mp last
        exact Nat.lt_succ_self _
  | clone position =>
    obtain ⟨slot, there, stepped⟩ := Option.bind_eq_some_iff.mp stepped
    obtain ⟨client, rfl, stepped⟩ := Option.bind_eq_some_iff.mp stepped
    cases stepped
    refine books.withClients _ fun other member => ?_
    rcases List.mem_append.mp member with before | last
    · exact books.clients other before
    · cases List.mem_singleton.mp last
      exact books.clients client (List.mem_of_getElem? there)
  | setCredentials position auth =>
    obtain ⟨slot, there, stepped⟩ := Option.bind_eq_some_iff.mp stepped
    obtain ⟨client, rfl, stepped⟩ := Option.bind_eq_some_iff.mp stepped
    have cell := books.clients client (List.mem_of_getElem? there)
    cases made : authHeader outside auth with
    | error message =>
      rw [made] at stepped
      cases stepped
      exact books
    | ok header =>
      rw [made] at stepped
      cases stepped
      refine books.writes (books.cells.set cell _) (.inl ⟨header, rfl, auth, authHeader_ok made⟩) ?_
      rw [List.length_set]
      exact books.clients
  | withRetry position policy =>
    obtain ⟨slot, there, stepped⟩ := Option.bind_eq_some_iff.mp stepped
    obtain ⟨client, rfl, stepped⟩ := Option.bind_eq_some_iff.mp stepped
    cases stepped
    refine books.replaces there _ fun changed same => ?_
    cases same
    rfl
  | baseUrlWorded position url wording =>
    obtain ⟨slot, there, stepped⟩ := Option.bind_eq_some_iff.mp stepped
    obtain ⟨client, rfl, stepped⟩ := Option.bind_eq_some_iff.mp stepped
    cases stepped
    refine books.replaces there _ fun changed same => ?_
    cases same
    exact client.baseUrlWorded_cell outside url wording
  | tryBaseUrlWorded position url wording =>
    obtain ⟨slot, there, stepped⟩ := Option.bind_eq_some_iff.mp stepped
    obtain ⟨client, rfl, stepped⟩ := Option.bind_eq_some_iff.mp stepped
    cases stepped
    exact books.replaces there _ fun changed same => RestClient.tryBaseUrlWorded_cell outside same
  | getJson position path query =>
    obtain ⟨slot, there, stepped⟩ := Option.bind_eq_some_iff.mp stepped
    obtain ⟨client, rfl, stepped⟩ := Option.bind_eq_some_iff.mp stepped
    cases stepped
    exact books.joins path query
  | attempt position =>
    obtain ⟨request, there, stepped⟩ := Option.bind_eq_some_iff.mp stepped
    obtain ⟨header, now, stepped⟩ := Option.bind_eq_some_iff.mp stepped
    obtain ⟨after, moved, stepped⟩ := Option.bind_eq_some_iff.mp stepped
    cases stepped
    have member := List.mem_of_getElem? there
    rw [books.cells] at now
    exact books.moves there ((books.followed request member).attempt moved)
      ((books.reads request member).attempt now moved) (Request.attempt_same moved)
  | answer position outcome =>
    obtain ⟨request, there, stepped⟩ := Option.bind_eq_some_iff.mp stepped
    obtain ⟨after, moved, stepped⟩ := Option.bind_eq_some_iff.mp stepped
    cases stepped
    have member := List.mem_of_getElem? there
    have followed := books.followed request member
    exact books.moves there (followed.answer moved) ((books.reads request member).answer followed moved)
      (Request.answer_same followed moved)

end Books

end FugleMarketdata.Rest
