/-
**What a request does, whatever runs beside it.** The results over the machine of `ClientRuns.lean`.

* `request_served` — a request returns what `get` does by itself, with the headers its cell held when the
  attempts began and what the transport gave;
* `request_sends` — how often it sends: nothing for a refused base or credential, twice an attempt at most
  and the second time after a dropped connection only, and another attempt only where the last answer is
  worth it;
* `header_current` — an attempt sends the header last set on any clone of its client, and that is never one
  of a blank credential;
* `request_url` — the URL has one version, and the path and the query read back from it.
-/

import FugleMarketdata.Rest.ClientRuns

namespace FugleMarketdata.Rest

open Errors Urls StepMachines StepMachine Registers Traces

/-! ### A run to look at -/

/-- Headers of plain text are accepted. -/
def plainText : Outside where
  headerValueOk _ := true
  display _ := ""

/-- A busy server, a dropped connection, and what was asked for. -/
def busy : HttpResponse := { status := 503, headers := [("Retry-After", "1")], body := none }

def droppedLate : UreqError := .io .unexpectedEof "Peer disconnected"

def found : HttpResponse := { status := 200, headers := [], body := some "[]" }

/-- A clone retries; its first attempt is resent and refused, and another credential is set on the client it
was cloned from before the second. -/
def renewedBetween : List RestLabel :=
  [.withTls (.apiKey "old"), .clone 0, .withRetry 1 .conservative, .getJson 1 ["stock"] [("a", "b")],
    .attempt 0, .answer 0 (.error droppedLate), .answer 0 (.ok busy), .setCredentials 0 (.sdkToken "new"),
    .attempt 0, .answer 0 (.ok found)]

/-- The run. -/
theorem renewedBetween_runs : ∃ run request, (restRuns plainText byteEncoders).Reachable run ∧
    run.requests = [request] ∧ request.stage = .returned (.ok found) ∧
    request.path = ["stock"] ∧ request.query = [("a", "b")] ∧
    request.attempts = [
      { moment := 1, header := .ok ("X-API-KEY", "old"), answers := [.error droppedLate, .ok busy],
        result := settle request.url (.ok busy) },
      { moment := 2, header := .ok ("X-SDK-TOKEN", "new"), answers := [.ok found], result := .ok found }] := by
  have ran : ∃ run request, (restRuns plainText byteEncoders).run {} renewedBetween = some run ∧
      run.requests = [request] ∧ request.stage = .returned (.ok found) ∧
      request.path = ["stock"] ∧ request.query = [("a", "b")] ∧
      request.attempts = [
        { moment := 1, header := .ok ("X-API-KEY", "old"), answers := [.error droppedLate, .ok busy],
          result := settle request.url (.ok busy) },
        { moment := 2, header := .ok ("X-SDK-TOKEN", "new"), answers := [.ok found], result := .ok found }] :=
    ⟨_, _, rfl, rfl, rfl, rfl, rfl, rfl⟩
  obtain ⟨run, request, steps, rest⟩ := ran
  exact ⟨run, request, reachable_of_run _ (Reachable.init _ rfl) steps, rest⟩

section Results

variable {outside : Outside} {encoders : Encoders} {run : RestRun} {request : Request}

/-! ### What is returned -/

/-- The loop of `run` makes as many attempts as the request did, and returns what the last came to. -/
theorem run_of_attempts (followed : Followed request) {policy : RetryPolicy}
    (has : request.client.retryPolicy = some policy) {last : Attempt}
    (ended : request.attempts.getLast? = some last)
    (stopped : ∀ err, last.result = .error err → err.isRetryable = true →
      request.attempts.length = policy.maxAttempts)
    (hash : Nat → Nat) {op : Nat → Except Errors.MarketDataError HttpResponse}
    (same : ∀ position attempt, request.attempts[position]? = some attempt →
      op (position + 1) = attempt.result) :
    (Rest.run policy hash op).result = last.result := by
  have limited : request.attempts.length ≤ policy.maxAttempts := by
    have limited := followed.limited
    rwa [has] at limited
  rw [List.getLast?_eq_getElem?] at ended
  have inside := (List.getElem?_eq_some_iff.mp ended).1
  have shift : request.attempts.length - 1 + 1 = request.attempts.length := by omega
  have final : op request.attempts.length = last.result := by
    rw [← same _ _ ended, shift]
  obtain ⟨count, positive, bound, -, result, retried, stops⟩ :=
    run_spec policy hash op (by omega)
  rcases Nat.lt_trichotomy count request.attempts.length with fewer | exactly | further
  · -- an attempt before the last one ended in an error worth another
    obtain ⟨attempt, there⟩ : ∃ attempt, request.attempts[count - 1]? = some attempt :=
      ⟨_, List.getElem?_eq_getElem (by omega)⟩
    obtain ⟨other, err, some_, -, failed, again⟩ := followed.again _ _ there (.inl (by omega))
    have gave := same _ _ there
    rw [show count - 1 + 1 = count by omega, failed] at gave
    rw [stops (by omega) err gave] at again
    cases again
  · rw [result, exactly, final]
  · obtain ⟨err, failed, again⟩ := retried request.attempts.length (by omega) further
    rw [final] at failed
    have all := stopped err failed again
    omega

/-- **A request returns what `get` does**: alone, with the headers its attempts read and with the answers
of the transport. Each of these headers is what the cell held at some moment since the request began, the
moments in order. -/
theorem request_served (reached : (restRuns outside encoders).Reachable run)
    (member : request ∈ run.requests) {result : Except Errors.MarketDataError HttpResponse}
    (returned : request.stage = .returned result) :
    (∀ attempt ∈ request.attempts, request.began ≤ attempt.moment ∧ attempt.moment ≤ run.writes.length ∧
      heldAt run.writes attempt.moment request.client.authHeader = some attempt.header) ∧
    (request.attempts.map Attempt.moment).Pairwise (· ≤ ·) ∧
    ∀ (hash : Nat → Nat) (header : Nat → AuthHeader) (call : Nat → Nat → Outcome),
      (∀ position attempt, request.attempts[position]? = some attempt →
        header (position + 1) = attempt.header ∧
        ∀ place outcome, attempt.answers[place]? = some outcome →
          call (position + 1) (place + 1) = outcome) →
      request.client.get hash (fun attempt => sendGet (header attempt) request.url (call attempt)) =
        result := by
  have books := RestBooks.reached outside encoders reached
  have followed := books.followed request member
  have reads := books.reads request member
  have all : request.reads = request.attempts.map fun attempt => (attempt.moment, attempt.header) := by
    rw [Request.reads, returned]
    exact List.append_nil _
  refine ⟨fun attempt inAttempts => ?_, ?_, fun hash header call given => ?_⟩
  · have inReads : (attempt.moment, attempt.header) ∈ request.reads := by
      rw [all]
      exact List.mem_map_of_mem inAttempts
    exact ⟨(reads.past _ inReads).1, (reads.past _ inReads).2, reads.holds _ inReads⟩
  · have ordered := reads.ordered
    rwa [all, List.map_map] at ordered
  · have same (position : Nat) (attempt : Attempt) (there : request.attempts[position]? = some attempt) :
        sendGet (header (position + 1)) request.url (call (position + 1)) = attempt.result := by
      rw [(given position attempt there).1]
      exact (followed.formed attempt (List.mem_of_getElem? there)).sendGet_eq (given position attempt there).2
    unfold RestClient.get
    cases fine : request.client.configError with
    | some message =>
      have refused := (followed.refused message fine).2
      rw [returned] at refused
      cases refused
      rfl
    | none =>
      rcases followed.ended result returned fine with ⟨last, ended, rfl, stopped⟩ |
        ⟨policy, has, without, nothing, rfl⟩
      · cases has : request.client.retryPolicy with
        | some policy => exact run_of_attempts followed has ended (stopped policy has) hash same
        | none =>
          have single := followed.limited
          rw [has] at single
          rw [List.getLast?_eq_getElem?] at ended
          have inside := (List.getElem?_eq_some_iff.mp ended).1
          rw [show request.attempts.length - 1 = 0 by omega] at ended
          exact same 0 last ended
      · rw [has]
        simp only [Rest.run, without, runLoop]
        rfl

/-- The request with the new credential returns what `get` does when the second attempt reads it. -/
theorem request_served_renewed : ∃ (client : RestClient) (url : String), ∀ (hash : Nat → Nat),
    client.get hash (fun attempt => sendGet
      (if attempt = 1 then .ok ("X-API-KEY", "old") else .ok ("X-SDK-TOKEN", "new")) url fun place =>
        if attempt = 1 ∧ place = 1 then .error droppedLate else if attempt = 1 then .ok busy else .ok found) =
      .ok found := by
  obtain ⟨run, request, reached, only, returned, -, -, attempts⟩ := renewedBetween_runs
  have member : request ∈ run.requests := by rw [only]; exact List.mem_singleton.mpr rfl
  obtain ⟨-, -, served⟩ := request_served reached member returned
  refine ⟨request.client, request.url, fun hash => served hash
    (fun attempt => if attempt = 1 then .ok ("X-API-KEY", "old") else .ok ("X-SDK-TOKEN", "new"))
    (fun attempt place => if attempt = 1 ∧ place = 1 then .error droppedLate
      else if attempt = 1 then .ok busy else .ok found) fun position attempt there => ?_⟩
  rw [attempts] at there
  match position, there with
  | 0, there =>
    cases there
    refine ⟨rfl, fun place outcome answered => ?_⟩
    match place, answered with
    | 0, answered => exact Option.some.inj answered
    | 1, answered => exact Option.some.inj answered
  | 1, there =>
    cases there
    refine ⟨rfl, fun place outcome answered => ?_⟩
    match place, answered with
    | 0, answered => exact Option.some.inj answered

/-! ### How often it sends -/

/-- How many attempts a client has for a request. -/
def RestClient.allowed (client : RestClient) : Nat :=
  match client.configError, client.retryPolicy with
  | some _, _ => 0
  | none, some policy => policy.maxAttempts
  | none, none => 1

/-- The answers of some attempts, so many each at most. -/
theorem length_answers_le {most : Nat} (attempts : List Attempt)
    (each : ∀ attempt ∈ attempts, attempt.answers.length ≤ most) :
    (attempts.flatMap Attempt.answers).length ≤ most * attempts.length := by
  induction attempts with
  | nil => exact Nat.zero_le _
  | cons attempt rest ih =>
    have first := each attempt List.mem_cons_self
    have others := ih fun other member => each other (List.mem_cons_of_mem attempt member)
    rw [List.flatMap_cons, List.length_append, List.length_cons, Nat.mul_succ]
    omega

/-- **What a request sends.** No more attempts than its client has, none for a client whose base was
refused; in each attempt nothing where no header is usable, else one send, and a second only after a
dropped connection; and another attempt only where the last answer of the one before is worth it. -/
theorem request_sends (reached : (restRuns outside encoders).Reachable run)
    (member : request ∈ run.requests) :
    request.attempts.length ≤ request.client.allowed ∧
    (request.attempts.flatMap Attempt.answers).length ≤ 2 * request.client.allowed ∧
    (∀ attempt ∈ request.attempts,
      (∀ message, attempt.header = .error message →
        attempt.answers = [] ∧ attempt.result = .error (.configError message)) ∧
      (∀ header, attempt.header = .ok header →
        (∃ outcome, attempt.answers = [outcome] ∧ attempt.result = settle request.url outcome ∧
          ∀ e, outcome = .error e → droppedBeforeResponse e = false) ∨
        ∃ e outcome, attempt.answers = [.error e, outcome] ∧ droppedBeforeResponse e = true ∧
          attempt.result = settle request.url outcome)) ∧
    ∀ position attempt, request.attempts[position]? = some attempt →
      (position + 1 < request.attempts.length ∨ request.stage.attempt?.isSome = true) →
      ∃ outcome, attempt.answers.getLast? = some outcome ∧ worthRetrying outcome = true := by
  have followed := (RestBooks.reached outside encoders reached).followed request member
  have most : request.attempts.length ≤ request.client.allowed := by
    unfold RestClient.allowed
    cases refused : request.client.configError with
    | some message =>
      rw [(followed.refused message refused).1]
      exact Nat.zero_le _
    | none =>
      have limited := followed.limited
      cases has : request.client.retryPolicy <;> rwa [has] at limited
  have each : ∀ attempt ∈ request.attempts, attempt.answers.length ≤ 2 := by
    intro attempt inAttempts
    cases followed.formed attempt inAttempts with
    | unsent moment message => exact Nat.zero_le _
    | once moment header outcome kept => exact Nat.le_succ 1
    | resent moment header e outcome dropped => exact Nat.le_refl _
  refine ⟨most, ?_, fun attempt inAttempts => ?_, fun position attempt there later => ?_⟩
  · exact (length_answers_le _ each).trans (Nat.mul_le_mul_left 2 most)
  · cases followed.formed attempt inAttempts with
    | unsent moment message =>
      refine ⟨fun other same => ?_, fun other same => ?_⟩
      · cases same
        exact ⟨rfl, rfl⟩
      · cases same
    | once moment header outcome kept =>
      exact ⟨(fun other same => by cases same), fun _ _ => .inl ⟨outcome, rfl, rfl, kept⟩⟩
    | resent moment header e outcome dropped =>
      exact ⟨(fun other same => by cases same), fun _ _ => .inr ⟨e, outcome, rfl, dropped, rfl⟩⟩
  · obtain ⟨policy, err, -, -, failed, again⟩ := followed.again position attempt there later
    exact (followed.formed attempt (List.mem_of_getElem? there)).isRetryable failed again

/-- Two attempts of the three it has, and three sends. -/
theorem request_sends_renewed : ∃ run request, (restRuns plainText byteEncoders).Reachable run ∧
    request ∈ run.requests ∧ (request.attempts.flatMap Attempt.answers).length = 3 ∧
    3 ≤ 2 * request.client.allowed := by
  obtain ⟨run, request, reached, only, -, -, -, attempts⟩ := renewedBetween_runs
  have member : request ∈ run.requests := by rw [only]; exact List.mem_singleton.mpr rfl
  obtain ⟨-, sends, -, -⟩ := request_sends reached member
  have three : (request.attempts.flatMap Attempt.answers).length = 3 := by rw [attempts]; rfl
  rw [three] at sends
  exact ⟨run, request, reached, member, three, sends⟩

/-! ### Which credential it sends -/

/-- **An attempt sends the header last set on its client or on any clone of it**, and one that is usable:
the header read is that of the last write to the cell before the attempt, no earlier than the request
began, and it carries a credential that is not blank. Once a cell holds a usable header it always does. -/
theorem header_current (reached : (restRuns outside encoders).Reachable run) :
    (∀ request ∈ run.requests, ∀ moment header, (moment, .ok header) ∈ request.reads →
      Usable outside header ∧ request.began ≤ moment ∧
      ∃ before behind, run.writes.take moment = before ++ (request.client.authHeader, .ok header) :: behind ∧
        ∀ write ∈ behind, write.1 ≠ request.client.authHeader) ∧
    ∀ before cell header behind, run.writes = before ++ (cell, header) :: behind →
      (∃ earlier, (cell, earlier) ∈ before) → ∃ sent, header = .ok sent ∧ Usable outside sent := by
  have books := RestBooks.reached outside encoders reached
  refine ⟨fun request member moment header inReads => ?_, fun before cell header behind whole earlier => ?_⟩
  · have reads := books.reads request member
    obtain ⟨before, behind, whole, others⟩ := held_eq_some.mp (reads.holds _ inReads)
    refine ⟨?_, (reads.past _ inReads).1, before, behind, whole, others⟩
    have split : run.writes = before ++ (request.client.authHeader, .ok header) ::
        (behind ++ run.writes.drop moment) := by
      rw [← List.cons_append, ← List.append_assoc, ← whole, List.take_append_drop]
    rcases books.written before _ _ split with ⟨sent, same, usable⟩ | ⟨⟨message, same⟩, -⟩
    · cases same
      exact usable
    · cases same
  · rcases books.written before _ _ whole with written | ⟨-, first⟩
    · exact written
    · obtain ⟨value, there⟩ := earlier
      obtain ⟨last, holds⟩ := exists_held_of_mem there
      rw [first] at holds
      cases holds

/-- The second attempt sends the credential set on the client its own was cloned from. -/
theorem header_current_renewed : ∃ run request, (restRuns plainText byteEncoders).Reachable run ∧
    request ∈ run.requests ∧ Usable plainText ("X-SDK-TOKEN", "new") ∧
    (2, Except.ok ("X-SDK-TOKEN", "new")) ∈ request.reads := by
  obtain ⟨run, request, reached, only, returned, -, -, attempts⟩ := renewedBetween_runs
  have member : request ∈ run.requests := by rw [only]; exact List.mem_singleton.mpr rfl
  have inReads : (2, Except.ok ("X-SDK-TOKEN", "new")) ∈ request.reads := by
    rw [Request.reads, attempts, returned]
    exact List.mem_append_left _ (List.mem_cons_of_mem _ List.mem_cons_self)
  exact ⟨run, request, reached, member, ((header_current reached).1 request member 2 _ inReads).1, inReads⟩

/-! ### Where it goes -/

/-- **A request's URL has one version, and reads back**: a prefix without a version, the version, and
behind it the path and the query asked for. -/
theorem request_url (documented : encoders.Documented)
    (reached : (restRuns outside encoders).Reachable run) (member : request ∈ run.requests) :
    ∃ pathPrefix appended, request.url.toList = pathPrefix ++ '/' :: API_VERSION.toList ++ appended ∧
      ¬ EndsInVersion pathPrefix ∧ pathPrefix.getLast? ≠ some '/' ∧
      readAppended appended = some (request.path, request.query) := by
  refine ⟨request.client.baseUrl.pathPrefix, pathText request.path ++ queryText request.query, ?_,
    request.client.baseUrl.plain, request.client.baseUrl.solid, readAppended_text _ _⟩
  rw [(RestBooks.reached outside encoders reached).urls request member,
    toList_endpointUrl documented, request.client.baseUrl.versioned]

/-- The path and the query of the request come back from its URL. -/
theorem request_url_renewed : ∃ run request pathPrefix appended,
    (restRuns plainText byteEncoders).Reachable run ∧ request ∈ run.requests ∧
    request.url.toList = pathPrefix ++ '/' :: API_VERSION.toList ++ appended ∧
    readAppended appended = some (["stock"], [("a", "b")]) := by
  obtain ⟨run, request, reached, only, -, path, query, -⟩ := renewedBetween_runs
  have member : request ∈ run.requests := by rw [only]; exact List.mem_singleton.mpr rfl
  obtain ⟨pathPrefix, appended, url, -, -, back⟩ := request_url byteEncoders_documented reached member
  rw [path, query] at back
  exact ⟨run, request, pathPrefix, appended, reached, member, url, back⟩

end Results

end FugleMarketdata.Rest
