/-
**The REST client.** `RestClient` of `core/src/rest/client.rs`.

Clones share the cell of the credential header; the cells of a program are numbered, and `RestClient` has
the number of its own. The connection pool is the transport's, and what it gives each send is an argument.

* `BaseUrl` — a prefix and the version, once: what every request of a client is built on;
* `sendGet`, `RestClient.get` — one attempt, and the attempts of a request;
* `baseUrlWorded`, `tryBaseUrlWorded` — the setters of the base URL, the one that parks a refusal and the one
  that reports it.
-/

import FugleMarketdata.Models.Credentials
import FugleMarketdata.Rest.EndpointUrl
import FugleMarketdata.Rest.Response
import FugleMarketdata.Rest.Retry
import FugleMarketdata.Urls

namespace FugleMarketdata.Rest

open Errors Urls

/-! ### The base URL -/

/-- API version segment used by REST. -/
def API_VERSION : String := "v1.0"

/-- A base URL as the SDK resolves it: a host and a path prefix with no version of its own and no slash at
its end, and the version behind it. -/
structure BaseUrl where
  url : String
  pathPrefix : List Char
  versioned : url.toList = pathPrefix ++ '/' :: API_VERSION.toList
  plain : ¬ EndsInVersion pathPrefix
  solid : pathPrefix.getLast? ≠ some '/'

/-- REST API base URL (host + version, no trailing slash). -/
def REST_BASE : BaseUrl where
  url := "https://api.fugle.tw/marketdata/v1.0"
  pathPrefix := "https://api.fugle.tw/marketdata".toList
  versioned := by decide
  plain := trailingVersionSegment_eq_none.mp (by decide)
  solid := by decide

/-- What `with_version_worded` accepts is a base URL. -/
def BaseUrl.ofAccepted {base url : String} {wording : BaseUrlWording}
    (accepted : withVersionWorded base API_VERSION wording = .ok url) : BaseUrl where
  url
  pathPrefix := trimmed base
  versioned := by
    have plain : ¬ EndsInVersion (trimmed base) := by
      intro ends
      obtain ⟨refused, failed⟩ := (withVersionWorded_error_iff API_VERSION wording).mpr ends
      rw [failed] at accepted
      cases accepted
    rw [withVersionWorded_of_not_matches API_VERSION wording plain] at accepted
    cases accepted
    simp
  plain := by
    intro ends
    obtain ⟨refused, failed⟩ := (withVersionWorded_error_iff API_VERSION wording).mpr ends
    rw [failed] at accepted
    cases accepted
  solid := trimmed_getLast? base

/-! ### The credential header -/

/-- What other crates decide: whether `HeaderValue::from_str` takes a text, and what the error type
displays. -/
structure Outside where
  headerValueOk : String → Bool
  display : Errors.MarketDataError → String

/-- The credential's header, or the message for one that cannot be sent. -/
abbrev AuthHeader := Except String (String × String)

def authHeader (outside : Outside) (auth : Auth) : AuthHeader :=
  let header := auth.header
  match auth.validate with
  | .error (.configError message) => .error message
  | .error err => .error (outside.display err)
  | .ok () =>
    if outside.headerValueOk header.2 then .ok header
    else .error (header.1 ++ " credential contains characters not allowed in an HTTP header")

/-- A header that is sent is that of a credential that is not blank, in characters HTTP allows. -/
theorem authHeader_ok {outside : Outside} {auth : Auth} {header : String × String}
    (usable : authHeader outside auth = .ok header) :
    header = auth.header ∧ isProvided auth.secret = true ∧ outside.headerValueOk header.2 = true := by
  unfold authHeader at usable
  cases checked : auth.validate with
  | error err =>
    rw [checked] at usable
    cases err <;> cases usable
  | ok _ =>
    simp only [checked] at usable
    by_cases allowed : outside.headerValueOk auth.header.2 = true
    · rw [if_pos allowed] at usable
      cases usable
      exact ⟨rfl, auth.validate_ok_iff.mp checked, allowed⟩
    · rw [if_neg allowed] at usable
      cases usable

/-! ### The client -/

/-- Main REST client; `authHeader` is the number of the cell its clones share. -/
structure RestClient where
  authHeader : Nat
  baseUrl : BaseUrl
  retryPolicy : Option RetryPolicy
  configError : Option String

/-- What the transport gives a send. -/
abbrev Outcome := Except UreqError HttpResponse

/-- One GET attempt, from the header read and what the transport gives to the first send and, if there is
one, to the second. -/
def sendGet (header : AuthHeader) (url : String) (call : Nat → Outcome) :
    Except Errors.MarketDataError HttpResponse :=
  match header with
  | .error message => .error (.configError message)
  | .ok _ =>
    let response := match call 1 with
      | .error e => if droppedBeforeResponse e then call 2 else .error e
      | result => result
    settle url response

namespace RestClient

/-- The client `with_tls` makes around a cell. -/
def withTls (cell : Nat) : RestClient where
  authHeader := cell
  baseUrl := REST_BASE
  retryPolicy := none
  configError := none

variable (client : RestClient)

def withRetry (policy : RetryPolicy) : RestClient := { client with retryPolicy := some policy }

/-- Send an authenticated GET; `send` gives what each attempt comes to. -/
def get (hash : Nat → Nat) (send : Nat → Except Errors.MarketDataError HttpResponse) :
    Except Errors.MarketDataError HttpResponse :=
  match client.configError with
  | some message => .error (.configError message)
  | none =>
    match client.retryPolicy with
    | some policy => (run policy hash send).result
    | none => send 1

/-- The base URL set, or its refusal parked. -/
def baseUrlWorded (outside : Outside) (url : String) (wording : BaseUrlWording) : RestClient :=
  -- REST serves a single version: there is no version option to point at
  let wording := { wording with versionHint := "" }
  match accepted : withVersionWorded url API_VERSION wording with
  | .ok _ => { client with baseUrl := .ofAccepted accepted, configError := none }
  | .error (.configError message) => { client with configError := some message }
  | .error err => { client with configError := some (outside.display err) }

def setBaseUrl (outside : Outside) (url : String) : RestClient :=
  client.baseUrlWorded outside url { option := "base_url", versionHint := "" }

def rejectParked : Except Errors.MarketDataError RestClient :=
  match client.configError with
  | some message => .error (.configError message)
  | none => .ok client

def tryBaseUrlWorded (outside : Outside) (url : String) (wording : BaseUrlWording) :
    Except Errors.MarketDataError RestClient :=
  (client.baseUrlWorded outside url wording).rejectParked

def tryBaseUrl (outside : Outside) (url : String) : Except Errors.MarketDataError RestClient :=
  (client.setBaseUrl outside url).rejectParked

def resolvedBaseUrl : String := client.baseUrl.url

end RestClient

end FugleMarketdata.Rest
